import ModbusGateway.Theory.Run
import ModbusGateway.Theory.Crc
import ModbusGateway.Theory.Samples
import ModbusGateway.Theory.Checks
import ModbusGateway.Theory.Words
import ModbusGateway.Theory.Csv
import ModbusGateway.Theory.JsonText
import ModbusGateway.Theory.EarliestDue
import ModbusGateway.Theory.Binary64
import ModbusGateway.Theory.Subnet
import ModbusGateway.Basic
import ModbusGateway.Modbus.Frame
import ModbusGateway.Ats.Map
import ModbusGateway.Ats.Model
import ModbusGateway.Poll.Gateway
import ModbusGateway.Verify.PollStep
import ModbusGateway.Verify.IdentityGate
import ModbusGateway.Verify.BlockSamples
import ModbusGateway.Verify.PointQuality
import ModbusGateway.Verify.PointContext
import ModbusGateway.Custom.Map
import ModbusGateway.Custom.Poll
import ModbusGateway.Verify.CustomSamples
import ModbusGateway.App.PollTask
import ModbusGateway.Verify.AppStep
import ModbusGateway.Verify.NetworkChange
import ModbusGateway.Verify.Spacing
import ModbusGateway.Verify.Backoff
import ModbusGateway.Verify.FailureLog
import ModbusGateway.Verify.SnapshotClock
import ModbusGateway.App.Startup
import ModbusGateway.Verify.Startup
import ModbusGateway.History.Blob
import ModbusGateway.History.Worker
import ModbusGateway.History.Report
import ModbusGateway.Verify.HistoryRing
import ModbusGateway.Verify.HistoryChecksum
import ModbusGateway.Verify.HistoryCrash
import ModbusGateway.Verify.HistoryInit
import ModbusGateway.Verify.HistoryLog
import ModbusGateway.Verify.ResponseFrame
import ModbusGateway.Verify.Streaming
import ModbusGateway.Verify.Deadline
import ModbusGateway.Verify.CsvRow
import ModbusGateway.Verify.RowScan
import ModbusGateway.Custom.Parse
import ModbusGateway.Verify.MapStore
import ModbusGateway.Verify.MapRow
import ModbusGateway.Custom.Integer
import ModbusGateway.Verify.Integer
import ModbusGateway.Verify.MapParse
import ModbusGateway.Verify.MapRoundTrip
import ModbusGateway.Verify.MapSafety
import ModbusGateway.Config.Parse
import ModbusGateway.Verify.JsonScan
import ModbusGateway.Verify.ConfigParse
import ModbusGateway.Config.Print
import ModbusGateway.Web.Save
import ModbusGateway.Verify.FlatJson
import ModbusGateway.Verify.SavedConfig
import ModbusGateway.Bacnet.Catalog
import ModbusGateway.Verify.Catalog
import ModbusGateway.Storage.Prepare
import ModbusGateway.Verify.Storage
import ModbusGateway.Verify.StorageAgain
import ModbusGateway.Verify.CustomDecode
import ModbusGateway.Ota.Auth
import ModbusGateway.Ota.Handlers
import ModbusGateway.Ota.Validation
import ModbusGateway.Web.Request
import ModbusGateway.Verify.OtaAuth
import ModbusGateway.Verify.Upload
import ModbusGateway.Verify.Validation
import ModbusGateway.Bacnet.Recovery
import ModbusGateway.Bacnet.Publish
import ModbusGateway.Verify.Recovery
import ModbusGateway.Verify.Publish
import ModbusGateway.Verify.CustomTiming
import ModbusGateway.Verify.CustomFresh
import ModbusGateway.Verify.BlockTiming
import ModbusGateway.Verify.Starvation
import ModbusGateway.Verify.BlockFresh
import ModbusGateway.Web.Session
import ModbusGateway.Verify.Updates
import ModbusGateway.Bacnet.Session
import ModbusGateway.Verify.CovTable
import ModbusGateway.Bacnet.Datagram
import ModbusGateway.Verify.Datagram
import ModbusGateway.Bacnet.Port
import ModbusGateway.Verify.Port
import ModbusGateway.Bacnet.Network
import ModbusGateway.Verify.Network
import ModbusGateway.Verify.NetworkRun
import ModbusGateway.Verify.NetworkQueue
import ModbusGateway.App.BacnetTask
import ModbusGateway.Verify.BacnetTask
import ModbusGateway.Ota.Device
import ModbusGateway.Ota.Client
import ModbusGateway.Verify.Deployment
import ModbusGateway.Ota.Image
import ModbusGateway.Verify.Image
import ModbusGateway.Ota.Credentials
import ModbusGateway.Verify.Credentials
