import ModbusGateway.Theory.Run
import ModbusGateway.Web.Save

/-!
# Clients, saves and restarts

The web server over many boots. Clients read the configuration and post saves whenever they like, with
any body, so that a save may carry a revision that was read long ago. A write that fails leaves the old
blob or the new one, and a boot happens at any time; it is a boot of this system when it loads the durable
blob.
-/

namespace ModbusGateway

/-- `sizeof(config_error)`. -/
def CONFIG_ERROR_BYTES : Nat := 192

structure WebDevice where
  web : WebState
  map : CustomMap := {}
  running : Bool := false

/-- The configuration in the body of a save, if it is one. -/
def sentConfig (env : ConfigEnv) (memory : ConfigMemory) (body : List Char) (active : GatewayConfig) :
    Option GatewayConfig :=
  let r := gatewayConfigParse env memory body active gatewayConfigDefaults {} [] SAVE_ERROR_BYTES
  if r.ok then some r.out else none

/-- The text that a save tries to write. -/
def savedText (print : JsonMembers → List Char) (c : GatewayConfig) : List Char :=
  print (gatewayConfigJson { c with revision := u32 (c.revision + 1) } true)

/-- The calls of a boot go well and NVS returns the durable blob, if there is one. -/
def LoadCalls.Reads (calls : LoadCalls) : Option (List Char) → Prop
  | none => calls.prepare = ESP_OK ∧ calls.init = ESP_OK ∧ calls.opened = ESP_OK ∧
      calls.size.1 = ESP_ERR_NVS_NOT_FOUND
  | some blob => calls.prepare = ESP_OK ∧ calls.init = ESP_OK ∧ calls.opened = ESP_OK ∧
      calls.size = (ESP_OK, blob.length) ∧ calls.buffer = true ∧ calls.read = (ESP_OK, blob.length) ∧
      calls.memory = ⟨true, true, true, true⟩

/-- A save as it is seen from outside: what was sent, the reply, and the durable blob before and after. -/
structure SaveEvent where
  sent : Option GatewayConfig
  reply : SaveReply
  before : Option (List Char)
  after : Option (List Char)

inductive WebEvent where
  | read (client revision : Nat)
  | save (client : Nat) (e : SaveEvent)
  | boot (active : GatewayConfig) (map : CustomMap)

/-- One request, or a restart; `base` is what `app_main` has before it loads the blob. -/
inductive WebStep (env : ConfigEnv) (print : JsonMembers → List Char) (base : GatewayConfig) :
    WebDevice → WebEvent → WebDevice → Prop
  | read (client : Nat) : s.running = true →
    WebStep env print base s (.read client s.web.active.revision) s
  | save (client : Nat) (calls : SaveCalls) (kept : Option (List Char)) (body : List Char) :
    s.running = true →
    (kept = s.web.stored ∨
      ∃ c, sentConfig env calls.memory body s.web.active = some c ∧ kept = some (savedText print c)) →
    WebStep env print base s
      (.save client
        { sent := sentConfig env calls.memory body s.web.active
          reply := (saveHandler env print calls kept body s.web).1
          before := s.web.stored
          after := (saveHandler env print calls kept body s.web).2.stored })
      { s with web := (saveHandler env print calls kept body s.web).2 }
  | boot (errName : EspErr → String) (calls : LoadCalls) : calls.Reads s.web.stored →
    gatewayWebLoad env errName calls (s.web.stored.getD []) base {} CONFIG_ERROR_BYTES =
      (active, map, []) →
    WebStep env print base s (.boot active map)
      { web := { active, restartPending := false, stored := s.web.stored }, map, running := true }

/-- A device that is off, with some blob or none. -/
def webSystem (env : ConfigEnv) (print : JsonMembers → List Char) (base : GatewayConfig) :
    StepSystem WebDevice WebEvent where
  init s := s.running = false
  step := WebStep env print base

end ModbusGateway
