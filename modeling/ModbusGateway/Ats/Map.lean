import ModbusGateway.Basic

/-!
# The MPAC1500 point map

`ats_map.inc`: the points of the built-in catalogue, how each is decoded, and the scan blocks the
poller reads. A row of a table has its fields in the order of the C initializer.
-/

namespace ModbusGateway

def ATS_POINT_COUNT : Nat := 164
def ATS_MAX_POINT_WORDS : Nat := 10
def ATS_TEXT_CAPACITY : Nat := 80

/-- BACnet object types of the catalogue. -/
def OBJECT_ANALOG_INPUT : Nat := 0
def OBJECT_BINARY_INPUT : Nat := 3
def OBJECT_MULTI_STATE_INPUT : Nat := 13
def OBJECT_CHARACTERSTRING_VALUE : Nat := 40

/-- `ats_point_def_t`; a string is its characters, a NULL state table is `none`. -/
structure AtsPointDef where
  objectType : Nat
  instanceNumber : Nat
  name : CString
  description : CString
  units : Nat
  stateCount : Nat
  stateText : Option (List CString)
  offset : Nat
  wordCount : Nat
  bitLsb : Nat
  bitWidth : Nat
  deriving DecidableEq

/-- `ats_scan_block_t`. -/
structure AtsScanBlock where
  offset : Nat
  count : Nat
  periodMs : Nat
  staleMs : Nat
  name : CString

/-- `encoding_t`. -/
inductive Encoding where
  | u16
  | bool
  | enum
  | u32
  | ascii
  | clock
  | date
  | version
  deriving DecidableEq

/-- `point_decode_t`. -/
structure PointDecode where
  encoding : Encoding
  numerator : Nat
  denominator : Nat

/-- A row of `ats_points`. -/
def atsPoint (objectType instanceNumber : Nat) (name description : String) (units stateCount : Nat)
    (states : List String) (offset wordCount bitLsb bitWidth : Nat) : AtsPointDef where
  objectType
  instanceNumber
  name := name.toList
  description := description.toList
  units
  stateCount
  stateText := if states.isEmpty then none else some (states.map String.toList)
  offset
  wordCount
  bitLsb
  bitWidth

def states1002 : List String :=
  ["Off", "Normal", "Emergency", "Fault", "Unknown"]
def states1003 : List String :=
  ["Source 1", "Source 2", "Unknown"]
def states1026 : List String :=
  ["Disabled", "ABC", "CBA", "Unknown"]
def states1027 : List String :=
  ["Disabled", "ABC", "CBA", "Unknown"]
def states1028 : List String :=
  ["Disabled", "ABC", "CBA", "Unknown"]
def states1036 : List String :=
  ["Open", "Programmed", "Closed", "Reserved", "Unknown"]
def states1037 : List String :=
  ["Genset to genset", "Genset to utility", "Utility to utility", "Utility to generator-generator", "Unknown"]
def states1038 : List String :=
  ["Auto", "Manual", "Unknown"]
def states1082 : List String :=
  ["Not installed", "Standard", "Power", "Unknown"]
def states1083 : List String :=
  ["Not installed", "Standard", "Power", "Unknown"]
def states1084 : List String :=
  ["Not installed", "Standard", "Power", "Unknown"]
def states1085 : List String :=
  ["Not installed", "Standard", "Power", "Unknown"]
def states1086 : List String :=
  ["Not installed", "Normal", "Chicago", "Silence", "Unknown"]
def states1116 : List String :=
  ["DMO (manual notation)", "Day", "Week", "Month", "Unknown"]
def states1124 : List String :=
  ["DMO (manual notation)", "Day", "Week", "Month", "Unknown"]

def atsPointTable : List AtsPointDef := [
  atsPoint 0 1001 "ATS-System-overview-raw"
    "MPAC1500 old-map section 13; FC03 offset 0; read-only System overview raw."
    95 0 [] 0 1 0 0,
  atsPoint 13 1002 "ATS-Contactor-position"
    "MPAC1500 old-map section 13; FC03 offset 0; read-only Contactor position."
    95 5 states1002 0 1 0 2,
  atsPoint 13 1003 "ATS-Preferred-source"
    "MPAC1500 old-map section 13; FC03 offset 0; read-only Preferred source."
    95 3 states1003 0 1 2 1,
  atsPoint 0 1004 "ATS-Top-warning-event-code"
    "MPAC1500 old-map section 13; FC03 offset 0; read-only Top warning/event code. One top event only, not all simultaneous alarms; code 256 means System Ready."
    95 0 [] 0 1 3 10,
  atsPoint 3 1005 "ATS-Preferred-source-available"
    "MPAC1500 old-map section 13; FC03 offset 0; read-only Preferred source available."
    95 0 [] 0 1 13 1,
  atsPoint 3 1006 "ATS-Standby-source-available"
    "MPAC1500 old-map section 13; FC03 offset 0; read-only Standby source available."
    95 0 [] 0 1 14 1,
  atsPoint 0 1007 "ATS-Normal-voltage-L1-N"
    "MPAC1500 old-map section 13; FC03 offset 1; read-only Normal voltage L1-N. Controller-reported L-N voltage; site sensing/wiring qualification not established."
    5 0 [] 1 1 0 0,
  atsPoint 0 1008 "ATS-Normal-voltage-L2-N"
    "MPAC1500 old-map section 13; FC03 offset 2; read-only Normal voltage L2-N. Controller-reported L-N voltage; site sensing/wiring qualification not established."
    5 0 [] 2 1 0 0,
  atsPoint 0 1009 "ATS-Normal-voltage-L3-N"
    "MPAC1500 old-map section 13; FC03 offset 3; read-only Normal voltage L3-N. Controller-reported L-N voltage; site sensing/wiring qualification not established."
    5 0 [] 3 1 0 0,
  atsPoint 0 1010 "ATS-Emergency-voltage-L1-N"
    "MPAC1500 old-map section 13; FC03 offset 4; read-only Emergency voltage L1-N. Controller-reported L-N voltage; site sensing/wiring qualification not established."
    5 0 [] 4 1 0 0,
  atsPoint 0 1011 "ATS-Emergency-voltage-L2-N"
    "MPAC1500 old-map section 13; FC03 offset 5; read-only Emergency voltage L2-N. Controller-reported L-N voltage; site sensing/wiring qualification not established."
    5 0 [] 5 1 0 0,
  atsPoint 0 1012 "ATS-Emergency-voltage-L3-N"
    "MPAC1500 old-map section 13; FC03 offset 6; read-only Emergency voltage L3-N. Controller-reported L-N voltage; site sensing/wiring qualification not established."
    5 0 [] 6 1 0 0,
  atsPoint 0 1013 "ATS-Normal-voltage-L1-L2"
    "MPAC1500 old-map section 13; FC03 offset 7; read-only Normal voltage L1-L2."
    5 0 [] 7 1 0 0,
  atsPoint 0 1014 "ATS-Normal-voltage-L2-L3"
    "MPAC1500 old-map section 13; FC03 offset 8; read-only Normal voltage L2-L3."
    5 0 [] 8 1 0 0,
  atsPoint 0 1015 "ATS-Normal-voltage-L3-L1"
    "MPAC1500 old-map section 13; FC03 offset 9; read-only Normal voltage L3-L1."
    5 0 [] 9 1 0 0,
  atsPoint 0 1016 "ATS-Emergency-voltage-L1-L2"
    "MPAC1500 old-map section 13; FC03 offset 10; read-only Emergency voltage L1-L2."
    5 0 [] 10 1 0 0,
  atsPoint 0 1017 "ATS-Emergency-voltage-L2-L3"
    "MPAC1500 old-map section 13; FC03 offset 11; read-only Emergency voltage L2-L3."
    5 0 [] 11 1 0 0,
  atsPoint 0 1018 "ATS-Emergency-voltage-L3-L1"
    "MPAC1500 old-map section 13; FC03 offset 12; read-only Emergency voltage L3-L1."
    5 0 [] 12 1 0 0,
  atsPoint 0 1019 "ATS-Normal-frequency"
    "MPAC1500 old-map section 13; FC03 offset 13; read-only Normal frequency."
    27 0 [] 13 1 0 0,
  atsPoint 0 1020 "ATS-Emergency-frequency"
    "MPAC1500 old-map section 13; FC03 offset 14; read-only Emergency frequency."
    27 0 [] 14 1 0 0,
  atsPoint 0 1021 "ATS-Current-L1"
    "MPAC1500 old-map section 13; FC03 offset 15; read-only Current L1. CT/current sensing is unverified; readable values remain faulted."
    3 0 [] 15 1 0 0,
  atsPoint 0 1022 "ATS-Current-L2"
    "MPAC1500 old-map section 13; FC03 offset 16; read-only Current L2. CT/current sensing is unverified; readable values remain faulted."
    3 0 [] 16 1 0 0,
  atsPoint 0 1023 "ATS-Current-L3"
    "MPAC1500 old-map section 13; FC03 offset 17; read-only Current L3. CT/current sensing is unverified; readable values remain faulted."
    3 0 [] 17 1 0 0,
  atsPoint 0 1024 "ATS-Closed-transition-phase-difference"
    "MPAC1500 old-map section 13; FC03 offset 18; read-only Closed-transition phase difference. Inter-source measurement requires qualified synchronization conditions; retain raw with qualification fault."
    90 0 [] 18 1 0 0,
  atsPoint 0 1025 "ATS-Synchronous-phase-angle-register"
    "MPAC1500 old-map section 13; FC03 offset 40; read-only Synchronous phase-angle register. Inter-source measurement requires qualified synchronization conditions; retain raw with qualification fault."
    90 0 [] 40 1 0 0,
  atsPoint 13 1026 "ATS-Normal-reported-phase-rotation"
    "MPAC1500 old-map section 13; FC03 offset 44; read-only Normal reported phase rotation. Reported code may be retained while source is unavailable."
    95 4 states1026 44 1 8 8,
  atsPoint 13 1027 "ATS-Emergency-reported-phase-rotation"
    "MPAC1500 old-map section 13; FC03 offset 44; read-only Emergency reported phase rotation. Reported code may be retained while source is unavailable."
    95 4 states1027 44 1 0 8,
  atsPoint 13 1028 "ATS-Expected-phase-rotation"
    "MPAC1500 old-map section 13; FC03 offset 45; read-only Expected phase rotation. Native setting is read-only through this gateway."
    95 4 states1028 45 1 0 0,
  atsPoint 0 1029 "ATS-Nominal-normal-voltage"
    "MPAC1500 old-map section 13; FC03 offset 46; read-only Nominal normal voltage. Native setting is read-only through this gateway."
    5 0 [] 46 1 0 0,
  atsPoint 0 1030 "ATS-Nominal-emergency-voltage"
    "MPAC1500 old-map section 13; FC03 offset 47; read-only Nominal emergency voltage. Native setting is read-only through this gateway."
    5 0 [] 47 1 0 0,
  atsPoint 0 1031 "ATS-Nominal-normal-frequency"
    "MPAC1500 old-map section 13; FC03 offset 48; read-only Nominal normal frequency. Native setting is read-only through this gateway."
    27 0 [] 48 1 0 0,
  atsPoint 0 1032 "ATS-Nominal-emergency-frequency"
    "MPAC1500 old-map section 13; FC03 offset 49; read-only Nominal emergency frequency. Native setting is read-only through this gateway."
    27 0 [] 49 1 0 0,
  atsPoint 0 1033 "ATS-Normal-phase-count"
    "MPAC1500 old-map section 13; FC03 offset 50; read-only Normal phase count. Native setting is read-only through this gateway."
    95 0 [] 50 1 0 0,
  atsPoint 0 1034 "ATS-Emergency-phase-count"
    "MPAC1500 old-map section 13; FC03 offset 51; read-only Emergency phase count. Native setting is read-only through this gateway."
    95 0 [] 51 1 0 0,
  atsPoint 0 1035 "ATS-Rated-current"
    "MPAC1500 old-map section 13; FC03 offset 52; read-only Rated current. Native setting is read-only through this gateway."
    3 0 [] 52 1 0 0,
  atsPoint 13 1036 "ATS-Transition-mode"
    "MPAC1500 old-map section 13; FC03 offset 56; read-only Transition mode. Native setting is read-only through this gateway."
    95 5 states1036 56 1 0 2,
  atsPoint 13 1037 "ATS-Operating-mode"
    "MPAC1500 old-map section 13; FC03 offset 56; read-only Operating mode. Native setting is read-only through this gateway."
    95 5 states1037 56 1 2 2,
  atsPoint 13 1038 "ATS-Supervised-transfer-switch"
    "MPAC1500 old-map section 13; FC03 offset 56; read-only Supervised transfer switch. Native setting is read-only through this gateway."
    95 3 states1038 56 1 4 1,
  atsPoint 0 1039 "ATS-Active-delay-number"
    "MPAC1500 old-map section 13; FC03 offset 74; read-only Active delay number."
    95 0 [] 74 1 0 0,
  atsPoint 0 1040 "ATS-Active-delay-remaining"
    "MPAC1500 old-map section 13; FC03 offset 75; read-only Active delay remaining."
    73 0 [] 75 1 0 0,
  atsPoint 0 1041 "ATS-Active-delay-preset"
    "MPAC1500 old-map section 13; FC03 offset 76; read-only Active delay preset."
    73 0 [] 76 1 0 0,
  atsPoint 0 1042 "ATS-Normal-engine-start-delay"
    "MPAC1500 old-map section 13; FC03 offset 58; read-only Normal engine-start delay. Native setting is read-only through this gateway."
    73 0 [] 58 1 0 0,
  atsPoint 0 1043 "ATS-Emergency-engine-start-delay"
    "MPAC1500 old-map section 13; FC03 offset 59; read-only Emergency engine-start delay. Native setting is read-only through this gateway."
    73 0 [] 59 1 0 0,
  atsPoint 0 1044 "ATS-Normal-extended-engine-start-delay"
    "MPAC1500 old-map section 13; FC03 offset 60; read-only Normal extended engine-start delay. Native setting is read-only through this gateway."
    73 0 [] 60 1 0 0,
  atsPoint 0 1045 "ATS-Emergency-extended-engine-start-delay"
    "MPAC1500 old-map section 13; FC03 offset 61; read-only Emergency extended engine-start delay. Native setting is read-only through this gateway."
    73 0 [] 61 1 0 0,
  atsPoint 0 1046 "ATS-Normal-engine-cooldown"
    "MPAC1500 old-map section 13; FC03 offset 62; read-only Normal engine cooldown. Native setting is read-only through this gateway."
    73 0 [] 62 1 0 0,
  atsPoint 0 1047 "ATS-Emergency-engine-cooldown"
    "MPAC1500 old-map section 13; FC03 offset 63; read-only Emergency engine cooldown. Native setting is read-only through this gateway."
    73 0 [] 63 1 0 0,
  atsPoint 0 1048 "ATS-Standby-to-preferred-delay"
    "MPAC1500 old-map section 13; FC03 offset 64; read-only Standby-to-preferred delay. Native setting is read-only through this gateway."
    73 0 [] 64 1 0 0,
  atsPoint 0 1049 "ATS-Preferred-to-standby-delay"
    "MPAC1500 old-map section 13; FC03 offset 65; read-only Preferred-to-standby delay. Native setting is read-only through this gateway."
    73 0 [] 65 1 0 0,
  atsPoint 0 1050 "ATS-Off-delay-preferred-to-standby"
    "MPAC1500 old-map section 13; FC03 offset 66; read-only Off delay preferred-to-standby. Native setting is read-only through this gateway."
    73 0 [] 66 1 0 0,
  atsPoint 0 1051 "ATS-Off-delay-standby-to-preferred"
    "MPAC1500 old-map section 13; FC03 offset 67; read-only Off delay standby-to-preferred. Native setting is read-only through this gateway."
    73 0 [] 67 1 0 0,
  atsPoint 0 1052 "ATS-Fail-to-acquire-preferred-delay"
    "MPAC1500 old-map section 13; FC03 offset 68; read-only Fail-to-acquire preferred delay. Native setting is read-only through this gateway."
    73 0 [] 68 1 0 0,
  atsPoint 0 1053 "ATS-Fail-to-acquire-standby-delay"
    "MPAC1500 old-map section 13; FC03 offset 69; read-only Fail-to-acquire standby delay. Native setting is read-only through this gateway."
    73 0 [] 69 1 0 0,
  atsPoint 0 1054 "ATS-Fail-to-synchronize-delay"
    "MPAC1500 old-map section 13; FC03 offset 70; read-only Fail-to-synchronize delay. Native setting is read-only through this gateway."
    73 0 [] 70 1 0 0,
  atsPoint 3 1055 "ATS-Fail-to-synchronize-enabled"
    "MPAC1500 old-map section 13; FC03 offset 71; read-only Fail-to-synchronize enabled. Native setting is read-only through this gateway."
    95 0 [] 71 1 0 1,
  atsPoint 0 1056 "ATS-Normal-overvoltage-dropout"
    "MPAC1500 old-map section 13; FC03 offset 77; read-only Normal overvoltage dropout. Native setting is read-only through this gateway. Percent denominator: nominal. Configuration threshold, not a live alarm."
    98 0 [] 77 1 0 0,
  atsPoint 0 1057 "ATS-Normal-overvoltage-pickup"
    "MPAC1500 old-map section 13; FC03 offset 78; read-only Normal overvoltage pickup. Native setting is read-only through this gateway. Percent denominator: nominal. Configuration threshold, not a live alarm."
    98 0 [] 78 1 0 0,
  atsPoint 0 1058 "ATS-Normal-undervoltage-pickup"
    "MPAC1500 old-map section 13; FC03 offset 79; read-only Normal undervoltage pickup. Native setting is read-only through this gateway. Percent denominator: nominal. Configuration threshold, not a live alarm."
    98 0 [] 79 1 0 0,
  atsPoint 0 1059 "ATS-Normal-undervoltage-dropout"
    "MPAC1500 old-map section 13; FC03 offset 80; read-only Normal undervoltage dropout. Native setting is read-only through this gateway. Percent denominator: pickup. Configuration threshold, not a live alarm."
    98 0 [] 80 1 0 0,
  atsPoint 3 1060 "ATS-Normal-voltage-unbalance-enabled"
    "MPAC1500 old-map section 13; FC03 offset 81; read-only Normal voltage unbalance enabled. Native setting is read-only through this gateway. Configuration threshold, not a live alarm."
    95 0 [] 81 1 0 0,
  atsPoint 0 1061 "ATS-Normal-voltage-unbalance-dropout"
    "MPAC1500 old-map section 13; FC03 offset 82; read-only Normal voltage unbalance dropout. Native setting is read-only through this gateway. Configuration threshold, not a live alarm."
    98 0 [] 82 1 0 0,
  atsPoint 0 1062 "ATS-Normal-voltage-unbalance-pickup"
    "MPAC1500 old-map section 13; FC03 offset 83; read-only Normal voltage unbalance pickup. Native setting is read-only through this gateway. Configuration threshold, not a live alarm."
    98 0 [] 83 1 0 0,
  atsPoint 0 1063 "ATS-Normal-voltage-debounce-time"
    "MPAC1500 old-map section 13; FC03 offset 84; read-only Normal voltage debounce time. Native setting is read-only through this gateway. Configuration threshold, not a live alarm."
    73 0 [] 84 1 0 0,
  atsPoint 0 1064 "ATS-Emergency-overvoltage-dropout"
    "MPAC1500 old-map section 13; FC03 offset 85; read-only Emergency overvoltage dropout. Native setting is read-only through this gateway. Percent denominator: nominal. Configuration threshold, not a live alarm."
    98 0 [] 85 1 0 0,
  atsPoint 0 1065 "ATS-Emergency-overvoltage-pickup"
    "MPAC1500 old-map section 13; FC03 offset 86; read-only Emergency overvoltage pickup. Native setting is read-only through this gateway. Percent denominator: nominal. Configuration threshold, not a live alarm."
    98 0 [] 86 1 0 0,
  atsPoint 0 1066 "ATS-Emergency-undervoltage-pickup"
    "MPAC1500 old-map section 13; FC03 offset 87; read-only Emergency undervoltage pickup. Native setting is read-only through this gateway. Percent denominator: nominal. Configuration threshold, not a live alarm."
    98 0 [] 87 1 0 0,
  atsPoint 0 1067 "ATS-Emergency-undervoltage-dropout"
    "MPAC1500 old-map section 13; FC03 offset 88; read-only Emergency undervoltage dropout. Native setting is read-only through this gateway. Percent denominator: pickup. Configuration threshold, not a live alarm."
    98 0 [] 88 1 0 0,
  atsPoint 3 1068 "ATS-Emergency-voltage-unbalance-enabled"
    "MPAC1500 old-map section 13; FC03 offset 89; read-only Emergency voltage unbalance enabled. Native setting is read-only through this gateway. Configuration threshold, not a live alarm."
    95 0 [] 89 1 0 0,
  atsPoint 0 1069 "ATS-Emergency-voltage-unbalance-dropout"
    "MPAC1500 old-map section 13; FC03 offset 90; read-only Emergency voltage unbalance dropout. Native setting is read-only through this gateway. Configuration threshold, not a live alarm."
    98 0 [] 90 1 0 0,
  atsPoint 0 1070 "ATS-Emergency-voltage-unbalance-pickup"
    "MPAC1500 old-map section 13; FC03 offset 91; read-only Emergency voltage unbalance pickup. Native setting is read-only through this gateway. Configuration threshold, not a live alarm."
    98 0 [] 91 1 0 0,
  atsPoint 0 1071 "ATS-Emergency-voltage-debounce-time"
    "MPAC1500 old-map section 13; FC03 offset 92; read-only Emergency voltage debounce time. Native setting is read-only through this gateway. Configuration threshold, not a live alarm."
    73 0 [] 92 1 0 0,
  atsPoint 0 1072 "ATS-Normal-overfrequency-dropout"
    "MPAC1500 old-map section 13; FC03 offset 93; read-only Normal overfrequency dropout. Native setting is read-only through this gateway. Percent denominator: pickup. Configuration threshold, not a live alarm."
    98 0 [] 93 1 0 0,
  atsPoint 0 1073 "ATS-Normal-overfrequency-pickup"
    "MPAC1500 old-map section 13; FC03 offset 94; read-only Normal overfrequency pickup. Native setting is read-only through this gateway. Percent denominator: nominal. Configuration threshold, not a live alarm."
    98 0 [] 94 1 0 0,
  atsPoint 0 1074 "ATS-Normal-underfrequency-dropout"
    "MPAC1500 old-map section 13; FC03 offset 95; read-only Normal underfrequency dropout. Native setting is read-only through this gateway. Percent denominator: pickup. Configuration threshold, not a live alarm."
    98 0 [] 95 1 0 0,
  atsPoint 0 1075 "ATS-Normal-underfrequency-pickup"
    "MPAC1500 old-map section 13; FC03 offset 96; read-only Normal underfrequency pickup. Native setting is read-only through this gateway. Percent denominator: nominal. Configuration threshold, not a live alarm."
    98 0 [] 96 1 0 0,
  atsPoint 0 1076 "ATS-Normal-frequency-dropout-time"
    "MPAC1500 old-map section 13; FC03 offset 97; read-only Normal frequency dropout time. Native setting is read-only through this gateway. Configuration threshold, not a live alarm."
    73 0 [] 97 1 0 0,
  atsPoint 0 1077 "ATS-Emergency-overfrequency-dropout"
    "MPAC1500 old-map section 13; FC03 offset 98; read-only Emergency overfrequency dropout. Native setting is read-only through this gateway. Percent denominator: pickup. Configuration threshold, not a live alarm."
    98 0 [] 98 1 0 0,
  atsPoint 0 1078 "ATS-Emergency-overfrequency-pickup"
    "MPAC1500 old-map section 13; FC03 offset 99; read-only Emergency overfrequency pickup. Native setting is read-only through this gateway. Percent denominator: nominal. Configuration threshold, not a live alarm."
    98 0 [] 99 1 0 0,
  atsPoint 0 1079 "ATS-Emergency-underfrequency-dropout"
    "MPAC1500 old-map section 13; FC03 offset 100; read-only Emergency underfrequency dropout. Native setting is read-only through this gateway. Percent denominator: pickup. Configuration threshold, not a live alarm."
    98 0 [] 100 1 0 0,
  atsPoint 0 1080 "ATS-Emergency-underfrequency-pickup"
    "MPAC1500 old-map section 13; FC03 offset 101; read-only Emergency underfrequency pickup. Native setting is read-only through this gateway. Percent denominator: nominal. Configuration threshold, not a live alarm."
    98 0 [] 101 1 0 0,
  atsPoint 0 1081 "ATS-Emergency-frequency-dropout-time"
    "MPAC1500 old-map section 13; FC03 offset 102; read-only Emergency frequency dropout time. Native setting is read-only through this gateway. Configuration threshold, not a live alarm."
    73 0 [] 102 1 0 0,
  atsPoint 13 1082 "ATS-Expansion-board-1-type"
    "MPAC1500 old-map section 13; FC03 offset 153; read-only Expansion board 1 type."
    95 4 states1082 153 1 0 0,
  atsPoint 13 1083 "ATS-Expansion-board-2-type"
    "MPAC1500 old-map section 13; FC03 offset 154; read-only Expansion board 2 type."
    95 4 states1083 154 1 0 0,
  atsPoint 13 1084 "ATS-Expansion-board-3-type"
    "MPAC1500 old-map section 13; FC03 offset 155; read-only Expansion board 3 type."
    95 4 states1084 155 1 0 0,
  atsPoint 13 1085 "ATS-Expansion-board-4-type"
    "MPAC1500 old-map section 13; FC03 offset 156; read-only Expansion board 4 type."
    95 4 states1085 156 1 0 0,
  atsPoint 13 1086 "ATS-Alarm-option-board"
    "MPAC1500 old-map section 13; FC03 offset 159; read-only Alarm option board."
    95 5 states1086 159 1 0 0,
  atsPoint 3 1087 "ATS-Battery-option-board-installed"
    "MPAC1500 old-map section 13; FC03 offset 160; read-only Battery option board installed."
    95 0 [] 160 1 0 1,
  atsPoint 3 1088 "ATS-Main-board-output-1"
    "MPAC1500 old-map section 13; FC03 offset 193; read-only Main board output 1. Electrical state only; configured function is not established."
    95 0 [] 193 1 0 1,
  atsPoint 3 1089 "ATS-Main-board-output-2"
    "MPAC1500 old-map section 13; FC03 offset 193; read-only Main board output 2. Electrical state only; configured function is not established."
    95 0 [] 193 1 1 1,
  atsPoint 3 1090 "ATS-Main-board-input-1"
    "MPAC1500 old-map section 13; FC03 offset 194; read-only Main board input 1. Electrical state only; configured function is not established."
    95 0 [] 194 1 0 1,
  atsPoint 3 1091 "ATS-Main-board-input-2"
    "MPAC1500 old-map section 13; FC03 offset 194; read-only Main board input 2. Electrical state only; configured function is not established."
    95 0 [] 194 1 1 1,
  atsPoint 0 1092 "ATS-Expansion-board-1-outputs-bitmap"
    "MPAC1500 old-map section 13; FC03 offset 195; read-only Expansion board 1 outputs bitmap. Meaning requires corresponding installed expansion board; absent boards are not applicable."
    95 0 [] 195 1 0 0,
  atsPoint 0 1093 "ATS-Expansion-board-2-outputs-bitmap"
    "MPAC1500 old-map section 13; FC03 offset 196; read-only Expansion board 2 outputs bitmap. Meaning requires corresponding installed expansion board; absent boards are not applicable."
    95 0 [] 196 1 0 0,
  atsPoint 0 1094 "ATS-Expansion-board-3-outputs-bitmap"
    "MPAC1500 old-map section 13; FC03 offset 197; read-only Expansion board 3 outputs bitmap. Meaning requires corresponding installed expansion board; absent boards are not applicable."
    95 0 [] 197 1 0 0,
  atsPoint 0 1095 "ATS-Expansion-board-4-outputs-bitmap"
    "MPAC1500 old-map section 13; FC03 offset 198; read-only Expansion board 4 outputs bitmap. Meaning requires corresponding installed expansion board; absent boards are not applicable."
    95 0 [] 198 1 0 0,
  atsPoint 0 1096 "ATS-Expansion-board-1-inputs-bitmap"
    "MPAC1500 old-map section 13; FC03 offset 199; read-only Expansion board 1 inputs bitmap. Meaning requires corresponding installed expansion board; absent boards are not applicable."
    95 0 [] 199 1 0 0,
  atsPoint 0 1097 "ATS-Expansion-board-2-inputs-bitmap"
    "MPAC1500 old-map section 13; FC03 offset 200; read-only Expansion board 2 inputs bitmap. Meaning requires corresponding installed expansion board; absent boards are not applicable."
    95 0 [] 200 1 0 0,
  atsPoint 0 1098 "ATS-Expansion-board-3-inputs-bitmap"
    "MPAC1500 old-map section 13; FC03 offset 201; read-only Expansion board 3 inputs bitmap. Meaning requires corresponding installed expansion board; absent boards are not applicable."
    95 0 [] 201 1 0 0,
  atsPoint 0 1099 "ATS-Expansion-board-4-inputs-bitmap"
    "MPAC1500 old-map section 13; FC03 offset 202; read-only Expansion board 4 inputs bitmap. Meaning requires corresponding installed expansion board; absent boards are not applicable."
    95 0 [] 202 1 0 0,
  atsPoint 0 1100 "ATS-Software-output-state-bitmap"
    "MPAC1500 old-map section 13; FC03 offset 249; read-only Software output state bitmap. Native setting is read-only through this gateway. Raw logical state; no assigned functions means not applicable."
    95 0 [] 249 1 0 0,
  atsPoint 0 1101 "ATS-Software-output-assignment-bitmap"
    "MPAC1500 old-map section 13; FC03 offset 250; read-only Software output assignment bitmap."
    95 0 [] 250 1 0 0,
  atsPoint 0 1102 "ATS-Remote-monitored-input-state-bitmap"
    "MPAC1500 old-map section 13; FC03 offset 251; read-only Remote monitored input state bitmap. Raw logical state; no assigned functions means not applicable."
    95 0 [] 251 1 0 0,
  atsPoint 0 1103 "ATS-Remote-monitored-input-assignment-bitmap"
    "MPAC1500 old-map section 13; FC03 offset 252; read-only Remote monitored input assignment bitmap."
    95 0 [] 252 1 0 0,
  atsPoint 0 1104 "ATS-Accessory-setup-raw"
    "MPAC1500 old-map section 13; FC03 offset 739; read-only Accessory setup raw. Native setting is read-only through this gateway."
    95 0 [] 739 1 0 0,
  atsPoint 3 1105 "ATS-Exercise-in-progress"
    "MPAC1500 old-map section 13; FC03 offset 741; read-only Exercise in progress."
    95 0 [] 741 1 0 1,
  atsPoint 3 1106 "ATS-In-phase-monitor-active"
    "MPAC1500 old-map section 13; FC03 offset 741; read-only In-phase monitor active."
    95 0 [] 741 1 1 1,
  atsPoint 3 1107 "ATS-Load-control-in-progress"
    "MPAC1500 old-map section 13; FC03 offset 741; read-only Load control in progress."
    95 0 [] 741 1 2 1,
  atsPoint 3 1108 "ATS-Peak-shaving-in-progress"
    "MPAC1500 old-map section 13; FC03 offset 741; read-only Peak shaving in progress."
    95 0 [] 741 1 3 1,
  atsPoint 3 1109 "ATS-Loaded-test-in-progress"
    "MPAC1500 old-map section 13; FC03 offset 741; read-only Loaded test in progress."
    95 0 [] 741 1 4 1,
  atsPoint 3 1110 "ATS-Unloaded-test-in-progress"
    "MPAC1500 old-map section 13; FC03 offset 741; read-only Unloaded test in progress."
    95 0 [] 741 1 5 1,
  atsPoint 3 1111 "ATS-Auto-loaded-test-in-progress"
    "MPAC1500 old-map section 13; FC03 offset 741; read-only Auto-loaded test in progress."
    95 0 [] 741 1 6 1,
  atsPoint 3 1112 "ATS-Maintenance-mode-DIP-switch"
    "MPAC1500 old-map section 13; FC03 offset 742; read-only Maintenance mode DIP switch."
    95 0 [] 742 1 0 1,
  atsPoint 3 1113 "ATS-Password-disabled-DIP-switch"
    "MPAC1500 old-map section 13; FC03 offset 742; read-only Password-disabled DIP switch."
    95 0 [] 742 1 1 1,
  atsPoint 3 1114 "ATS-Next-exercise-enabled"
    "MPAC1500 old-map section 13; FC03 offset 904; read-only Next exercise enabled. Native setting is read-only through this gateway."
    95 0 [] 904 1 0 1,
  atsPoint 3 1115 "ATS-Next-exercise-loaded"
    "MPAC1500 old-map section 13; FC03 offset 904; read-only Next exercise loaded. Native setting is read-only through this gateway."
    95 0 [] 904 1 1 1,
  atsPoint 13 1116 "ATS-Next-exercise-interval"
    "MPAC1500 old-map section 13; FC03 offset 904; read-only Next exercise interval. Native setting is read-only through this gateway."
    95 5 states1116 904 1 2 2,
  atsPoint 0 1117 "ATS-Next-exercise-repeat-rate"
    "MPAC1500 old-map section 13; FC03 offset 904; read-only Next exercise repeat rate. Native setting is read-only through this gateway."
    95 0 [] 904 1 4 4,
  atsPoint 3 1118 "ATS-Next-exercise-running"
    "MPAC1500 old-map section 13; FC03 offset 904; read-only Next exercise running."
    95 0 [] 904 1 8 1,
  atsPoint 40 1119 "ATS-Next-exercise-start-time"
    "MPAC1500 old-map section 13; FC03 offset 905; read-only Next exercise start time. Native setting is read-only through this gateway. Controller local calendar/clock; no timezone or UTC inference."
    95 0 [] 905 1 0 0,
  atsPoint 40 1120 "ATS-Next-exercise-start-date"
    "MPAC1500 old-map section 13; FC03 offset 906; read-only Next exercise start date. Native setting is read-only through this gateway. Controller local calendar/clock; no timezone or UTC inference."
    95 0 [] 906 1 0 0,
  atsPoint 0 1121 "ATS-Next-exercise-duration"
    "MPAC1500 old-map section 13; FC03 offset 907; read-only Next exercise duration. Native setting is read-only through this gateway."
    72 0 [] 907 1 0 0,
  atsPoint 3 1122 "ATS-Exercise-schedule-1-enabled"
    "MPAC1500 old-map section 13; FC03 offset 909; read-only Exercise schedule 1 enabled. Native setting is read-only through this gateway."
    95 0 [] 909 1 0 1,
  atsPoint 3 1123 "ATS-Exercise-schedule-1-loaded"
    "MPAC1500 old-map section 13; FC03 offset 909; read-only Exercise schedule 1 loaded. Native setting is read-only through this gateway."
    95 0 [] 909 1 1 1,
  atsPoint 13 1124 "ATS-Exercise-schedule-1-interval"
    "MPAC1500 old-map section 13; FC03 offset 909; read-only Exercise schedule 1 interval. Native setting is read-only through this gateway."
    95 5 states1124 909 1 2 2,
  atsPoint 0 1125 "ATS-Exercise-schedule-1-repeat-rate"
    "MPAC1500 old-map section 13; FC03 offset 909; read-only Exercise schedule 1 repeat rate. Native setting is read-only through this gateway."
    95 0 [] 909 1 4 4,
  atsPoint 3 1126 "ATS-Exercise-schedule-1-running"
    "MPAC1500 old-map section 13; FC03 offset 909; read-only Exercise schedule 1 running."
    95 0 [] 909 1 8 1,
  atsPoint 40 1127 "ATS-Exercise-schedule-1-start-time"
    "MPAC1500 old-map section 13; FC03 offset 910; read-only Exercise schedule 1 start time. Native setting is read-only through this gateway. Controller local calendar/clock; no timezone or UTC inference."
    95 0 [] 910 1 0 0,
  atsPoint 40 1128 "ATS-Exercise-schedule-1-start-date"
    "MPAC1500 old-map section 13; FC03 offset 911; read-only Exercise schedule 1 start date. Native setting is read-only through this gateway. Controller local calendar/clock; no timezone or UTC inference."
    95 0 [] 911 1 0 0,
  atsPoint 0 1129 "ATS-Exercise-schedule-1-duration"
    "MPAC1500 old-map section 13; FC03 offset 912; read-only Exercise schedule 1 duration. Native setting is read-only through this gateway."
    72 0 [] 912 1 0 0,
  atsPoint 40 1130 "ATS-Last-outage-start-time"
    "MPAC1500 old-map section 13; FC03 offset 1009; read-only Last outage start time. Controller local calendar/clock; no timezone or UTC inference."
    95 0 [] 1009 1 0 0,
  atsPoint 40 1131 "ATS-Last-outage-date"
    "MPAC1500 old-map section 13; FC03 offset 1010; read-only Last outage date. Controller local calendar/clock; no timezone or UTC inference."
    95 0 [] 1010 1 0 0,
  atsPoint 0 1132 "ATS-Last-outage-duration"
    "MPAC1500 old-map section 13; FC03 offset 1011; read-only Last outage duration. MSW-first duration word order is unverified; raw pair retained."
    72 0 [] 1011 2 0 0,
  atsPoint 40 1133 "ATS-ATS-designation"
    "MPAC1500 old-map section 13; FC03 offset 1109; read-only ATS designation. Native setting is read-only through this gateway. Observed firmware uses low-byte-first characters within each word; numeric word order is unchanged."
    95 0 [] 1109 10 0 0,
  atsPoint 40 1134 "ATS-Load-description"
    "MPAC1500 old-map section 13; FC03 offset 1119; read-only Load description. Native setting is read-only through this gateway. Observed firmware uses low-byte-first characters within each word; numeric word order is unchanged."
    95 0 [] 1119 10 0 0,
  atsPoint 40 1135 "ATS-Branch-description"
    "MPAC1500 old-map section 13; FC03 offset 1129; read-only Branch description. Native setting is read-only through this gateway. Observed firmware uses low-byte-first characters within each word; numeric word order is unchanged."
    95 0 [] 1129 10 0 0,
  atsPoint 40 1136 "ATS-Location"
    "MPAC1500 old-map section 13; FC03 offset 1139; read-only Location. Native setting is read-only through this gateway. Observed firmware uses low-byte-first characters within each word; numeric word order is unchanged."
    95 0 [] 1139 10 0 0,
  atsPoint 40 1137 "ATS-Controller-firmware"
    "MPAC1500 old-map section 13; FC03 offset 1199; read-only Controller firmware."
    95 0 [] 1199 1 0 0,
  atsPoint 0 1138 "ATS-FPGA-revision-raw"
    "MPAC1500 old-map section 13; FC03 offset 1200; read-only FPGA revision raw. Only low byte minor version is documented; upper byte remains raw."
    95 0 [] 1200 1 0 0,
  atsPoint 0 1139 "ATS-MAC-low-15-bits"
    "MPAC1500 old-map section 13; FC03 offset 1201; read-only MAC low 15 bits. Old-map low-15-bit identity fingerprint only; do not use on newer map."
    95 0 [] 1201 1 0 0,
  atsPoint 40 1140 "ATS-Controller-time"
    "MPAC1500 old-map section 13; FC03 offset 1249; read-only Controller time. Native setting is read-only through this gateway. Controller local calendar/clock; no timezone or UTC inference."
    95 0 [] 1249 1 0 0,
  atsPoint 40 1141 "ATS-Controller-date"
    "MPAC1500 old-map section 13; FC03 offset 1250; read-only Controller date. Native setting is read-only through this gateway. Controller local calendar/clock; no timezone or UTC inference."
    95 0 [] 1250 1 0 0,
  atsPoint 3 1142 "ATS-Daylight-saving-adjustment-enabled"
    "MPAC1500 old-map section 13; FC03 offset 1251; read-only Daylight-saving adjustment enabled. Native setting is read-only through this gateway."
    95 0 [] 1251 1 0 1,
  atsPoint 0 1143 "ATS-Closed-transition-parallel-time"
    "MPAC1500 old-map section 13; FC03 offset 1294; read-only Closed-transition parallel time."
    159 0 [] 1294 1 0 0,
  atsPoint 0 1144 "ATS-Normal-contact-opening-time"
    "MPAC1500 old-map section 13; FC03 offset 1295; read-only Normal contact opening time."
    159 0 [] 1295 1 0 0,
  atsPoint 0 1145 "ATS-Normal-contact-closing-time"
    "MPAC1500 old-map section 13; FC03 offset 1296; read-only Normal contact closing time."
    159 0 [] 1296 1 0 0,
  atsPoint 0 1146 "ATS-Emergency-contact-opening-time"
    "MPAC1500 old-map section 13; FC03 offset 1297; read-only Emergency contact opening time."
    159 0 [] 1297 1 0 0,
  atsPoint 0 1147 "ATS-Emergency-contact-closing-time"
    "MPAC1500 old-map section 13; FC03 offset 1298; read-only Emergency contact closing time."
    159 0 [] 1298 1 0 0,
  atsPoint 0 1148 "ATS-Time-outside-preferred-source-total"
    "MPAC1500 old-map section 13; FC03 offset 1299; read-only Time outside preferred source total. ATS controller minutes, not generator engine runtime."
    72 0 [] 1299 2 0 0,
  atsPoint 0 1149 "ATS-Time-outside-preferred-source-since-reset"
    "MPAC1500 old-map section 13; FC03 offset 1301; read-only Time outside preferred source since reset. ATS controller minutes, not generator engine runtime."
    72 0 [] 1301 2 0 0,
  atsPoint 0 1150 "ATS-Time-on-standby-total"
    "MPAC1500 old-map section 13; FC03 offset 1303; read-only Time on standby total. ATS controller minutes, not generator engine runtime."
    72 0 [] 1303 2 0 0,
  atsPoint 0 1151 "ATS-Time-on-standby-since-reset"
    "MPAC1500 old-map section 13; FC03 offset 1305; read-only Time on standby since reset. ATS controller minutes, not generator engine runtime."
    72 0 [] 1305 2 0 0,
  atsPoint 0 1152 "ATS-Operating-time-total"
    "MPAC1500 old-map section 13; FC03 offset 1307; read-only Operating time total. ATS controller minutes, not generator engine runtime."
    72 0 [] 1307 2 0 0,
  atsPoint 0 1153 "ATS-Operating-time-since-reset"
    "MPAC1500 old-map section 13; FC03 offset 1309; read-only Operating time since reset. ATS controller minutes, not generator engine runtime."
    72 0 [] 1309 2 0 0,
  atsPoint 0 1154 "ATS-Transfer-count-total"
    "MPAC1500 old-map section 13; FC03 offset 1311; read-only Transfer count total."
    95 0 [] 1311 1 0 0,
  atsPoint 0 1155 "ATS-Transfer-count-since-reset"
    "MPAC1500 old-map section 13; FC03 offset 1312; read-only Transfer count since reset."
    95 0 [] 1312 1 0 0,
  atsPoint 0 1156 "ATS-Failed-transfer-count-total"
    "MPAC1500 old-map section 13; FC03 offset 1313; read-only Failed transfer count total."
    95 0 [] 1313 1 0 0,
  atsPoint 0 1157 "ATS-Failed-transfer-count-since-reset"
    "MPAC1500 old-map section 13; FC03 offset 1314; read-only Failed transfer count since reset."
    95 0 [] 1314 1 0 0,
  atsPoint 0 1158 "ATS-Loss-of-preferred-transfer-count-total"
    "MPAC1500 old-map section 13; FC03 offset 1315; read-only Loss-of-preferred transfer count total."
    95 0 [] 1315 1 0 0,
  atsPoint 0 1159 "ATS-Loss-of-preferred-transfer-count-since-reset"
    "MPAC1500 old-map section 13; FC03 offset 1316; read-only Loss-of-preferred transfer count since reset."
    95 0 [] 1316 1 0 0,
  atsPoint 0 1160 "ATS-Normal-to-emergency-transfer-time"
    "MPAC1500 old-map section 13; FC03 offset 1317; read-only Normal-to-emergency transfer time."
    159 0 [] 1317 1 0 0,
  atsPoint 0 1161 "ATS-Emergency-to-normal-transfer-time"
    "MPAC1500 old-map section 13; FC03 offset 1318; read-only Emergency-to-normal transfer time."
    159 0 [] 1318 1 0 0,
  atsPoint 40 1162 "ATS-Last-maintenance-date"
    "MPAC1500 old-map section 13; FC03 offset 1319; read-only Last maintenance date. Controller local calendar/clock; no timezone or UTC inference. Stored date, not proof of maintenance; known default 2001-01-01 is unverified."
    95 0 [] 1319 1 0 0,
  atsPoint 0 1163 "ATS-Keypress-state-bitmap"
    "MPAC1500 old-map section 13; FC03 offset 3449; read-only Keypress state bitmap."
    95 0 [] 3449 1 0 0,
  atsPoint 0 1164 "ATS-Modbus-device-type"
    "MPAC1500 old-map section 13; FC03 offset 9998; read-only Modbus device type."
    95 0 [] 9998 1 0 0]

def pointDecoderTable : List PointDecode := [
  ⟨.u16, 1, 1⟩, ⟨.enum, 1, 1⟩, ⟨.enum, 1, 1⟩, ⟨.u16, 1, 1⟩, ⟨.bool, 1, 1⟩, ⟨.bool, 1, 1⟩,
  ⟨.u16, 1, 10⟩, ⟨.u16, 1, 10⟩, ⟨.u16, 1, 10⟩, ⟨.u16, 1, 10⟩, ⟨.u16, 1, 10⟩, ⟨.u16, 1, 10⟩,
  ⟨.u16, 1, 10⟩, ⟨.u16, 1, 10⟩, ⟨.u16, 1, 10⟩, ⟨.u16, 1, 10⟩, ⟨.u16, 1, 10⟩, ⟨.u16, 1, 10⟩,
  ⟨.u16, 1, 10⟩, ⟨.u16, 1, 10⟩, ⟨.u16, 1, 10⟩, ⟨.u16, 1, 10⟩, ⟨.u16, 1, 10⟩, ⟨.u16, 1, 1⟩,
  ⟨.u16, 1, 1⟩, ⟨.enum, 1, 1⟩, ⟨.enum, 1, 1⟩, ⟨.enum, 1, 1⟩, ⟨.u16, 1, 10⟩, ⟨.u16, 1, 10⟩,
  ⟨.u16, 1, 10⟩, ⟨.u16, 1, 10⟩, ⟨.u16, 1, 1⟩, ⟨.u16, 1, 1⟩, ⟨.u16, 1, 1⟩, ⟨.enum, 1, 1⟩,
  ⟨.enum, 1, 1⟩, ⟨.enum, 1, 1⟩, ⟨.u16, 1, 1⟩, ⟨.u16, 1, 10⟩, ⟨.u16, 1, 10⟩, ⟨.u16, 1, 1⟩,
  ⟨.u16, 1, 1⟩, ⟨.u16, 1, 1⟩, ⟨.u16, 1, 1⟩, ⟨.u16, 1, 1⟩, ⟨.u16, 1, 1⟩, ⟨.u16, 1, 1⟩,
  ⟨.u16, 1, 1⟩, ⟨.u16, 1, 1⟩, ⟨.u16, 1, 1⟩, ⟨.u16, 1, 1⟩, ⟨.u16, 1, 1⟩, ⟨.u16, 1, 1⟩,
  ⟨.bool, 1, 1⟩, ⟨.u16, 1, 1⟩, ⟨.u16, 1, 1⟩, ⟨.u16, 1, 1⟩, ⟨.u16, 1, 1⟩, ⟨.bool, 1, 1⟩,
  ⟨.u16, 1, 1⟩, ⟨.u16, 1, 1⟩, ⟨.u16, 1, 10⟩, ⟨.u16, 1, 1⟩, ⟨.u16, 1, 1⟩, ⟨.u16, 1, 1⟩,
  ⟨.u16, 1, 1⟩, ⟨.bool, 1, 1⟩, ⟨.u16, 1, 1⟩, ⟨.u16, 1, 1⟩, ⟨.u16, 1, 10⟩, ⟨.u16, 1, 1⟩,
  ⟨.u16, 1, 1⟩, ⟨.u16, 1, 1⟩, ⟨.u16, 1, 1⟩, ⟨.u16, 1, 10⟩, ⟨.u16, 1, 1⟩, ⟨.u16, 1, 1⟩,
  ⟨.u16, 1, 1⟩, ⟨.u16, 1, 1⟩, ⟨.u16, 1, 10⟩, ⟨.enum, 1, 1⟩, ⟨.enum, 1, 1⟩, ⟨.enum, 1, 1⟩,
  ⟨.enum, 1, 1⟩, ⟨.enum, 1, 1⟩, ⟨.bool, 1, 1⟩, ⟨.bool, 1, 1⟩, ⟨.bool, 1, 1⟩, ⟨.bool, 1, 1⟩,
  ⟨.bool, 1, 1⟩, ⟨.u16, 1, 1⟩, ⟨.u16, 1, 1⟩, ⟨.u16, 1, 1⟩, ⟨.u16, 1, 1⟩, ⟨.u16, 1, 1⟩,
  ⟨.u16, 1, 1⟩, ⟨.u16, 1, 1⟩, ⟨.u16, 1, 1⟩, ⟨.u16, 1, 1⟩, ⟨.u16, 1, 1⟩, ⟨.u16, 1, 1⟩,
  ⟨.u16, 1, 1⟩, ⟨.u16, 1, 1⟩, ⟨.bool, 1, 1⟩, ⟨.bool, 1, 1⟩, ⟨.bool, 1, 1⟩, ⟨.bool, 1, 1⟩,
  ⟨.bool, 1, 1⟩, ⟨.bool, 1, 1⟩, ⟨.bool, 1, 1⟩, ⟨.bool, 1, 1⟩, ⟨.bool, 1, 1⟩, ⟨.bool, 1, 1⟩,
  ⟨.bool, 1, 1⟩, ⟨.enum, 1, 1⟩, ⟨.u16, 1, 1⟩, ⟨.bool, 1, 1⟩, ⟨.clock, 1, 1⟩, ⟨.date, 1, 1⟩,
  ⟨.u16, 1, 1⟩, ⟨.bool, 1, 1⟩, ⟨.bool, 1, 1⟩, ⟨.enum, 1, 1⟩, ⟨.u16, 1, 1⟩, ⟨.bool, 1, 1⟩,
  ⟨.clock, 1, 1⟩, ⟨.date, 1, 1⟩, ⟨.u16, 1, 1⟩, ⟨.clock, 1, 1⟩, ⟨.date, 1, 1⟩, ⟨.u32, 1, 1⟩,
  ⟨.ascii, 1, 1⟩, ⟨.ascii, 1, 1⟩, ⟨.ascii, 1, 1⟩, ⟨.ascii, 1, 1⟩, ⟨.version, 1, 1⟩, ⟨.u16, 1, 1⟩,
  ⟨.u16, 1, 1⟩, ⟨.clock, 1, 1⟩, ⟨.date, 1, 1⟩, ⟨.bool, 1, 1⟩, ⟨.u16, 1, 1⟩, ⟨.u16, 1, 1⟩,
  ⟨.u16, 1, 1⟩, ⟨.u16, 1, 1⟩, ⟨.u16, 1, 1⟩, ⟨.u32, 1, 1⟩, ⟨.u32, 1, 1⟩, ⟨.u32, 1, 1⟩,
  ⟨.u32, 1, 1⟩, ⟨.u32, 1, 1⟩, ⟨.u32, 1, 1⟩, ⟨.u16, 1, 1⟩, ⟨.u16, 1, 1⟩, ⟨.u16, 1, 1⟩,
  ⟨.u16, 1, 1⟩, ⟨.u16, 1, 1⟩, ⟨.u16, 1, 1⟩, ⟨.u16, 1, 1⟩, ⟨.u16, 1, 1⟩, ⟨.date, 1, 1⟩,
  ⟨.u16, 1, 1⟩, ⟨.u16, 1, 1⟩]

def atsScanBlockTable : List AtsScanBlock := [
  ⟨0, 19, 2000, 6000, "electrical-overview".toList⟩,
  ⟨40, 1, 10000, 30000, "synchronous-angle".toList⟩,
  ⟨44, 1, 10000, 30000, "reported-rotation".toList⟩,
  ⟨56, 1, 10000, 30000, "operating-mode".toList⟩,
  ⟨74, 3, 10000, 30000, "active-delay".toList⟩,
  ⟨193, 10, 10000, 30000, "physical-io".toList⟩,
  ⟨249, 4, 10000, 30000, "software-io".toList⟩,
  ⟨741, 2, 5000, 15000, "accessory-dip-status".toList⟩,
  ⟨3449, 1, 10000, 30000, "keypress".toList⟩,
  ⟨45, 8, 60000, 180000, "nominal-settings".toList⟩,
  ⟨58, 14, 60000, 180000, "delay-settings".toList⟩,
  ⟨77, 26, 60000, 180000, "trip-settings".toList⟩,
  ⟨153, 4, 60000, 180000, "expansion-presence".toList⟩,
  ⟨159, 2, 60000, 180000, "option-presence".toList⟩,
  ⟨739, 1, 60000, 180000, "accessory-setup".toList⟩,
  ⟨904, 4, 60000, 180000, "next-exercise".toList⟩,
  ⟨909, 4, 60000, 180000, "exercise-schedule".toList⟩,
  ⟨1009, 4, 60000, 180000, "last-outage".toList⟩,
  ⟨1109, 40, 60000, 180000, "identity-text".toList⟩,
  ⟨1199, 3, 60000, 180000, "old-map-firmware-fingerprint".toList⟩,
  ⟨1249, 3, 60000, 180000, "controller-clock".toList⟩,
  ⟨1294, 26, 60000, 180000, "transfer-history".toList⟩,
  ⟨9998, 1, 60000, 180000, "device-type".toList⟩]

theorem atsPointTable_length : atsPointTable.length = 164 := by decide +kernel
theorem pointDecoderTable_length : pointDecoderTable.length = 164 := by decide +kernel
theorem atsScanBlockTable_length : atsScanBlockTable.length = 23 := rfl

/-- An index of `ats_points`. -/
abbrev PointIndex := Fin 164

/-- An index of `ats_scan_blocks`. -/
abbrev BlockIndex := Fin 23

def atsPoints (i : PointIndex) : AtsPointDef :=
  atsPointTable.get (i.cast atsPointTable_length.symm)

def pointDecoders (i : PointIndex) : PointDecode :=
  pointDecoderTable.get (i.cast pointDecoderTable_length.symm)

def atsScanBlocks (b : BlockIndex) : AtsScanBlock :=
  atsScanBlockTable.get (b.cast atsScanBlockTable_length.symm)

end ModbusGateway
