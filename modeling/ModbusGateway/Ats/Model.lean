import ModbusGateway.Ats.Map

/-!
# The ATS model

`ats_model.c`: the block store the poller fills, and the decoder that recomputes the value and the
quality of every point from it. An array of the C code is a function of its index.
-/

namespace ModbusGateway

/-- `ats_quality_t`. -/
inductive Quality where
  | good
  | comm
  | unverified
  | na
  deriving DecidableEq, Repr

/-- `ats_value_t`. -/
structure AtsValue where
  numeric : Float
  text : Nat → Char
  quality : Quality
  qualityReason : String
  lastGoodMs : Nat
  rawWords : Nat → UInt16
  rawCount : Nat

/-- `ats_block_state_t`. -/
structure AtsBlockState where
  words : Nat → UInt16 := fun _ => 0
  lastGoodMs : Nat := 0
  lastFailureMs : Nat := 0
  acquired : Bool := false
  failed : Bool := false

/-- `ats_model_t`. -/
abbrev AtsModel := BlockIndex → AtsBlockState

def exactBlock (offset count : Nat) : Option BlockIndex :=
  (List.finRange 23).find? fun b =>
    (atsScanBlocks b).offset == offset && (atsScanBlocks b).count == count

def containingBlock (offset count : Nat) : Option BlockIndex :=
  (List.finRange 23).find? fun b =>
    (atsScanBlocks b).offset ≤ offset &&
      offset + count ≤ (atsScanBlocks b).offset + (atsScanBlocks b).count

def atsModelInit : AtsModel := fun _ => {}

/-- The effect of an accepted read on a block. -/
def AtsBlockState.apply (state : AtsBlockState) (count : Nat) (words : Nat → UInt16)
    (nowMs : Nat) : AtsBlockState :=
  { state with
    words := fun j => if j < count then words j else state.words j
    lastGoodMs := nowMs
    acquired := true
    failed := false }

/-- The effect of a failed read on a block. -/
def AtsBlockState.fail (state : AtsBlockState) (nowMs : Nat) : AtsBlockState :=
  { state with failed := true, lastFailureMs := nowMs }

/-- `state->acquired && now_ms < state->last_good_ms`: the store refuses to go back in time. -/
def AtsBlockState.refuses (state : AtsBlockState) (nowMs : Nat) : Bool :=
  state.acquired && nowMs < state.lastGoodMs

def atsModelApplyBlock (model : AtsModel) (offset count : Nat) (words : Nat → UInt16)
    (nowMs : Nat) : AtsModel :=
  match exactBlock offset count with
  | none => model
  | some b =>
    if (model b).refuses nowMs then model
    else Function.update model b ((model b).apply count words nowMs)

def atsModelFailBlock (model : AtsModel) (offset count : Nat) (nowMs : Nat) : AtsModel :=
  match exactBlock offset count with
  | none => model
  | some b =>
    if (model b).refuses nowMs then model else Function.update model b ((model b).fail nowMs)

def blockGood (model : AtsModel) (b : BlockIndex) (nowMs : Nat) : Bool :=
  (model b).acquired && !(model b).failed && (model b).lastGoodMs ≤ nowMs &&
    nowMs - (model b).lastGoodMs ≤ (atsScanBlocks b).staleMs

/-- `register_good`: the register's value when its block is good. -/
def registerGood (model : AtsModel) (offset : Nat) (nowMs : Nat) : Option UInt16 := do
  let b ← containingBlock offset 1
  if blockGood model b nowMs then
    return (model b).words (offset - (atsScanBlocks b).offset)
  else none

/-- `quality(value, q, reason)`. -/
def AtsValue.grade (value : AtsValue) (q : Quality) (reason : String) : AtsValue :=
  { value with quality := q, qualityReason := reason }

def isLeapYear (year : Nat) : Bool :=
  year % 4 == 0 && (year % 100 != 0 || year % 400 == 0)

def monthDays (year month : Nat) : Nat :=
  match month with
  | 2 => if isLeapYear year then 29 else 28
  | 4 | 6 | 9 | 11 => 30
  | _ => 31

/-- `calendar_date`: year, month and day of a packed date, when they are a date. -/
def calendarDate (word : UInt16) : Option (Nat × Nat × Nat) :=
  let year := 2000 + word.toNat / 2 ^ 9
  let month := word.toNat / 2 ^ 5 % 16
  let day := word.toNat % 32
  if 1 ≤ month ∧ month ≤ 12 ∧ 1 ≤ day ∧ day ≤ monthDays year month then
    some (year, month, day)
  else none

/-- `%0<width>u`. -/
def zeroPadded (width n : Nat) : CString :=
  let digits := (Nat.toDigits 10 n)
  List.replicate (width - digits.length) '0' ++ digits

/-- `%04X`. -/
def hex4 (n : Nat) : CString :=
  let digits := (Nat.toDigits 16 n).map Char.toUpper
  List.replicate (4 - digits.length) '0' ++ digits

/-- A zeroed text array after `snprintf` of `s`. -/
def textOf (s : CString) : Nat → Char := fun i => s.getD i '\x00'

/-- `if (n + 1 < sizeof(value->text)) value->text[n++] = c`. -/
def pushText (text : CString) (c : Char) : CString :=
  if text.length + 1 < ATS_TEXT_CAPACITY then text ++ [c] else text

/-- One step of the text loop: low byte first, `?` for what is not printable. -/
def asciiStep (words : Nat → UInt16) (acc : CString × Bool × Bool) (i : Nat) :
    CString × Bool × Bool :=
  let (text, terminated, printable) := acc
  let c := (words (i / 2)).toNat / 2 ^ (i % 2 * 8) % 256
  if terminated then acc
  else if c = 0 then (text, true, printable)
  else if c < 32 ∨ 126 < c then (pushText text '?', false, false)
  else (pushText text (Char.ofNat c), false, printable)

/-- `decode_value` on a value graded good. -/
def decodeValue (i : PointIndex) (words : Nat → UInt16) (value : AtsValue) : AtsValue :=
  let pt := atsPoints i
  let decoder := pointDecoders i
  let raw := if pt.bitWidth = 0 then (words 0).toNat
    else (words 0).toNat / 2 ^ pt.bitLsb % 2 ^ pt.bitWidth
  match decoder.encoding with
  | .u16 =>
    { value with
      numeric := raw.toFloat * decoder.numerator.toFloat / decoder.denominator.toFloat }
  | .bool =>
    let value := { value with numeric := raw.toFloat }
    if 1 < raw then value.grade .unverified "Boolean register is neither zero nor one" else value
  | .enum =>
    let value :=
      if raw < pt.stateCount - 1 then { value with numeric := raw.toFloat + 1.0 }
      else
        { value with numeric := pt.stateCount.toFloat }.grade .unverified
          "Undocumented enumeration; raw value retained"
    if pt.offset = 56 ∧ pt.bitLsb = 0 ∧ raw = 3 then
      value.grade .unverified "Reserved transition mode"
    else value
  | .u32 =>
    { value with numeric := ((words 0).toNat * 2 ^ 16 + (words 1).toNat).toFloat }
  | .version =>
    { value with
      text := textOf (Nat.toDigits 10 ((words 0).toNat / 256) ++ '.' ::
        zeroPadded 2 ((words 0).toNat % 256)) }
  | .clock =>
    if raw < 1440 then
      { value with text := textOf (zeroPadded 2 (raw / 60) ++ ':' :: zeroPadded 2 (raw % 60)) }
    else
      { value with
        text := textOf ("Invalid clock (".toList ++ Nat.toDigits 10 raw ++ [')']) }.grade .unverified
        "Controller clock is outside minute-of-day range; no timezone inferred"
  | .date =>
    match calendarDate (UInt16.ofNat raw) with
    | some (year, month, day) =>
      { value with
        text := textOf (zeroPadded 4 year ++ '-' :: zeroPadded 2 month ++ '-' ::
          zeroPadded 2 day) }
    | none =>
      { value with
        text := textOf ("Invalid date (0x".toList ++ hex4 raw ++ [')']) }.grade .unverified
        "Invalid or unset packed Gregorian date"
  | .ascii =>
    let (text, _, printable) :=
      (List.range (pt.wordCount * 2)).foldl (asciiStep words) ([], false, true)
    let value := { value with text := textOf text }
    if printable then value else value.grade .unverified "Non-ASCII text; raw words retained"

/-- `qualify`: what a fresh value still needs before it counts as a measurement. -/
def qualify (model : AtsModel) (pt : AtsPointDef) (nowMs : Nat) (value : AtsValue) : AtsValue :=
  if value.quality ≠ .good then value
  else if 15 ≤ pt.offset ∧ pt.offset ≤ 17 then
    value.grade .unverified
      "Current sensing/CT installation has not been independently verified"
  else if pt.offset = 18 ∨ pt.offset = 40 then
    match registerGood model 0 nowMs, registerGood model 56 nowMs with
    | some overview, some mode =>
      if overview &&& 0x6000 ≠ 0x6000 ∨ (pt.offset = 18 ∧ mode &&& 3 ≠ 2) then
        value.grade .na
          ("Inter-source angle is not applicable with an unavailable source or " ++
            "incompatible transition mode")
      else
        value.grade .unverified
          ("Angle register readable; synchronization/measurement applicability remains " ++
            "unverified")
    | _, _ => value.grade .comm "Source availability or transition mode is unavailable/stale"
  else if 195 ≤ pt.offset ∧ pt.offset ≤ 202 then
    match registerGood model (153 + (pt.offset - 195) % 4) nowMs with
    | none => value.grade .comm "Expansion-board presence is unavailable/stale"
    | some context =>
      if context = 0 then value.grade .na "Corresponding expansion board is not installed"
      else if 2 < context then value.grade .unverified "Unknown expansion-board type"
      else value
  else if pt.offset = 249 ∨ pt.offset = 251 then
    match registerGood model (pt.offset + 1) nowMs with
    | none => value.grade .comm "I/O assignment bitmap is unavailable/stale"
    | some context =>
      if context &&& (if pt.offset = 249 then 15 else 31) = 0 then
        value.grade .na "No software outputs or remote monitored inputs are assigned"
      else value
  else if pt.offset = 1011 then
    value.grade .unverified
      "Outage duration word order is not independently verified; raw pair retained"
  else if 1294 ≤ pt.offset ∧ pt.offset ≤ 1298 ∧ value.rawWords 0 = 0 then
    value.grade .unverified "Zero historical timing may mean unset or inapplicable"
  else if pt.offset = 1319 ∧ value.rawWords 0 = 0x0221 then
    value.grade .unverified
      "Stored maintenance date matches known default; not proof of a service visit"
  else if pt.offset = 0 ∧ pt.bitWidth = 0 ∧ value.rawWords 0 &&& 0x8000 ≠ 0 then
    value.grade .unverified "Reserved overview bit 15 is set; raw word retained"
  else value

/-- A quiet NaN. -/
def floatNaN : Float := 0.0 / 0.0

/-- A value that was never acquired: zeroed, not a number, communication fault. -/
def AtsValue.unacquired (reason : String) : AtsValue where
  numeric := floatNaN
  text _ := '\x00'
  quality := .comm
  qualityReason := reason
  lastGoodMs := 0
  rawWords _ := 0
  rawCount := 0

/-- One point of `ats_model_decode_all`. -/
def decodePoint (model : AtsModel) (nowMs : Nat) (i : PointIndex) : AtsValue :=
  let pt := atsPoints i
  match containingBlock pt.offset pt.wordCount with
  | none => .unacquired "Point is not contained in a scan block"
  | some b =>
    let state := model b
    if !state.acquired then .unacquired "Not yet acquired"
    else
      let words := fun j => state.words (pt.offset - (atsScanBlocks b).offset + j)
      let value := decodeValue i words
        { AtsValue.unacquired "" with
          quality := .good
          qualityReason := "Fresh controller-reported value"
          lastGoodMs := state.lastGoodMs
          rawWords := fun j => if j < pt.wordCount then words j else 0
          rawCount := pt.wordCount }
      if !blockGood model b nowMs then
        value.grade .comm
          (if state.failed then "Latest block read failed; previous raw value retained"
          else "Block data is stale or clock moved backwards")
      else qualify model pt nowMs value

def atsModelDecodeAll (model : AtsModel) (nowMs : Nat) : PointIndex → AtsValue :=
  decodePoint model nowMs

end ModbusGateway
