import Mathlib.Data.List.Basic

/-!
# Modbus TCP frames

`modbus_tcp.c` without its sockets: the request builder, the header check and the response
decoder. A frame is the list of the bytes that were handed over, and every read of it is checked:
a decoder that reads at or past the end of the frame has the value `none`.
-/

namespace ModbusGateway

/-- `mb_error_t`. -/
inductive MbError where
  | ok
  | argument
  | connect
  | io
  | timeout
  | truncated
  | transaction
  | protocol
  | unit
  | length
  | function
  | byteCount
  | exception
  deriving DecidableEq, Repr

/-- The value of the enumerator in `mb_error_t`. -/
def MbError.code : MbError → Nat
  | .ok => 0
  | .argument => 1
  | .connect => 2
  | .io => 3
  | .timeout => 4
  | .truncated => 5
  | .transaction => 6
  | .protocol => 7
  | .unit => 8
  | .length => 9
  | .function => 10
  | .byteCount => 11
  | .exception => 12

/-- `mb_result_t`. -/
structure MbResult where
  error : MbError := .ok
  exceptionCode : Nat := 0
  elapsedMs : Nat := 0
  systemError : Int := 0
  deriving DecidableEq, Repr

def MB_MAX_REGISTERS : Nat := 50
def MB_FC03_REQUEST_SIZE : Nat := 12
def MB_MAX_RESPONSE_SIZE : Nat := 9 + 2 * MB_MAX_REGISTERS

/-- `read_be16(frame + i)`. -/
def readBe16 (frame : List UInt8) (i : Nat) : Option UInt16 := do
  let hi ← frame[i]?
  let lo ← frame[i + 1]?
  return hi.toUInt16 <<< 8 ||| lo.toUInt16

/-- The two bytes `write_be16` stores. -/
def writeBe16 (value : UInt16) : List UInt8 := [(value >>> 8).toUInt8, value.toUInt8]

def validQuantity (qty : UInt16) : Bool := 1 ≤ qty && qty.toNat ≤ MB_MAX_REGISTERS

/-- `mb_build_read_request`: the encoded request, or `none` for a return of 0. -/
def mbBuildReadRequest (tid : UInt16) (unit function : UInt8) (offset qty : UInt16) :
    Option (List UInt8) :=
  if function < 1 ∨ function > 4 ∨ ¬ validQuantity qty ∨ offset.toNat + qty.toNat > 65536 then none
  else
    some (writeBe16 tid ++ writeBe16 0 ++ writeBe16 6 ++ [unit, function] ++ writeBe16 offset ++
      writeBe16 qty)

def checkHeader (frame : List UInt8) (expectedTid : UInt16) (expectedUnit : UInt8) :
    Option MbError := do
  let remaining ← readBe16 frame 4
  if (← readBe16 frame 0) ≠ expectedTid then
    return .transaction
  else if (← readBe16 frame 2) ≠ 0 then
    return .protocol
  else if (← frame[6]?) ≠ expectedUnit then
    return .unit
  else if remaining < 3 ∨ remaining.toNat > 3 + 2 * MB_MAX_REGISTERS then
    return .length
  else
    return .ok

/-- `byte_count`: the payload bytes of a response to `function` for `qty` points. -/
def byteCount (function : UInt8) (qty : UInt16) : Nat :=
  if function ≤ 2 then (qty.toNat + 7) / 8 else 2 * qty.toNat

/-- One turn of the decode loop: bit `index` of the payload, or its big-endian word `index`. -/
def decodedPoint (frame : List UInt8) (function : UInt8) (index : Nat) : Option UInt16 :=
  if function ≤ 2 then do
    let byte ← frame[9 + index / 8]?
    return UInt16.ofNat ((byte.toNat >>> (index % 8)) &&& 1)
  else
    readBe16 frame (9 + 2 * index)

/-- `mb_decode_read_response`: the result and the caller's array afterwards. -/
def mbDecodeReadResponse (frame : List UInt8) (expectedTid : UInt16)
    (expectedUnit function : UInt8) (qty : UInt16) (out : List UInt16) :
    Option (MbResult × List UInt16) := do
  if function < 1 ∨ function > 4 ∨ ¬ validQuantity qty then
    return ({ error := .argument }, out)
  else if frame.length < 7 ∨ frame.length > MB_MAX_RESPONSE_SIZE then
    return ({ error := .length }, out)
  else
    let error ← checkHeader frame expectedTid expectedUnit
    if error ≠ .ok then
      return ({ error := error }, out)
    else
      let remaining ← readBe16 frame 4
      if frame.length ≠ 6 + remaining.toNat then
        return ({ error := .length }, out)
      else if (← frame[7]?) = function ||| 0x80 then
        let code ← frame[8]?
        if remaining ≠ 3 ∨ code = 0 then
          return ({ error := .length }, out)
        else
          return ({ error := .exception, exceptionCode := code.toNat }, out)
      else if (← frame[7]?) ≠ function then
        return ({ error := .function }, out)
      else if (← frame[8]?).toNat ≠ byteCount function qty then
        return ({ error := .byteCount }, out)
      else if remaining.toNat ≠ 3 + byteCount function qty then
        return ({ error := .length }, out)
      else
        let decoded ← (List.range qty.toNat).mapM (decodedPoint frame function)
        return ({ error := .ok }, decoded ++ out.drop qty.toNat)

end ModbusGateway
