import ModbusGateway.Modbus.Frame
import Mathlib.Data.Nat.Bitwise

/-!
# A Modbus server

What the Modbus specification says a server answers to a read request: coils and discrete inputs
packed least significant bit first, registers as big-endian words. Nothing here comes from the
gateway's source; it is what the response decoder is compared with.
-/

namespace ModbusGateway

/-- Byte `k` of packed bits; the bits after the last value are 0. -/
def packedByte (values : List UInt16) (k : Nat) : UInt8 :=
  UInt8.ofNat (Nat.ofBits fun j : Fin 8 => values[8 * k + j]? == some 1)

/-- The data bytes of a response. -/
def responsePayload (function : UInt8) (values : List UInt16) : List UInt8 :=
  if function ≤ 2 then (List.range ((values.length + 7) / 8)).map (packedByte values)
  else values.flatMap writeBe16

/-- The response with these values to a read request. -/
def serverResponse (request : List UInt8) (values : List UInt16) : Option (List UInt8) := do
  let tid ← readBe16 request 0
  let unit ← request[6]?
  let function ← request[7]?
  let payload := responsePayload function values
  return writeBe16 tid ++ writeBe16 0 ++ writeBe16 (UInt16.ofNat (3 + payload.length)) ++
    [unit, function, UInt8.ofNat payload.length] ++ payload

/-- Values a function can return: the bits of functions 1 and 2 are 0 or 1. -/
def Readable (function : UInt8) (values : List UInt16) : Prop :=
  function ≤ 2 → ∀ v ∈ values, v = 0 ∨ v = 1

end ModbusGateway
