import ModbusGateway.Basic
import ModbusGateway.Theory.Words

/-!
# `integer` on words

The decimal reader of `custom_map.c` once more, on `uint32_t` and with every operation on words
recorded. A pointer is an option, null is `none`; `*out` goes in and comes out.
-/

namespace ModbusGateway

open Words

/-- The loop of `integer`: the digits after `n`. -/
def integerLoopRecorded (maximum : UInt32) : UInt32 → CString → Recorded (Option UInt32)
  | n, [] => return some n
  | n, c :: s => do
    if c < '0' ∨ c > '9' then return none
    -- `(unsigned)(*s - '0')`
    let digit ← .sub c.val '0'.val
    if digit > maximum then return none
    let room ← .sub maximum digit
    if n > room / 10 then return none
    let tens ← .mul n 10
    let n ← .add tens digit
    if n > maximum then return none
    integerLoopRecorded maximum n s

/-- `integer`: its result, and `*out` afterwards. -/
def integerRecorded (s : Option CString) (minimum maximum out : UInt32) :
    Recorded (Bool × UInt32) :=
  match s with
  | none | some [] => return (false, out)
  | some s => do
    let some n ← integerLoopRecorded maximum 0 s | return (false, out)
    if n < minimum then return (false, out)
    return (true, n)

end ModbusGateway
