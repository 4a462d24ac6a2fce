import Mathlib.Algebra.Group.Nat.Defs
import Mathlib.Logic.Function.Iterate

/-!
# SHA-256

The digest of a byte string as a fold of the compression over the blocks of the padded message. The words
of the schedule and of the state are numbers below 2^32.
-/

namespace Sha256

/-! ## Words -/

def add (x y : Nat) : Nat := (x + y) % 2 ^ 32

def rotr (n x : Nat) : Nat := (x >>> n) ||| (x <<< (32 - n)) % 2 ^ 32

/-- The bitwise complement of a word. -/
def not (x : Nat) : Nat := 2 ^ 32 - 1 - x

def ch (x y z : Nat) : Nat := (x &&& y) ^^^ (not x &&& z)

def maj (x y z : Nat) : Nat := (x &&& y) ^^^ (x &&& z) ^^^ (y &&& z)

def bigSigma0 (x : Nat) : Nat := rotr 2 x ^^^ rotr 13 x ^^^ rotr 22 x

def bigSigma1 (x : Nat) : Nat := rotr 6 x ^^^ rotr 11 x ^^^ rotr 25 x

def smallSigma0 (x : Nat) : Nat := rotr 7 x ^^^ rotr 18 x ^^^ (x >>> 3)

def smallSigma1 (x : Nat) : Nat := rotr 17 x ^^^ rotr 19 x ^^^ (x >>> 10)

/-- The first 32 bits of the fractional parts of the cube roots of the first 64 primes. -/
def constants : List Nat := [
  0x428a2f98, 0x71374491, 0xb5c0fbcf, 0xe9b5dba5, 0x3956c25b, 0x59f111f1, 0x923f82a4, 0xab1c5ed5,
  0xd807aa98, 0x12835b01, 0x243185be, 0x550c7dc3, 0x72be5d74, 0x80deb1fe, 0x9bdc06a7, 0xc19bf174,
  0xe49b69c1, 0xefbe4786, 0x0fc19dc6, 0x240ca1cc, 0x2de92c6f, 0x4a7484aa, 0x5cb0a9dc, 0x76f988da,
  0x983e5152, 0xa831c66d, 0xb00327c8, 0xbf597fc7, 0xc6e00bf3, 0xd5a79147, 0x06ca6351, 0x14292967,
  0x27b70a85, 0x2e1b2138, 0x4d2c6dfc, 0x53380d13, 0x650a7354, 0x766a0abb, 0x81c2c92e, 0x92722c85,
  0xa2bfe8a1, 0xa81a664b, 0xc24b8b70, 0xc76c51a3, 0xd192e819, 0xd6990624, 0xf40e3585, 0x106aa070,
  0x19a4c116, 0x1e376c08, 0x2748774c, 0x34b0bcb5, 0x391c0cb3, 0x4ed8aa4a, 0x5b9cca4f, 0x682e6ff3,
  0x748f82ee, 0x78a5636f, 0x84c87814, 0x8cc70208, 0x90befffa, 0xa4506ceb, 0xbef9a3f7, 0xc67178f2]

/-! ## The compression -/

structure State where
  a : Nat
  b : Nat
  c : Nat
  d : Nat
  e : Nat
  f : Nat
  g : Nat
  h : Nat

/-- The first 32 bits of the fractional parts of the square roots of the first 8 primes. -/
def initial : State :=
  ⟨0x6a09e667, 0xbb67ae85, 0x3c6ef372, 0xa54ff53a, 0x510e527f, 0x9b05688c, 0x1f83d9ab, 0x5be0cd19⟩

def State.words (s : State) : List Nat := [s.a, s.b, s.c, s.d, s.e, s.f, s.g, s.h]

/-- One more word of the schedule, whose words stand last first. -/
def extend (schedule : List Nat) : List Nat :=
  add (add (smallSigma1 (schedule.getD 1 0)) (schedule.getD 6 0))
    (add (smallSigma0 (schedule.getD 14 0)) (schedule.getD 15 0)) :: schedule

/-- The number with these big-endian bytes. -/
def beNat (bytes : List UInt8) : Nat := bytes.foldl (fun n c => n * 256 + c.toNat) 0

/-- The 16 words of a block, last first. -/
def blockWords (block : List UInt8) : List Nat :=
  (List.range 16).foldl (fun words i => beNat ((block.drop (4 * i)).take 4) :: words) []

/-- The 64 words of the schedule of a block. -/
def schedule (block : List UInt8) : List Nat := (extend^[48] (blockWords block)).reverse

/-- A round with its word and its constant. -/
def round (s : State) (p : Nat × Nat) : State :=
  let t := add (add (add s.h (bigSigma1 s.e)) (add (ch s.e s.f s.g) p.2)) p.1
  { a := add t (add (bigSigma0 s.a) (maj s.a s.b s.c))
    b := s.a
    c := s.b
    d := s.c
    e := add s.d t
    f := s.e
    g := s.f
    h := s.g }

def compress (s : State) (block : List UInt8) : State :=
  let t := ((schedule block).zip constants).foldl round s
  ⟨add s.a t.a, add s.b t.b, add s.c t.c, add s.d t.d, add s.e t.e, add s.f t.f, add s.g t.g, add s.h t.h⟩

/-! ## The digest -/

/-- The `n` low bytes of a number, most significant first. -/
def beBytes (n x : Nat) : List UInt8 := (List.range n).map fun i => UInt8.ofNat (x / 256 ^ (n - 1 - i))

/-- A message, a bit, zeros up to 8 bytes before the end of a block, and the length in bits. -/
def pad (message : List UInt8) : List UInt8 :=
  message ++ 0x80 :: (List.replicate ((119 - message.length % 64) % 64) 0 ++ beBytes 8 (8 * message.length))

/-- The state after some blocks. -/
def blocks : Nat → State → List UInt8 → State
  | 0, s, _ => s
  | n + 1, s, bytes => blocks n (compress s (bytes.take 64)) (bytes.drop 64)

def hash (message : List UInt8) : List UInt8 :=
  (blocks ((pad message).length / 64) initial (pad message)).words.flatMap (beBytes 4)

theorem length_hash (message : List UInt8) : (hash message).length = 32 := rfl

/-- The digest of `abc`. -/
example : beNat (hash [0x61, 0x62, 0x63]) =
    0xba7816bf8f01cfea414140de5dae2223b00361a396177a9cb410ff61f20015ad := by
  decide +kernel

end Sha256
