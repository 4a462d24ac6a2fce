import Mathlib.Data.List.Basic

/-!
# JSON texts

The grammar of JSON as relations between a value, a text and what follows the value in the text.
A string is the sequence of its code points; an escape of four hexadecimal digits stands for a unit,
and a surrogate pair of units for one code point. A text may be taken as characters or as the bytes
that encode them, since all bytes of a character outside ASCII may stand in a string.
-/

namespace JsonText

/-- A value. A number is its own text, and the members of an object stand in the order of the text. -/
inductive Json where
  | null
  | bool (b : Bool)
  | number (token : List Char)
  | string (s : List Nat)
  | array (items : List Json)
  | object (members : List (List Nat × Json))

namespace Json

/-- Neither an array nor an object. -/
def isScalar : Json → Bool
  | .array _ | .object _ => false
  | .null | .bool _ | .number _ | .string _ => true

/-- A scalar, or an array or object of scalars. -/
def isFlat : Json → Bool
  | .array items => items.all isScalar
  | .object members => members.all fun m => m.2.isScalar
  | .null | .bool _ | .number _ | .string _ => true

/-- `s` is a string of the value, as a key or as a value. -/
inductive HasString : Json → List Nat → Prop
  | string : HasString (.string s) s
  | item : v ∈ items → HasString v s → HasString (.array items) s
  | key : (s, v) ∈ members → HasString (.object members) s
  | member : (key, v) ∈ members → HasString v s → HasString (.object members) s

theorem isFlat_of_isScalar {v : Json} (h : v.isScalar = true) : v.isFlat = true := by
  cases v with
  | array | object => cases h
  | null | bool | number | string => rfl

end Json

/-! ## Tokens -/

def isSpace (c : Char) : Bool := c == ' ' || c == '\t' || c == '\n' || c == '\r'

/-- White space, as far as `rest`. -/
inductive Space : List Char → List Char → Prop
  | nil : Space rest rest
  | cons : isSpace c = true → Space text rest → Space (c :: text) rest

/-- One digit or more. -/
inductive Digits : List Char → List Char → Prop
  | last : c.isDigit = true → Digits (c :: rest) rest
  | cons : c.isDigit = true → Digits text rest → Digits (c :: text) rest

/-- The integer of a number has no leading zero. -/
inductive IntPart : List Char → List Char → Prop
  | zero : IntPart ('0' :: rest) rest
  | digits : c ≠ '0' → Digits (c :: text) rest → IntPart (c :: text) rest

inductive FracPart : List Char → List Char → Prop
  | none : FracPart rest rest
  | some : Digits text rest → FracPart ('.' :: text) rest

inductive ExpPart : List Char → List Char → Prop
  | none : ExpPart rest rest
  | unsigned : e = 'e' ∨ e = 'E' → Digits text rest → ExpPart (e :: text) rest
  | signed : e = 'e' ∨ e = 'E' → sign = '+' ∨ sign = '-' → Digits text rest →
    ExpPart (e :: sign :: text) rest

inductive Number : List Char → List Char → Prop
  | unsigned : IntPart text frac → FracPart frac exp → ExpPart exp rest → Number text rest
  | negative : IntPart text frac → FracPart frac exp → ExpPart exp rest → Number ('-' :: text) rest

/-- A character that stands for itself in a string. -/
def isPlain (c : Char) : Bool := ' ' ≤ c && c != '"' && c != '\\'

/-- What a short escape stands for. -/
def shortEscape : Char → Option Char
  | '"' => some '"'
  | '\\' => some '\\'
  | '/' => some '/'
  | 'b' => some '\x08'
  | 'f' => some '\x0c'
  | 'n' => some '\n'
  | 'r' => some '\r'
  | 't' => some '\t'
  | _ => none

def hexDigit (c : Char) : Option Nat :=
  if c.isDigit then some (c.toNat - '0'.toNat)
  else if 'a' ≤ c ∧ c ≤ 'f' then some (c.toNat - 'a'.toNat + 10)
  else if 'A' ≤ c ∧ c ≤ 'F' then some (c.toNat - 'A'.toNat + 10)
  else none

/-- The units of a string from behind its opening quote; `rest` follows the closing one. -/
inductive Units : List Nat → List Char → List Char → Prop
  | close : Units [] ('"' :: rest) rest
  | plain : isPlain c = true → Units us text rest → Units (c.toNat :: us) (c :: text) rest
  | escape : shortEscape e = some c → Units us text rest →
    Units (c.toNat :: us) ('\\' :: e :: text) rest
  | unicode : hexDigit c₃ = some d₃ → hexDigit c₂ = some d₂ → hexDigit c₁ = some d₁ →
    hexDigit c₀ = some d₀ → Units us text rest →
    Units ((((d₃ * 16 + d₂) * 16 + d₁) * 16 + d₀) :: us)
      ('\\' :: 'u' :: c₃ :: c₂ :: c₁ :: c₀ :: text) rest

/-- The code points of a sequence of units. -/
def codePoints : List Nat → List Nat
  | hi :: lo :: us =>
    if 0xD800 ≤ hi ∧ hi < 0xDC00 ∧ 0xDC00 ≤ lo ∧ lo < 0xE000 then
      (0x10000 + (hi - 0xD800) * 0x400 + (lo - 0xDC00)) :: codePoints us
    else hi :: codePoints (lo :: us)
  | us => us

inductive Quoted : List Nat → List Char → List Char → Prop
  | intro : Units us text rest → Quoted (codePoints us) ('"' :: text) rest

/-! ## Values -/

/-- The parts of the grammar. An `element` is a value with the white space around it, and the two
lists are those of an array or object that is not empty. -/
inductive Phrase where
  | value (v : Json)
  | element (v : Json)
  | items (items : List Json)
  | members (members : List (List Nat × Json))

/-- The name of a member with the white space around it. -/
inductive Name : List Nat → List Char → List Char → Prop
  | intro : Space text quote → Quoted key quote space → Space space rest → Name key text rest

inductive Reads : Phrase → List Char → List Char → Prop
  | null : Reads (.value .null) ('n' :: 'u' :: 'l' :: 'l' :: rest) rest
  | true : Reads (.value (.bool true)) ('t' :: 'r' :: 'u' :: 'e' :: rest) rest
  | false : Reads (.value (.bool false)) ('f' :: 'a' :: 'l' :: 's' :: 'e' :: rest) rest
  | number : Number (token ++ rest) rest → Reads (.value (.number token)) (token ++ rest) rest
  | string : Quoted s text rest → Reads (.value (.string s)) text rest
  | emptyArray : Space text (']' :: rest) → Reads (.value (.array [])) ('[' :: text) rest
  | array : Reads (.items items) text (']' :: rest) →
    Reads (.value (.array items)) ('[' :: text) rest
  | emptyObject : Space text ('}' :: rest) → Reads (.value (.object [])) ('{' :: text) rest
  | object : Reads (.members members) text ('}' :: rest) →
    Reads (.value (.object members)) ('{' :: text) rest
  | element : Space text start → Reads (.value v) start stop → Space stop rest →
    Reads (.element v) text rest
  | lastItem : Reads (.element v) text rest → Reads (.items [v]) text rest
  | items : Reads (.element v) text (',' :: next) → Reads (.items items) next rest →
    Reads (.items (v :: items)) text rest
  | lastMember : Name key text (':' :: text') → Reads (.element v) text' rest →
    Reads (.members [(key, v)]) text rest
  | members : Name key text (':' :: text') → Reads (.element v) text' (',' :: next) →
    Reads (.members members) next rest → Reads (.members ((key, v) :: members)) text rest

/-- `s` is a string of what the phrase stands for. -/
def Phrase.HasString : Phrase → List Nat → Prop
  | .value v, s | .element v, s => v.HasString s
  | .items vs, s => ∃ v ∈ vs, v.HasString s
  | .members ms, s => ∃ m ∈ ms, s = m.1 ∨ m.2.HasString s

/-- `text` is a serialization of `v`. -/
def Serializes (v : Json) (text : List Char) : Prop := Reads (.element v) text []

example : Serializes (.array [.string [0]])
    ['[', '"', '\\', 'u', '0', '0', '0', '0', '"', ' ', ']'] := by
  have hzero : hexDigit '0' = some 0 := rfl
  have hunits : Units [0] ['\\', 'u', '0', '0', '0', '0', '"', ' ', ']'] [' ', ']'] :=
    .unicode hzero hzero hzero hzero .close
  have hstring : Reads (.value (.string [0])) ('"' :: _) [' ', ']'] := .string (.intro hunits)
  exact .element .nil (.array (.lastItem (.element .nil hstring (.cons rfl .nil)))) .nil

/-! ## The code point 0 -/

/-- No surrogate pair stands for the code point 0. -/
theorem zero_mem_codePoints (us : List Nat) : 0 ∈ codePoints us ↔ 0 ∈ us := by
  induction us using codePoints.induct with
  | case1 hi lo us hpair ih =>
    have hpoint : 0 ≠ 0x10000 + (hi - 0xD800) * 0x400 + (lo - 0xDC00) := by omega
    have hhi : 0 ≠ hi := by omega
    have hlo : 0 ≠ lo := by omega
    rw [codePoints, if_pos hpair]
    simp only [List.mem_cons, ih, hpoint, hhi, hlo, false_or]
  | case2 hi lo us hpair ih =>
    rw [codePoints, if_neg hpair, List.mem_cons, ih]
    exact List.mem_cons.symm
  | case3 us hshort =>
    rw [codePoints]
    exact hshort

theorem hexDigit_eq_zero (h : hexDigit c = some 0) : c = '0' := by
  unfold hexDigit at h
  split at h
  · next hdigit =>
    simp only [Char.isDigit, Bool.and_eq_true, decide_eq_true_eq] at hdigit
    have hlow : '0'.toNat ≤ c.toNat := hdigit.1
    have hzero : c.toNat - '0'.toNat = 0 := Option.some.inj h
    exact Char.toNat_inj.mp (by omega)
  split at h
  · exact absurd (Option.some.inj h) (Nat.succ_ne_zero _)
  split at h
  · exact absurd (Option.some.inj h) (Nat.succ_ne_zero _)
  · cases h

theorem isPlain_toNat (hc : isPlain c = true) : c.toNat ≠ 0 := by
  simp only [isPlain, Bool.and_eq_true, decide_eq_true_eq] at hc
  have hlow : ' '.toNat ≤ c.toNat := hc.1.1
  exact Nat.ne_of_gt (Nat.lt_of_lt_of_le (by decide) hlow)

theorem shortEscape_toNat (h : shortEscape e = some c) : c.toNat ≠ 0 := by
  unfold shortEscape at h
  split at h
  case h_9 => cases h
  all_goals
    cases h
    decide

/-! ## The strings of a value -/

theorem Json.hasString_array : (Json.array items).HasString s ↔ ∃ v ∈ items, v.HasString s := by
  constructor
  · intro H
    cases H with
    | item hv hs => exact ⟨_, hv, hs⟩
  · rintro ⟨v, hv, hs⟩
    exact .item hv hs

theorem Json.hasString_object :
    (Json.object members).HasString s ↔ ∃ m ∈ members, s = m.1 ∨ m.2.HasString s := by
  constructor
  · intro H
    cases H with
    | key hm => exact ⟨_, hm, .inl rfl⟩
    | member hm hs => exact ⟨_, hm, .inr hs⟩
  · rintro ⟨⟨key, v⟩, hm, rfl | hs⟩
    · exact .key hm
    · exact .member hm hs

/-! ## Characters outside strings -/

/-- A character of a token that is no string and no bracket. -/
def isBare (c : Char) : Bool :=
  c != '"' && c != '\\' && c != '[' && c != ']' && c != '{' && c != '}' && c != '\x00'

/-- The text up to `rest` consists of bare characters. -/
inductive Skips : List Char → List Char → Prop
  | nil : Skips rest rest
  | cons : isBare c = true → Skips text rest → Skips (c :: text) rest

namespace Skips

theorem trans (H : Skips text next) (H' : Skips next rest) : Skips text rest := by
  induction H with
  | nil => exact H'
  | cons hc _ ih => exact .cons hc (ih H')

theorem append {t : List Char} (h : t.all isBare = true) (rest : List Char) :
    Skips (t ++ rest) rest := by
  induction t with
  | nil => exact .nil
  | cons c t ih =>
    rw [List.all_cons, Bool.and_eq_true] at h
    exact .cons h.1 (ih h.2)

/-- A scan that passes over every bare character passes over all of them. -/
theorem scan {f : List Char → β} (hf : ∀ c text, isBare c = true → f (c :: text) = f text)
    (H : Skips text rest) : f text = f rest := by
  induction H with
  | nil => rfl
  | cons hc _ ih => exact (hf _ _ hc).trans ih

end Skips

theorem Space.skips (H : Space text rest) : Skips text rest := by
  induction H with
  | nil => exact .nil
  | @cons c _ _ hc _ ih =>
    refine .cons ?_ ih
    simp only [isSpace, Bool.or_eq_true, beq_iff_eq] at hc
    rcases hc with ((rfl | rfl) | rfl) | rfl
    all_goals rfl

theorem isBare_of_isDigit (hc : c.isDigit = true) : isBare c = true := by
  unfold isBare
  by_contra hbad
  simp only [Bool.and_eq_true, bne_iff_ne, ne_eq, not_and_or, not_not] at hbad
  rcases hbad with (((((rfl | rfl) | rfl) | rfl) | rfl) | rfl) | rfl
  all_goals exact absurd hc (by decide)

theorem Digits.skips (H : Digits text rest) : Skips text rest := by
  induction H with
  | last hc => exact .cons (isBare_of_isDigit hc) .nil
  | cons hc _ ih => exact .cons (isBare_of_isDigit hc) ih

theorem IntPart.skips (H : IntPart text rest) : Skips text rest := by
  cases H with
  | zero => exact .cons rfl .nil
  | digits _ hdigits => exact hdigits.skips

theorem FracPart.skips (H : FracPart text rest) : Skips text rest := by
  cases H with
  | none => exact .nil
  | some hdigits => exact .cons rfl hdigits.skips

theorem isBare_exp (he : e = 'e' ∨ e = 'E') : isBare e = true := by
  rcases he with rfl | rfl
  · rfl
  · rfl

theorem ExpPart.skips (H : ExpPart text rest) : Skips text rest := by
  cases H with
  | none => exact .nil
  | unsigned he hdigits => exact .cons (isBare_exp he) hdigits.skips
  | signed he hsign hdigits =>
    refine .cons (isBare_exp he) (.cons ?_ hdigits.skips)
    rcases hsign with rfl | rfl
    · rfl
    · rfl

theorem Number.skips (H : Number text rest) : Skips text rest := by
  cases H with
  | unsigned hint hfrac hexp => exact hint.skips.trans (hfrac.skips.trans hexp.skips)
  | negative hint hfrac hexp =>
    exact .cons rfl (hint.skips.trans (hfrac.skips.trans hexp.skips))

theorem space_le_of_isDigit (h : c.isDigit = true) : ' ' ≤ c := by
  simp only [Char.isDigit, Bool.and_eq_true, decide_eq_true_eq] at h
  exact Char.le_trans (by decide) h.1

theorem space_le_of_hexDigit (h : hexDigit c = some d) : ' ' ≤ c := by
  unfold hexDigit at h
  split at h
  · next hdigit => exact space_le_of_isDigit hdigit
  split at h
  · next hlower => exact Char.le_trans (by decide) hlower.1
  split at h
  · next hupper => exact Char.le_trans (by decide) hupper.1
  · cases h

theorem isPlain_of_hexDigit (h : hexDigit c = some d) : isPlain c = true := by
  have hquote : c ≠ '"' := by
    rintro rfl
    cases h
  have hslash : c ≠ '\\' := by
    rintro rfl
    cases h
  simp [isPlain, space_le_of_hexDigit h, hquote, hslash]

/-! ## Scans by tokens -/

/-- What follows the string that begins before `text`: it ends at the first quote that is not
escaped. -/
def behindString : List Char → Option (List Char)
  | [] => none
  | [c] => if c = '"' then some [] else none
  | c :: c' :: text =>
    if c = '"' then some (c' :: text)
    else if c = '\\' then behindString text
    else behindString (c' :: text)

/-- A scan of `text` by tokens, starting inside `depth` brackets, comes to be inside `n`. It goes no
further than an unclosed string or a bracket that closes nothing. Characters that are no token are
passed over, so that a parser that stops at the first error goes no further either. -/
inductive Reaches : Nat → List Char → Nat → Prop
  | here : Reaches depth text depth
  | opened : c = '[' ∨ c = '{' → Reaches (depth + 1) text n → Reaches depth (c :: text) n
  | closed : c = ']' ∨ c = '}' → Reaches depth text n → Reaches (depth + 1) (c :: text) n
  | string : behindString text = some rest → Reaches depth rest n → Reaches depth ('"' :: text) n
  | other : c ≠ '"' ∧ c ≠ '[' ∧ c ≠ '{' ∧ c ≠ ']' ∧ c ≠ '}' → Reaches depth text n →
    Reaches depth (c :: text) n

end JsonText
