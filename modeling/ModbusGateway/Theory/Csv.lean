import Mathlib.Algebra.GroupWithZero.Nat
import Mathlib.Data.List.Basic

/-!
# Comma-separated text

The grammar of comma-separated text as relations between values and texts. `plain` says which
characters a value may have. A field is written bare, if it has no comma and no quote, or between
quotes with its quotes doubled; a line ends with LF or CRLF, the last one optionally.
-/

namespace Csv

/-- A character between quotes. -/
def double (c : Char) : List Char := if c = '"' then ['"', '"'] else [c]

inductive Field (plain : Char → Prop) : List Char → List Char → Prop
  | bare : (∀ c ∈ s, plain c ∧ c ≠ ',' ∧ c ≠ '"') → Field plain s s
  | quoted : (∀ c ∈ s, plain c) → Field plain s ('"' :: (s.flatMap double ++ ['"']))

inductive Row (plain : Char → Prop) : List (List Char) → List Char → Prop
  | last : Field plain s t → Row plain [s] t
  | cons : Field plain s t → Row plain ss ts → Row plain (s :: ss) (t ++ ',' :: ts)

inductive Eol : List Char → Prop
  | lf : Eol ['\n']
  | crlf : Eol ['\r', '\n']

inductive Lines (plain : Char → Prop) : List (List (List Char)) → List Char → Prop
  | nil : Lines plain [] []
  | last : Row plain r t → Lines plain [r] t
  | cons : Row plain r t → Eol e → Lines plain rs ts → Lines plain (r :: rs) (t ++ (e ++ ts))

/-- Bare fields, one after the other. -/
theorem Row.bare (hne : ss ≠ []) (hs : ∀ s ∈ ss, ∀ c ∈ s, plain c ∧ c ≠ ',' ∧ c ≠ '"') :
    Row plain ss ([','].intercalate ss) := by
  induction ss with
  | nil => exact absurd rfl hne
  | cons s ss ih =>
    have hfield : Field plain s s := .bare (hs s List.mem_cons_self)
    cases ss with
    | nil =>
      rw [List.intercalate_singleton]
      exact .last hfield
    | cons s' ss =>
      rw [List.intercalate_cons_cons, List.append_assoc]
      exact .cons hfield (ih (List.cons_ne_nil _ _) fun t ht => hs t (List.mem_cons_of_mem s ht))

theorem length_double (s : List Char) : s.length ≤ (s.flatMap double).length := by
  induction s with
  | nil => exact Nat.le_refl _
  | cons c s ih =>
    have hc : 1 ≤ (double c).length := by
      unfold double
      split <;> exact Nat.succ_le_succ (Nat.zero_le _)
    rw [List.flatMap_cons, List.length_append, List.length_cons]
    omega

/-- A text is at least as long as its value. -/
theorem Field.length_le (H : Field plain s t) : s.length ≤ t.length := by
  cases H with
  | bare => exact Nat.le_refl _
  | quoted =>
    have hle := length_double s
    simp only [List.length_cons, List.length_append]
    omega

theorem Field.value_plain (H : Field plain s t) : ∀ c ∈ s, plain c := by
  cases H with
  | bare h => exact fun c hc => (h c hc).1
  | quoted h => exact h

/-- A row is as long as its values and the commas between them. -/
theorem Row.length_le (H : Row plain ss ts) :
    (ss.map List.length).sum + ss.length ≤ ts.length + 1 := by
  induction H with
  | last h =>
    have hle := h.length_le
    simp only [List.map_cons, List.map_nil, List.sum_cons, List.sum_nil, List.length_cons,
      List.length_nil]
    omega
  | cons h _ ih =>
    have hle := h.length_le
    simp only [List.map_cons, List.sum_cons, List.length_cons, List.length_append] at ih ⊢
    omega

end Csv
