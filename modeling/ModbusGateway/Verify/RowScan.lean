import ModbusGateway.Custom.Scan
import ModbusGateway.Verify.CsvRow

/-!
# The row reader in its text

The reader at its positions does what the reader of the remaining text does, so it accepts exactly the
rows of the grammar. It never reads at or behind the length, and a row moves it at least over its commas.
-/

namespace ModbusGateway

open Csv

variable {csv : Nat → Char} {length : Nat}

/-- The text from a position on. -/
def restFrom (csv : Nat → Char) (length position : Nat) : List Char :=
  (List.range (length - position)).map fun i => csv (position + i)

theorem restFrom_of_lt (h : p < length) :
    restFrom csv length p = csv p :: restFrom csv length (p + 1) := by
  obtain ⟨k, hk⟩ : ∃ k, length - p = k + 1 := ⟨length - p - 1, by omega⟩
  have hk' : length - (p + 1) = k := by omega
  unfold restFrom
  rw [hk, hk', List.range_succ_eq_map, List.map_cons, List.map_map, Nat.add_zero]
  refine congrArg _ (List.map_congr_left fun i _ => ?_)
  exact congrArg csv (by simp only [Nat.succ_eq_add_one]; omega)

theorem restFrom_of_ge (h : length ≤ p) : restFrom csv length p = [] := by
  unfold restFrom
  rw [Nat.sub_eq_zero_of_le h]
  rfl

theorem length_restFrom (csv : Nat → Char) (length p : Nat) :
    (restFrom csv length p).length = length - p := by
  simp [restFrom]

/-! ## Inside the text -/

/-- A part of the reader goes on from `s` to `s'`: forward, not beyond the length, and reading inside. -/
structure Inside (length : Nat) (s s' : Scan) : Prop where
  forward : s.position ≤ s'.position
  within : s'.position ≤ max length s.position
  reads : (∀ i ∈ s.reads, i < length) → ∀ i ∈ s'.reads, i < length

theorem Inside.refl (s : Scan) : Inside length s s := ⟨Nat.le_refl _, Nat.le_max_right _ _, id⟩

theorem Inside.trans (H : Inside length s s') (H' : Inside length s' s'') : Inside length s s'' := by
  have hforward := H.forward
  have hwithin := H.within
  have hwithin' := H'.within
  exact ⟨hforward.trans H'.forward, by omega, fun h => H'.reads (H.reads h)⟩

theorem Inside.look {s : Scan} (h : s.position < length) : Inside length s s.look := by
  refine ⟨Nat.le_refl _, Nat.le_max_right _ _, fun hreads i hi => ?_⟩
  rcases List.mem_cons.mp hi with rfl | hi
  · exact h
  · exact hreads i hi

theorem Inside.step {s : Scan} (h : s.position < length) : Inside length s s.look.next := by
  refine ⟨Nat.le_succ _, ?_, (Inside.look h).reads⟩
  exact Nat.le_trans h (Nat.le_max_left _ _)

theorem fieldLoop_inside (s : Scan) :
    Inside length s (fieldLoop csv length quoted buffer n s).2 := by
  fun_induction fieldLoop csv length quoted buffer n s with
  | case1 | case2 | case7 | case8 => exact .look ‹_›
  | case3 => exact (Inside.step ‹_›).trans (.step ‹_›)
  | case4 _ _ _ hlt _ _ _ hlt' _ _ ih => exact ((Inside.step hlt).trans (.step hlt')).trans ih
  | case5 => exact (Inside.step ‹_›).trans (.look ‹_›)
  | case6 | case9 => exact .step ‹_›
  | case10 _ _ _ hlt _ _ _ _ _ _ ih => exact (Inside.step hlt).trans ih
  | case11 => exact .refl _

theorem readFieldAt_inside (s : Scan) : Inside length s (readFieldAt csv length s).2 := by
  unfold readFieldAt
  dsimp only
  split
  · next hlt =>
    split
    · exact (Inside.step hlt).trans (fieldLoop_inside _)
    · exact (Inside.look hlt).trans (fieldLoop_inside _)
  · exact fieldLoop_inside s

theorem readCommaAt_inside (s : Scan) : Inside length s (readCommaAt csv length s).2 := by
  unfold readCommaAt
  split
  · exact .refl s
  · next hlt =>
    have hlt : s.position < length := Nat.lt_of_not_le hlt
    split
    · exact .look hlt
    · exact .step hlt

theorem readLfAt_inside {s : Scan} (hlt : s.position < length) :
    Inside length s (readLfAt csv s).2 := by
  unfold readLfAt
  split
  · exact .look hlt
  · exact .step hlt

theorem readEolAt_inside (s : Scan) : Inside length s (readEolAt csv length s).2 := by
  unfold readEolAt
  split
  · next hlt =>
    split
    · split
      · exact .step hlt
      · next hlt' =>
        have hlook := (Inside.step hlt).trans (.look (Nat.lt_of_not_le hlt'))
        split
        · exact hlook
        · exact hlook.trans (readLfAt_inside (Nat.lt_of_not_le hlt'))
    · exact (Inside.look hlt).trans (readLfAt_inside hlt)
  · exact .refl s

theorem Inside.andThen {r : Option α × Scan} {f : α → Scan → Option β × Scan}
    (H : Inside length s r.2) (hf : ∀ a s, Inside length s (f a s).2) :
    Inside length s (andThen r f).2 := by
  obtain ⟨a, t⟩ := r
  cases a with
  | none => exact H
  | some a => exact H.trans (hf a t)

theorem readFieldsAt_inside (s : Scan) : Inside length s (readFieldsAt csv length left s).2 := by
  induction left generalizing s with
  | zero =>
    exact (readFieldAt_inside s).andThen fun _ s => (readEolAt_inside s).andThen fun _ s => .refl s
  | succ left ih =>
    exact (readFieldAt_inside s).andThen fun _ s => (readCommaAt_inside s).andThen fun _ s =>
      (ih s).andThen fun _ s => .refl s

/-! ## The same as in the text -/

/-- The buffer after these characters were stored from `n` on. -/
def stored : List Char → Nat → List Char → List Char
  | buffer, _, [] => buffer
  | buffer, n, c :: cs => stored (buffer.set n c) (n + 1) cs

/-- A buffer that holds a string, with zeros behind it. -/
def terminated (s : CString) : List Char := s ++ List.replicate (FIELD_BYTES - s.length) '\x00'

theorem stored_append (cs before after : List Char) (h : cs.length ≤ after.length) :
    stored (before ++ after) before.length cs = before ++ (cs ++ after.drop cs.length) := by
  induction cs generalizing before after with
  | nil => rfl
  | cons c cs ih =>
    cases after with
    | nil => cases h
    | cons a after =>
      have hset : (before ++ a :: after).set before.length c = (before ++ [c]) ++ after := by simp
      have hlength : before.length + 1 = (before ++ [c]).length := by simp
      rw [stored, hset, hlength, ih _ after (Nat.le_of_succ_le_succ h)]
      simp

theorem stored_cleared (h : s.length < FIELD_BYTES) :
    stored (List.replicate FIELD_BYTES '\x00') 0 s = terminated s := by
  have hstored := stored_append s [] (List.replicate FIELD_BYTES '\x00')
    (by rw [List.length_replicate]; exact h.le)
  rw [List.nil_append, List.nil_append, List.drop_replicate] at hstored
  exact hstored

/-- A part of the reader at the positions agrees with a part of the reader of the text, `f` giving the
buffers for the fields. -/
def Agrees (csv : Nat → Char) (length : Nat) (f : α → β) (spec : Option (α × List Char))
    (r : Option β × Scan) : Prop :=
  match spec with
  | none => r.1 = none
  | some (a, tail) => r.1 = some (f a) ∧ restFrom csv length r.2.position = tail

theorem Agrees.store {buffer : List Char}
    (H : Agrees csv length (stored (buffer.set n c) (n + 1)) spec r) :
    Agrees csv length (stored buffer n) (spec.map fun x => (c :: x.1, x.2)) r := by
  cases spec with
  | none => exact H
  | some x => exact H

theorem fieldLoop_bare (csv : Nat → Char) (length : Nat) (buffer : List Char) (n : Nat) (s : Scan) :
    Agrees csv length (stored buffer n) (readBare n (restFrom csv length s.position))
      (closedField (fieldLoop csv length false buffer n s)) := by
  generalize hquoted : false = quoted
  fun_induction fieldLoop csv length quoted buffer n s with
  | case1 buffer n s hlt ch hprint hend =>
    rw [restFrom_of_lt hlt, readBare, if_pos hprint, if_pos hend.2]
    exact ⟨rfl, restFrom_of_lt hlt⟩
  | case2 buffer n s hlt ch hprint hend =>
    rw [restFrom_of_lt hlt, readBare, if_pos hprint, if_neg fun h => hend ⟨hquoted.symm, h⟩]
    rfl
  | case7 buffer n s hlt ch hprint _ hcomma =>
    rw [restFrom_of_lt hlt, readBare, if_neg hprint, if_pos hcomma.2]
    exact ⟨rfl, restFrom_of_lt hlt⟩
  | case8 buffer n s hlt ch hprint _ hcomma hquote =>
    rw [restFrom_of_lt hlt, readBare, if_neg hprint, if_neg fun h => hcomma ⟨hquoted.symm, h⟩,
      if_pos hquote.2]
    rfl
  | case9 buffer n s hlt ch hprint _ hcomma hquote hfull =>
    rw [restFrom_of_lt hlt, readBare, if_neg hprint, if_neg fun h => hcomma ⟨hquoted.symm, h⟩,
      if_neg fun h => hquote ⟨hquoted.symm, h⟩, if_pos hfull]
    rfl
  | case10 buffer n s hlt ch hprint _ hcomma hquote hfull ih =>
    rw [restFrom_of_lt hlt, readBare, if_neg hprint, if_neg fun h => hcomma ⟨hquoted.symm, h⟩,
      if_neg fun h => hquote ⟨hquoted.symm, h⟩, if_neg hfull]
    exact ih.store
  | case11 buffer n s hlt =>
    subst hquoted
    rw [restFrom_of_ge (Nat.le_of_not_lt hlt)]
    exact ⟨rfl, restFrom_of_ge (Nat.le_of_not_lt hlt)⟩
  | case3 _ _ _ _ _ _ h | case4 _ _ _ _ _ _ h | case5 _ _ _ _ _ _ h | case6 _ _ _ _ _ _ h =>
    exact absurd (hquoted.trans h.1) (by decide)

theorem fieldLoop_quoted (csv : Nat → Char) (length : Nat) (buffer : List Char) (n : Nat) (s : Scan) :
    Agrees csv length (stored buffer n) (readQuoted n (restFrom csv length s.position))
      (closedField (fieldLoop csv length true buffer n s)) := by
  generalize hquoted : true = quoted
  fun_induction fieldLoop csv length quoted buffer n s with
  | case1 _ _ _ _ _ _ h | case7 _ _ _ _ _ _ _ h | case8 _ _ _ _ _ _ _ _ h =>
    exact absurd (hquoted.trans h.1) (by decide)
  | case2 buffer n s hlt ch hprint =>
    rw [restFrom_of_lt hlt, readQuoted_refused hprint]
    rfl
  | case3 buffer n s hlt ch hprint hquote hlt' hquote' hfull =>
    rw [restFrom_of_lt hlt, restFrom_of_lt hlt', hquote', show csv s.position = '"' from hquote.2,
      readQuoted, if_pos hfull]
    rfl
  | case4 buffer n s hlt ch hprint hquote hlt' hquote' hfull ih =>
    rw [restFrom_of_lt hlt, restFrom_of_lt hlt', hquote', show csv s.position = '"' from hquote.2,
      readQuoted, if_neg hfull]
    refine Agrees.store ?_
    rw [← hquote.2]
    exact ih
  | case5 buffer n s hlt ch hprint hquote hlt' hquote' =>
    have hhead : (restFrom csv length (s.position + 1)).head? ≠ some '"' := by
      rw [restFrom_of_lt hlt']
      exact fun h => hquote' (Option.some.inj h)
    rw [restFrom_of_lt hlt, show csv s.position = '"' from hquote.2, readQuoted_quote hhead]
    exact ⟨rfl, rfl⟩
  | case6 buffer n s hlt ch hprint hquote hlt' =>
    have hhead : (restFrom csv length (s.position + 1)).head? ≠ some '"' := by
      rw [restFrom_of_ge (Nat.le_of_not_lt hlt')]
      exact fun h => (by cases h)
    rw [restFrom_of_lt hlt, show csv s.position = '"' from hquote.2, readQuoted_quote hhead]
    exact ⟨rfl, rfl⟩
  | case9 buffer n s hlt ch hprint hquote _ _ hfull =>
    rw [restFrom_of_lt hlt, readQuoted_char (Decidable.not_not.mp hprint)
      fun h => hquote ⟨hquoted.symm, h⟩, if_pos hfull]
    rfl
  | case10 buffer n s hlt ch hprint hquote _ _ hfull ih =>
    rw [restFrom_of_lt hlt, readQuoted_char (Decidable.not_not.mp hprint)
      fun h => hquote ⟨hquoted.symm, h⟩, if_neg hfull]
    exact ih.store
  | case11 buffer n s hlt =>
    subst hquoted
    rw [restFrom_of_ge (Nat.le_of_not_lt hlt)]
    rfl

theorem readFieldAt_agrees (csv : Nat → Char) (length : Nat) (s : Scan) :
    Agrees csv length (stored (List.replicate FIELD_BYTES '\x00') 0)
      (readOne (restFrom csv length s.position)) (readFieldAt csv length s) := by
  unfold readFieldAt
  dsimp only
  split
  · next hlt =>
    split
    · next hquote =>
      have hloop := fieldLoop_quoted csv length (List.replicate FIELD_BYTES '\x00') 0 s.look.next
      rw [restFrom_of_lt hlt, hquote]
      exact hloop
    · next hquote =>
      have hloop := fieldLoop_bare csv length (List.replicate FIELD_BYTES '\x00') 0 s.look
      have hhead : (restFrom csv length s.position).head? ≠ some '"' := by
        rw [restFrom_of_lt hlt]
        exact fun h => hquote (Option.some.inj h)
      rw [readOne_bare hhead]
      exact hloop
  · next hend =>
    have hloop := fieldLoop_bare csv length (List.replicate FIELD_BYTES '\x00') 0 s
    have hhead : (restFrom csv length s.position).head? ≠ some '"' := by
      rw [restFrom_of_ge (Nat.le_of_not_lt hend)]
      exact nofun
    rw [readOne_bare hhead]
    exact hloop

/-- The part that stores nothing. -/
theorem readCommaAt_agrees (s : Scan) :
    Agrees csv length id ((readComma (restFrom csv length s.position)).map fun tail => ((), tail))
      (readCommaAt csv length s) := by
  unfold readCommaAt
  split
  · next hend =>
    rw [restFrom_of_ge hend]
    rfl
  · next hend =>
    have hlt := Nat.lt_of_not_le hend
    rw [restFrom_of_lt hlt]
    split
    · next hcomma =>
      have hnone : readComma (csv s.position :: restFrom csv length (s.position + 1)) = none := by
        unfold readComma
        split
        · next heq => exact absurd (List.cons.inj heq).1 hcomma
        · rfl
      rw [hnone]
      rfl
    · next hcomma =>
      rw [Decidable.not_not.mp hcomma]
      exact ⟨rfl, rfl⟩

theorem readEolAt_agrees (s : Scan) :
    Agrees csv length id ((readEol (restFrom csv length s.position)).map fun tail => ((), tail))
      (readEolAt csv length s) := by
  unfold readEolAt
  split
  · next hlt =>
    rw [restFrom_of_lt hlt]
    split
    · next hcr =>
      rw [hcr]
      split
      · next hend =>
        rw [restFrom_of_ge hend]
        rfl
      · next hend =>
        rw [restFrom_of_lt (Nat.lt_of_not_le hend)]
        split
        · next hlf =>
          have hnone : readEol ('\r' :: csv (s.position + 1) ::
              restFrom csv length (s.position + 1 + 1)) = none := by
            simp [readEol, hlf]
          rw [hnone]
          rfl
        · next hlf =>
          have hlf := Decidable.not_not.mp hlf
          have hread : readLfAt csv s.look.next.look = (some (), s.look.next.look.look.next) :=
            if_neg (not_not_intro hlf)
          rw [hlf, hread]
          exact ⟨rfl, rfl⟩
    · next hcr =>
      unfold readLfAt
      split
      · next hlf =>
        have hnone : readEol (csv s.position :: restFrom csv length (s.position + 1)) = none := by
          have hlf : csv s.position ≠ '\n' := hlf
          simp [readEol, hcr, hlf]
        rw [hnone]
        rfl
      · next hlf =>
        have hlf : csv s.position = '\n' := Decidable.not_not.mp hlf
        rw [hlf]
        exact ⟨rfl, rfl⟩
  · next hend =>
    rw [restFrom_of_ge (Nat.le_of_not_lt hend)]
    exact ⟨rfl, restFrom_of_ge (Nat.le_of_not_lt hend)⟩

/-- One part after the other, in both readers. -/
theorem Agrees.andThen {r : Option β × Scan} {spec : Option (α × List Char)}
    {g : β → Scan → Option δ × Scan} {spec' : α × List Char → Option (γ × List Char)}
    (H : Agrees csv length f spec r)
    (hg : ∀ a s, Agrees csv length f' (spec' (a, restFrom csv length s.position)) (g (f a) s)) :
    Agrees csv length f' (spec.bind spec') (andThen r g) := by
  obtain ⟨b, s⟩ := r
  cases spec with
  | none =>
    obtain rfl : b = none := H
    rfl
  | some x =>
    obtain ⟨a, tail⟩ := x
    obtain ⟨rfl, rfl⟩ : b = some (f a) ∧ restFrom csv length s.position = tail := H
    exact hg a s

theorem readFieldAt_terminated (s : Scan) :
    Agrees csv length terminated (readOne (restFrom csv length s.position))
      (readFieldAt csv length s) := by
  have H := readFieldAt_agrees csv length s
  cases hone : readOne (restFrom csv length s.position) with
  | none =>
    rw [hone] at H
    exact H
  | some x =>
    obtain ⟨field, tail⟩ := x
    obtain ⟨-, -, -, hlength⟩ := readOne_some hone
    rw [hone] at H
    exact ⟨H.1.trans (congrArg some (stored_cleared hlength)), H.2⟩

theorem readFields_zero (csv : List Char) : readFields 0 csv = (readOne csv).bind fun x =>
    ((readEol x.2).map fun tail => ((), tail)).bind fun y => some ([x.1], y.2) := by
  unfold readFields
  cases readOne csv with
  | none => rfl
  | some x => cases hend : readEol x.2 <;> simp [hend]

theorem readFields_succ (left : Nat) (csv : List Char) :
    readFields (left + 1) csv = (readOne csv).bind fun x =>
      ((readComma x.2).map fun tail => ((), tail)).bind fun y =>
        (readFields left y.2).bind fun z => some (x.1 :: z.1, z.2) := by
  rw [readFields]
  cases readOne csv with
  | none => rfl
  | some x => cases hend : readComma x.2 <;> simp [hend]

theorem readFieldsAt_agrees (s : Scan) :
    Agrees csv length (List.map terminated) (readFields left (restFrom csv length s.position))
      (readFieldsAt csv length left s) := by
  induction left generalizing s with
  | zero =>
    rw [readFields_zero]
    refine (readFieldAt_terminated s).andThen fun field s => ?_
    exact (readEolAt_agrees s).andThen fun _ s => ⟨rfl, rfl⟩
  | succ left ih =>
    rw [readFields_succ]
    refine (readFieldAt_terminated s).andThen fun field s => ?_
    refine (readCommaAt_agrees s).andThen fun _ s => ?_
    exact (ih s).andThen fun fields s => ⟨rfl, rfl⟩

/-- The reader at its positions does what the reader of the text does. -/
theorem readRowAt_agrees (csv : Nat → Char) (length position : Nat) :
    Agrees csv length (List.map terminated) (readRow (restFrom csv length position))
      (readRowAt csv length position) :=
  readFieldsAt_agrees { position }

/-! ## Rows -/

/-- The text begins with a row of these fields, which takes `size` characters with its line end. -/
def BeginsWithRow (text : List Char) (row : CsvRow) (size : Nat) : Prop :=
  FittingRow row FIELD_COUNT ∧ ∃ t e rest, Row Plain row t ∧ text = t ++ (e ++ rest) ∧
    (Eol e ∨ e = [] ∧ rest = []) ∧ size = t.length + e.length

theorem rowEnd_iff : RowEnd tail rest ↔ ∃ e, tail = e ++ rest ∧ (Eol e ∨ e = [] ∧ rest = []) := by
  constructor
  · rintro (⟨rfl, rfl⟩ | ⟨e, heol, rfl⟩)
    · exact ⟨[], rfl, .inr ⟨rfl, rfl⟩⟩
    · exact ⟨e, rfl, .inl heol⟩
  · rintro ⟨e, rfl, heol | ⟨rfl, rfl⟩⟩
    · exact .inr ⟨e, heol, rfl⟩
    · exact .inl ⟨rfl, rfl⟩

theorem beginsWithRow_iff : BeginsWithRow text row size ↔
    ∃ rest, readRow text = some (row, rest) ∧ text.length = size + rest.length := by
  constructor
  · rintro ⟨hfits, t, e, rest, hrow, rfl, hend, rfl⟩
    refine ⟨rest, readRow_iff.mpr ⟨hfits, t, _, hrow, rfl, rowEnd_iff.mpr ⟨e, rfl, hend⟩⟩, ?_⟩
    rw [List.length_append, List.length_append, Nat.add_assoc]
  · rintro ⟨rest, hread, hlength⟩
    obtain ⟨hfits, t, tail, hrow, rfl, hend⟩ := readRow_iff.mp hread
    obtain ⟨e, rfl, hend'⟩ := rowEnd_iff.mp hend
    refine ⟨hfits, t, e, rest, hrow, rfl, hend', ?_⟩
    rw [List.length_append, List.length_append] at hlength
    omega

theorem readRowAt_inside (csv : Nat → Char) (length position : Nat) :
    Inside length { position } (readRowAt csv length position).2 := readFieldsAt_inside _

/-- What a row that was read leaves behind. -/
theorem readRowAt_some (h : (readRowAt csv length position).1 = some buffers) :
    ∃ row rest, readRow (restFrom csv length position) = some (row, rest) ∧
      buffers = row.map terminated ∧
      restFrom csv length (readRowAt csv length position).2.position = rest := by
  have H := readRowAt_agrees csv length position
  cases hread : readRow (restFrom csv length position) with
  | none =>
    rw [hread] at H
    exact nomatch h.symm.trans H
  | some x =>
    rw [hread] at H
    exact ⟨x.1, x.2, rfl, Option.some.inj (h.symm.trans H.1), H.2⟩

/-- The position and the text that is left. -/
theorem readRowAt_position (h : (readRowAt csv length position).1 = some buffers) :
    length = (readRowAt csv length position).2.position +
      (restFrom csv length (readRowAt csv length position).2.position).length := by
  have H := readRowAt_inside csv length position
  obtain ⟨row, rest, hread, -⟩ := readRowAt_some h
  have hforward : position ≤ (readRowAt csv length position).2.position := H.forward
  have hwithin : (readRowAt csv length position).2.position ≤ max length position := H.within
  have hconsumes := readRow_consumes hread
  rw [length_restFrom] at hconsumes ⊢
  omega

theorem readRowAt_success (buffers : List (List Char)) (q : Nat) :
    ((readRowAt csv length position).1 = some buffers ∧
        (readRowAt csv length position).2.position = q) ↔
      ∃ row size, BeginsWithRow (restFrom csv length position) row size ∧
        buffers = row.map terminated ∧ q = position + size := by
  constructor
  · rintro ⟨h, rfl⟩
    have hposition := readRowAt_position h
    have hforward : position ≤ (readRowAt csv length position).2.position :=
      (readRowAt_inside csv length position).forward
    obtain ⟨row, rest, hread, rfl, hrest⟩ := readRowAt_some h
    rw [hrest] at hposition
    have hlength := length_restFrom csv length position
    have hconsumes := readRow_consumes hread
    refine ⟨row, (readRowAt csv length position).2.position - position,
      beginsWithRow_iff.mpr ⟨rest, hread, ?_⟩, rfl, ?_⟩
    · omega
    · omega
  · rintro ⟨row, size, hbegins, rfl, rfl⟩
    obtain ⟨rest, hread, hlength⟩ := beginsWithRow_iff.mp hbegins
    have H := readRowAt_agrees csv length position
    rw [hread] at H
    have hsome : (readRowAt csv length position).1 = some (row.map terminated) := H.1
    have hposition := readRowAt_position hsome
    have hrest : restFrom csv length (readRowAt csv length position).2.position = rest := H.2
    have hconsumes := readRow_consumes hread
    rw [hrest] at hposition
    rw [length_restFrom] at hlength hconsumes
    refine ⟨hsome, ?_⟩
    omega

theorem readRowAt_advance (h : (readRowAt csv length position).1 = some buffers) :
    position + 14 ≤ (readRowAt csv length position).2.position := by
  have hposition := readRowAt_position h
  obtain ⟨row, rest, hread, -, hrest⟩ := readRowAt_some h
  have hconsumes := readRow_consumes hread
  rw [hrest] at hposition
  rw [length_restFrom] at hconsumes
  omega

/-- `count` rows one after the other, from `p` to `q`. -/
inductive RowsAt (csv : Nat → Char) (length : Nat) : Nat → Nat → Nat → Prop
  | none : RowsAt csv length 0 p p
  | row : (readRowAt csv length p).1 = some buffers →
    RowsAt csv length count (readRowAt csv length p).2.position q → RowsAt csv length (count + 1) p q

theorem RowsAt.advance (H : RowsAt csv length count p q) :
    p + 14 * count ≤ q ∧ q ≤ max length p := by
  induction H with
  | none => omega
  | @row p _ _ _ hrow _ ih =>
    have hstep := readRowAt_advance hrow
    have hwithin : (readRowAt csv length p).2.position ≤ max length p :=
      (readRowAt_inside csv length p).within
    omega

/-- For every memory, length and position: a row is read exactly where the text begins with a row of the
grammar, into terminated buffers, and the position is then behind it. In any case the position goes
forward and not beyond the length, and nothing is read at the length or behind it. A row takes at least
14 characters, so that no text has more than a 14th of its length in rows. -/
theorem readRowAt_exact (csv : Nat → Char) (length position : Nat) :
    (∀ buffers q, ((readRowAt csv length position).1 = some buffers ∧
        (readRowAt csv length position).2.position = q) ↔
      ∃ row size, BeginsWithRow (restFrom csv length position) row size ∧
        buffers = row.map terminated ∧ q = position + size) ∧
      position ≤ (readRowAt csv length position).2.position ∧
      (readRowAt csv length position).2.position ≤ max length position ∧
      (∀ i ∈ (readRowAt csv length position).2.reads, i < length) ∧
      (∀ buffers, (readRowAt csv length position).1 = some buffers →
        position + 14 ≤ (readRowAt csv length position).2.position) ∧
      ∀ count q, RowsAt csv length count position q → 14 * count ≤ length - position := by
  have H := readRowAt_inside csv length position
  refine ⟨readRowAt_success, H.forward, H.within, H.reads nofun, fun _ => readRowAt_advance,
    fun count q hrows => ?_⟩
  have hadvance := hrows.advance
  omega

end ModbusGateway
