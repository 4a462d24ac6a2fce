import ModbusGateway.Custom.Row

/-!
# The row reader at its positions

`read_row` of `custom_map.c` once more, with the position as an index, the row as the buffers it is
written to, and a record of every index at which the text is read. `csv i` is what the memory holds `i`
characters after the pointer, also from the length on.
-/

namespace ModbusGateway

/-- `*position`, and the indices that were read, newest first. -/
structure Scan where
  position : Nat
  reads : List Nat := []

/-- `csv[*position]` is read. -/
def Scan.look (s : Scan) : Scan := { s with reads := s.position :: s.reads }

/-- `++*position`. -/
def Scan.next (s : Scan) : Scan := { s with position := s.position + 1 }

/-- The loop over a field that is written to `buffer`: the buffer and `closed`, unless the row is
refused. -/
def fieldLoop (csv : Nat → Char) (length : Nat) (quoted : Bool) (buffer : List Char) (n : Nat)
    (s : Scan) : Option (List Char × Bool) × Scan :=
  if s.position < length then
    let ch := csv s.position
    if ¬ printable ch then
      if quoted = false ∧ (ch = '\r' ∨ ch = '\n') then (some (buffer, true), s.look)
      else (none, s.look)
    else if quoted = true ∧ ch = '"' then
      if s.position + 1 < length then
        if csv (s.position + 1) = '"' then
          if n + 1 ≥ FIELD_BYTES then (none, s.look.next.look.next)
          else fieldLoop csv length quoted (buffer.set n ch) (n + 1) s.look.next.look.next
        else (some (buffer, true), s.look.next.look)
      else (some (buffer, true), s.look.next)
    else if quoted = false ∧ ch = ',' then (some (buffer, true), s.look)
    else if quoted = false ∧ ch = '"' then (none, s.look)
    else if n + 1 ≥ FIELD_BYTES then (none, s.look.next)
    else fieldLoop csv length quoted (buffer.set n ch) (n + 1) s.look.next
  else (some (buffer, !quoted), s)
termination_by length - s.position
decreasing_by
  · simp only [Scan.next, Scan.look]
    omega
  · simp only [Scan.next, Scan.look]
    omega

/-- A field that was not closed is refused. -/
def closedField (r : Option (List Char × Bool) × Scan) : Option (List Char) × Scan :=
  (r.1.bind fun field => if field.2 then some field.1 else none, r.2)

/-- One field, into a buffer that is cleared before. -/
def readFieldAt (csv : Nat → Char) (length : Nat) (s : Scan) : Option (List Char) × Scan :=
  let buffer := List.replicate FIELD_BYTES '\x00'
  if s.position < length then
    if csv s.position = '"' then closedField (fieldLoop csv length true buffer 0 s.look.next)
    else closedField (fieldLoop csv length false buffer 0 s.look)
  else closedField (fieldLoop csv length false buffer 0 s)

/-- The comma after a field that is not the last. -/
def readCommaAt (csv : Nat → Char) (length : Nat) (s : Scan) : Option Unit × Scan :=
  if s.position ≥ length then (none, s)
  else if csv s.position ≠ ',' then (none, s.look)
  else (some (), s.look.next)

/-- `csv[*position] != '\n'` and `++*position`. -/
def readLfAt (csv : Nat → Char) (s : Scan) : Option Unit × Scan :=
  if csv s.position ≠ '\n' then (none, s.look) else (some (), s.look.next)

/-- The line end after the last field. -/
def readEolAt (csv : Nat → Char) (length : Nat) (s : Scan) : Option Unit × Scan :=
  if s.position < length then
    if csv s.position = '\r' then
      if s.position + 1 ≥ length then (none, s.look.next)
      else if csv (s.position + 1) ≠ '\n' then (none, s.look.next.look)
      else readLfAt csv s.look.next.look
    else readLfAt csv s.look
  else (some (), s)

/-- One part after the other; the position stays where a part refuses the row. -/
def andThen (r : Option α × Scan) (f : α → Scan → Option β × Scan) : Option β × Scan :=
  match r with
  | (some a, s) => f a s
  | (none, s) => (none, s)

/-- The fields of a row, `left` more after the next one. -/
def readFieldsAt (csv : Nat → Char) (length : Nat) : Nat → Scan → Option (List (List Char)) × Scan
  | 0, s =>
    andThen (readFieldAt csv length s) fun field s =>
    andThen (readEolAt csv length s) fun _ s => (some [field], s)
  | left + 1, s =>
    andThen (readFieldAt csv length s) fun field s =>
    andThen (readCommaAt csv length s) fun _ s =>
    andThen (readFieldsAt csv length left s) fun fields s => (some (field :: fields), s)

/-- `read_row`: the buffers of the row if it returns true, and the position and the reads in any case. -/
def readRowAt (csv : Nat → Char) (length position : Nat) : Option (List (List Char)) × Scan :=
  readFieldsAt csv length (FIELD_COUNT - 1) { position }

end ModbusGateway
