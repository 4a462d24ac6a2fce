import ModbusGateway.Basic

/-!
# The row reader

`read_row` of `custom_map.c`. The position in the text is the text from there on, and a row is the list
of its fields.
-/

namespace ModbusGateway

def FIELD_COUNT : Nat := 15
def FIELD_BYTES : Nat := 513

def printable (c : Char) : Bool := 32 ≤ c.toNat && c.toNat ≤ 126

/-- The loop of `read_row` over a field that is not quoted, `n` characters being stored: the rest of
the field and what follows it. -/
def readBare : Nat → List Char → Option (CString × List Char)
  | _, [] => some ([], [])
  | n, ch :: csv =>
    if ¬ printable ch then
      if ch = '\r' ∨ ch = '\n' then some ([], ch :: csv) else none
    else if ch = ',' then some ([], ch :: csv)
    else if ch = '"' then none
    else if n + 1 ≥ FIELD_BYTES then none
    else (readBare (n + 1) csv).map fun r => (ch :: r.1, r.2)

/-- The same loop over a quoted field; what follows begins after the closing quote. -/
def readQuoted : Nat → List Char → Option (CString × List Char)
  | _, [] => none
  | n, '"' :: '"' :: csv =>
    if n + 1 ≥ FIELD_BYTES then none
    else (readQuoted (n + 1) csv).map fun r => ('"' :: r.1, r.2)
  | _, '"' :: csv => some ([], csv)
  | n, ch :: csv =>
    if ¬ printable ch then none
    else if n + 1 ≥ FIELD_BYTES then none
    else (readQuoted (n + 1) csv).map fun r => (ch :: r.1, r.2)

/-- One field from its first character on. -/
def readOne : List Char → Option (CString × List Char)
  | '"' :: csv => readQuoted 0 csv
  | csv => readBare 0 csv

/-- The comma after a field that is not the last. -/
def readComma : List Char → Option (List Char)
  | ',' :: csv => some csv
  | _ => none

/-- The line end after the last field. -/
def readEol : List Char → Option (List Char)
  | [] => some []
  | '\r' :: '\n' :: csv => some csv
  | '\n' :: csv => some csv
  | _ => none

/-- The fields of a row, `left` more after the next one. -/
def readFields : Nat → List Char → Option (List CString × List Char)
  | 0, csv => do
    let (field, csv) ← readOne csv
    let csv ← readEol csv
    return ([field], csv)
  | left + 1, csv => do
    let (field, csv) ← readOne csv
    let csv ← readComma csv
    let (fields, csv) ← readFields left csv
    return (field :: fields, csv)

/-- `csv_row_t`. -/
abbrev CsvRow := List CString

/-- `row->fields[i]`. -/
def CsvRow.field (row : CsvRow) (i : Nat) : CString := row.getD i []

/-- `read_row`. -/
def readRow (csv : List Char) : Option (CsvRow × List Char) := readFields (FIELD_COUNT - 1) csv

end ModbusGateway
