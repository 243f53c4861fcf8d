import GameShelf.Csv.Fault

/-!
# From a record to a game

The header says which column each field belongs to; fields of unknown columns are passed over.  A
record is checked in this order: its number of fields, the encoding of its fields, its cells from
left to right, and last whether a column is missing.  The first thing that is wrong is reported.

When the header itself is not UTF-8 there are no column names.  Then the fields are taken in the
order of the record, and fields beyond the tenth are passed over.
-/

set_option autoImplicit false

namespace GameShelf.Csv

/-! ## Fields as texts -/

/-- The ASCII white space. -/
def isAsciiBlank (b : UInt8) : Bool :=
  b == 0x20 || b == 0x09 || b == 0x0A || b == 0x0C || b == 0x0D

/-- The bytes without ASCII white space at either end. -/
def trimBytes (bytes : Bytes) : Bytes :=
  ((bytes.dropWhile isAsciiBlank).reverse.dropWhile isAsciiBlank).reverse

/-- The texts of the fields, the first of which has number `index`. -/
def decodeFields (index : Nat) : List Bytes → Except RecordFault (List Text)
  | [] => .ok []
  | field :: rest =>
    match Utf8.decode (trimBytes field) with
    | .error valid => .error (.encoding index valid)
    | .ok t => (decodeFields (index + 1) rest).map (t.trim :: ·)

/-! ## The header -/

/-- The columns of a table, as its header gives them. -/
structure Header where
  /-- The column of each field, if it is a known one. -/
  columns : List (Option Column)
  /-- Whether the columns were given by name. -/
  named : Bool
  /-- The number of fields in the header. -/
  width : Nat
  deriving DecidableEq, Repr

/-- Reads a header record. -/
def Header.ofFields (fields : List Bytes) : Header :=
  match decodeFields 0 fields with
  | .ok names => ⟨names.map Column.ofName?, true, fields.length⟩
  | .error _ => ⟨Column.all.map some, false, fields.length⟩

/-! ## The rows -/

/-- Sets the cells of a row from left to right; the first has number `index`. -/
def fill (index : Nat) : List (Option Column × Text) → Draft → Except RecordFault Draft
  | [], draft => .ok draft
  | (none, _) :: rest, draft => fill (index + 1) rest draft
  | (some column, t) :: rest, draft =>
    if (draft column).isSome then .error (.repeated column)
    else
      match column.kind.readCell t with
      | .error fault => .error (.cell index fault)
      | .ok content => fill (index + 1) rest (draft.set column content)

/-- What is wrong with a row of so many cells that has none for the column. -/
def Header.absent (header : Header) (cells : Nat) (column : Column) : RecordFault :=
  if header.named then .missing column else .short cells

/-- The game of a row of cells. -/
def Header.game (header : Header) (cells : List Text) : Except RecordFault Game := do
  let draft ← fill 0 (header.columns.zip cells) .empty
  draft.toGame.mapError (header.absent cells.length)

/-- The game of the fields of a record. -/
def Header.readFields (header : Header) (fields : List Bytes) : Except RecordFault Game :=
  if fields.length = header.width then do
    let cells ← decodeFields 0 fields
    header.game cells
  else .error (.width fields.length header.width)

end GameShelf.Csv
