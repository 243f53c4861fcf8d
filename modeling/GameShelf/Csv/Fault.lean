import GameShelf.Csv.Column
import GameShelf.Csv.Record

/-!
# Faults of a table

What can be wrong with a record of a table of games, with the wording of each.  A fault is reported
together with the position where its record begins.  Fields are numbered from zero.
-/

set_option autoImplicit false

namespace GameShelf.Csv

/-- What is wrong with a record. -/
inductive RecordFault where
  /-- The record has another number of fields than the header. -/
  | width (found expected : Nat)
  /-- A field is not UTF-8; `index` bytes of it are. -/
  | encoding (field index : Nat)
  /-- A field is not the number that its column holds. -/
  | cell (field : Nat) (fault : Numeral.Fault)
  /-- A column occurs a second time. -/
  | repeated (column : Column)
  /-- A column does not occur. -/
  | missing (column : Column)
  /-- A record without column names has too few fields. -/
  | short (found : Nat)
  deriving DecidableEq, Repr

/-- A fault and the position of its record. -/
structure Fault where
  position : Position
  cause : RecordFault
  deriving DecidableEq, Repr

namespace Fault

/-- The position as most faults word it. -/
def place (p : Position) : String :=
  s!"record {p.record} (line: {p.line}, byte: {p.byte})"

/-- The wording of a fault in the contents of a record. -/
def ofContents (p : Position) (text : String) : String :=
  s!"CSV deserialize error: {place p}: {text}"

/-- The wording of a fault. -/
def message (fault : Fault) : String :=
  let p := fault.position
  match fault.cause with
  | .width found expected =>
    s!"CSV error: {place p}: found record with {found} fields, "
      ++ s!"but the previous record has {expected} fields"
  | .encoding field index =>
    s!"CSV parse error: record {p.record} (line {p.line}, field: {field}, byte: {p.byte}): "
      ++ s!"invalid utf-8: invalid UTF-8 in field {field} near byte index {index}"
  | .cell field fault => ofContents p s!"field {field}: {fault.message}"
  | .repeated column => ofContents p s!"duplicate field `{column.name}`"
  | .missing column => ofContents p s!"missing field `{column.name}`"
  | .short found =>
    ofContents p s!"invalid length {found}, expected struct BoardGame with 10 elements"

end Fault
end GameShelf.Csv
