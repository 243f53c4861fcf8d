import GameShelf.Field
import GameShelf.Numeral.Decimal

/-!
# Columns of a table of games

A table of games has ten columns: one for each field and one for the number in the catalogue.
A column holds cells of one kind, and `Draft` collects the cells of a row until all are there.
-/

set_option autoImplicit false

namespace GameShelf

/-- What a cell of the kind holds. -/
def Kind.Content : Kind → Type
  | .text => Text
  | .integer => Int32
  | .float => Binary64

/-- Reads the text of a cell of the kind. -/
def Kind.readCell : (kind : Kind) → Text → Except Numeral.Fault kind.Content
  | .text, t => .ok t
  | .integer, t => Numeral.readInt32 t
  | .float, t => Numeral.readBinary64 t

namespace Csv

/-- A column of a table of games. -/
inductive Column where
  | id
  | field (field : Field)
  deriving DecidableEq, Repr

namespace Column

/-- All columns, in the order of the record. -/
def all : List Column :=
  [.field .name, .id, .field .minPlayers, .field .maxPlayers, .field .minPlayTime,
    .field .maxPlayTime, .field .difficulty, .field .rank, .field .rating, .field .yearPublished]

theorem mem_all (column : Column) : column ∈ all := by
  cases column with
  | id => decide
  | field f => cases f <;> decide

/-- The name of the column. -/
def name : Column → String
  | .id => "id"
  | .field f => f.columnName

/-- The column with exactly this name. -/
def ofName? (t : Text) : Option Column :=
  all.find? fun column => column.name.toList == t

/-- The kind of the column's cells. -/
def kind : Column → Kind
  | .id => .integer
  | .field f => f.kind

/-- What a cell of the column holds. -/
abbrev Content (column : Column) : Type :=
  column.kind.Content

end Column

/-- The cells of a row that are known so far. -/
def Draft : Type :=
  (column : Column) → Option column.Content

namespace Draft

/-- A row of which nothing is known. -/
def empty : Draft :=
  fun _ => none

/-- The row with one cell set. -/
def set (draft : Draft) (column : Column) (content : column.Content) : Draft :=
  fun other => if h : column = other then some (h ▸ content) else draft other

/-- The cell of a column, or the column if there is none. -/
def require (draft : Draft) (column : Column) : Except Column column.Content :=
  match draft column with
  | some content => .ok content
  | none => .error column

/-- The game of a complete row, or the first column that is missing. -/
def toGame (draft : Draft) : Except Column Game := do
  let name ← draft.require (.field .name)
  let id ← draft.require .id
  let minPlayers ← draft.require (.field .minPlayers)
  let maxPlayers ← draft.require (.field .maxPlayers)
  let minPlayTime ← draft.require (.field .minPlayTime)
  let maxPlayTime ← draft.require (.field .maxPlayTime)
  let difficulty ← draft.require (.field .difficulty)
  let rank ← draft.require (.field .rank)
  let rating ← draft.require (.field .rating)
  let yearPublished ← draft.require (.field .yearPublished)
  return {
    name, id, minPlayers, maxPlayers, minPlayTime, maxPlayTime, difficulty, rank, rating,
    yearPublished }

@[simp] theorem set_same (draft : Draft) (column : Column) (content : column.Content) :
    draft.set column content column = some content := by
  simp [set]

theorem set_of_ne (draft : Draft) {column other : Column} (content : column.Content)
    (h : column ≠ other) : draft.set column content other = draft other := by
  simp [set, h]

end Draft
end Csv
end GameShelf
