import GameShelf.Csv.Row

/-!
# Sheets

A table of games as it may be written: a layout of columns, the rows, and the line ends.  The ten
columns of a game stand in any order among others, every field is in quotes, and each record may
have a line end of its own and empty lines behind it.

A sheet says what is written, not how it is read.  Whole numbers are in decimal.  A binary64 number
may be written in any way that reads as it, so the NaNs that no text denotes are on no sheet.
-/

set_option autoImplicit false

namespace GameShelf

/-- What a game has in a column. -/
def Game.content (game : Game) : (column : Csv.Column) → column.Content
  | .id => game.id
  | .field .name => game.name
  | .field .minPlayers => game.minPlayers
  | .field .maxPlayers => game.maxPlayers
  | .field .minPlayTime => game.minPlayTime
  | .field .maxPlayTime => game.maxPlayTime
  | .field .difficulty => game.difficulty
  | .field .rank => game.rank
  | .field .rating => game.rating
  | .field .yearPublished => game.yearPublished

/-- Whether the text is a way to write the content of a cell. -/
def Kind.Writes : (kind : Kind) → kind.Content → Text → Prop
  | .text, name, t => t = name
  | .integer, n, t => t = Numeral.decimal (Int32.toInt n)
  | .float, x, t => Numeral.readBinary64 t = .ok x

namespace Csv

/-! ## Fields and records -/

/-- A character within quotes: a quote is written twice. -/
def doubled (c : Char) : Text :=
  if c = '"' then ['"', '"'] else [c]

/-- A field in quotes. -/
def quoted (t : Text) : Text :=
  '"' :: t.flatMap doubled ++ ['"']

/-- A record of quoted fields. -/
def written : List Text → Text
  | [] => []
  | [cell] => quoted cell
  | cell :: rest => quoted cell ++ ',' :: written rest

/-- How a line ends. -/
inductive LineEnd where
  | lineFeed
  | carriageReturn
  | both
  deriving DecidableEq, Repr

/-- The characters of a line end. -/
def LineEnd.text : LineEnd → Text
  | .lineFeed => ['\n']
  | .carriageReturn => ['\r']
  | .both => ['\r', '\n']

/-- The end of a record and the empty lines behind it. -/
structure RecordEnd where
  lineEnd : LineEnd
  emptyLines : List LineEnd
  deriving DecidableEq, Repr

/-- The characters behind a record. -/
def RecordEnd.text (recordEnd : RecordEnd) : Text :=
  recordEnd.lineEnd.text ++ recordEnd.emptyLines.flatMap LineEnd.text

/-! ## Columns and rows -/

/-- The heading of a column: one of the ten, or any other. -/
inductive Heading where
  | known (column : Column)
  | other (title : Text)
  deriving DecidableEq, Repr

namespace Heading

/-- What stands in the header. -/
def title : Heading → Text
  | .known column => column.name.toList
  | .other title => title

/-- The column of a game that the heading is for. -/
def column? : Heading → Option Column
  | .known column => some column
  | .other _ => none

end Heading

/-- The headings of a table: the ten columns once each, in any order, and others by titles that
would not be taken for theirs. -/
structure Layout where
  headings : List Heading
  complete : (headings.filterMap Heading.column?).Perm Column.all
  distinguished : ∀ title, .other title ∈ headings →
    ∀ column : Column, title.trim ≠ column.name.toList

/-- A row: a game and how its entries are written, with whatever stands in the other columns, by
their positions.  The game's name has no white space at its ends. -/
structure Row where
  game : Game
  cell : Column → Text
  other : Nat → Text
  writes : ∀ column : Column, column.kind.Writes (game.content column) (cell column)
  name_trim : game.name.trim = game.name

/-- The cells of a row under the given headings. -/
def Row.cells (row : Row) (headings : List Heading) : List Text :=
  headings.mapIdx fun index heading =>
    match heading with
    | .known column => row.cell column
    | .other _ => row.other index

/-! ## Sheets -/

/-- A written table.  Each row comes with the end of the record in front of it; the last record may
have an end, too. -/
structure Sheet where
  layout : Layout
  rows : List (RecordEnd × Row)
  ending : Option RecordEnd

namespace Sheet

/-- The characters of the sheet. -/
def text (sheet : Sheet) : Text :=
  written (sheet.layout.headings.map Heading.title)
    ++ sheet.rows.flatMap (fun entry =>
      entry.1.text ++ written (entry.2.cells sheet.layout.headings))
    ++ (sheet.ending.map RecordEnd.text).getD []

/-- The games of the sheet. -/
def games (sheet : Sheet) : List Game :=
  sheet.rows.map fun entry => entry.2.game

end Sheet
end Csv
end GameShelf
