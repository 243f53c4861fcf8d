import GameShelf.Game
import GameShelf.Value

/-!
# Fields

The nine entries of a game that can be filtered and sorted by; the tenth, its number in the
catalogue, is only carried along.

A field goes by several names.  Filters use its filter name; the column of a table may be called
otherwise; a sort key may be either of them or one of three short forms.  In a filter and in a sort
key neither letter case nor underscores matter.
-/

set_option autoImplicit false

namespace GameShelf

/-- An entry of a game that can be filtered and sorted by. -/
inductive Field where
  | name
  | minPlayers
  | maxPlayers
  | minPlayTime
  | maxPlayTime
  | difficulty
  | rank
  | rating
  | yearPublished
  deriving DecidableEq, Repr

namespace Field

/-- All fields, in the order of the record. -/
def all : List Field :=
  [.name, .minPlayers, .maxPlayers, .minPlayTime, .maxPlayTime, .difficulty, .rank, .rating,
    .yearPublished]

theorem mem_all (field : Field) : field ∈ all := by
  cases field <;> decide

/-- The kind of value that the field holds. -/
def kind : Field → Kind
  | .name => .text
  | .difficulty | .rating => .float
  | _ => .integer

/-- The value of a whole-number entry. -/
def integerValue (n : Int32) : Value :=
  .number (.int n.toInt64)

/-- The value of the field in a game. -/
def value (game : Game) : Field → Value
  | .name => .text game.name
  | .minPlayers => integerValue game.minPlayers
  | .maxPlayers => integerValue game.maxPlayers
  | .minPlayTime => integerValue game.minPlayTime
  | .maxPlayTime => integerValue game.maxPlayTime
  | .difficulty => .number (.float game.difficulty)
  | .rank => integerValue game.rank
  | .rating => .number (.float game.rating)
  | .yearPublished => integerValue game.yearPublished

/-- A field holds values of its kind only. -/
theorem kind_value (game : Game) (field : Field) : (field.value game).kind = field.kind := by
  cases field <;> rfl

/-! ## Names -/

/-- The name of the field in filters. -/
def filterName : Field → String
  | .name => "name"
  | .minPlayers => "minplayers"
  | .maxPlayers => "maxplayers"
  | .minPlayTime => "minplaytime"
  | .maxPlayTime => "maxplaytime"
  | .difficulty => "difficulty"
  | .rank => "rank"
  | .rating => "rating"
  | .yearPublished => "yearpublished"

/-- The name of the field's column in a table of games. -/
def columnName : Field → String
  | .name => "objectname"
  | .difficulty => "avgweight"
  | .rating => "average"
  | field => field.filterName

/-- The other names that a sort key may use. -/
def sortAliases : List (String × Field) :=
  [("objectname", .name), ("avgweight", .difficulty), ("average", .rating),
    ("mintime", .minPlayTime), ("maxtime", .maxPlayTime), ("year", .yearPublished)]

/-- A field name without underscores and in lower case. -/
def normalizeName (t : Text) : Text :=
  Text.lowercase (t.filter (· ≠ '_'))

/-- The field with exactly this filter name. -/
def ofFilterName? (t : Text) : Option Field :=
  all.find? fun field => field.filterName.toList == t

/-- The field that a filter means by this text. -/
def ofFilterText? (t : Text) : Option Field :=
  ofFilterName? (normalizeName t)

/-- The field that a sort key means by this text. -/
def ofSortKey? (t : Text) : Option Field :=
  let key := normalizeName t.trim
  ofFilterName? key <|>
    (sortAliases.find? fun entry => entry.1.toList == key).map (·.2)

end Field
end GameShelf
