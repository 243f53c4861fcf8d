import GameShelf.Number
import GameShelf.Text.Lowercase

/-!
# Values and their kinds

What a field of a game holds, and what a clause compares it with: a text or a number.  `Kind` names
the three kinds a field can have; it decides how the value of a clause is read and which operators
apply.
-/

set_option autoImplicit false

namespace GameShelf

/-- The kind of value that a field holds. -/
inductive Kind where
  | text
  | integer
  | float
  deriving DecidableEq, Repr

/-- The name of a kind. -/
def Kind.name : Kind → String
  | .text => "text"
  | .integer => "integer"
  | .float => "float"

/-- A text or a number. -/
inductive Value where
  | text (t : Text)
  | number (n : Number)
  deriving DecidableEq, Repr

namespace Value

/-- The kind of a value. -/
def kind : Value → Kind
  | .text _ => .text
  | .number (.int _) => .integer
  | .number (.float _) => .float

/-- Compares two values in the order used for sorting: texts ignoring case, numbers by their total
order, and every number before every text. -/
def compare : Value → Value → Ordering
  | .text a, .text b => a.compareIgnoringCase b
  | .number a, .number b => a.totalCompare b
  | .text _, .number _ => .gt
  | .number _, .text _ => .lt

end Value
end GameShelf
