import GameShelf.Text.Search
import GameShelf.Value

/-!
# Operators

The seven comparisons of a filter.  Some tokens begin with others, so the operator of a clause is
sought in a fixed order, with the tokens of two characters before `>` and `<`.
-/

set_option autoImplicit false

namespace GameShelf

/-- A comparison between the field of a game and the value of a clause. -/
inductive Operator where
  | equal
  | notEqual
  | greater
  | greaterEqual
  | less
  | lessEqual
  | contains
  deriving DecidableEq, Repr

namespace Operator

/-- All operators, in the order in which a clause is searched for them. -/
def all : List Operator :=
  [.greaterEqual, .lessEqual, .equal, .notEqual, .contains, .greater, .less]

theorem mem_all (operator : Operator) : operator ∈ all := by
  cases operator <;> decide

/-- How the operator is written in a filter. -/
def token : Operator → String
  | .equal => "=="
  | .notEqual => "!="
  | .greater => ">"
  | .greaterEqual => ">="
  | .less => "<"
  | .lessEqual => "<="
  | .contains => "~="

/-- The name of the operator. -/
def name : Operator → String
  | .equal => "EQUALS"
  | .notEqual => "NOT_EQUALS"
  | .greater => "GREATER_THAN"
  | .greaterEqual => "GREATER_THAN_EQUALS"
  | .less => "LESS_THAN"
  | .lessEqual => "LESS_THAN_EQUALS"
  | .contains => "CONTAINS"

/-- The first operator of `all` whose token occurs in the text. -/
def detect? (t : Text) : Option Operator :=
  all.find? fun operator => t.includes operator.token.toList

/-- Whether the operator applies to fields of the kind.  Containment is for texts, the others are
for every kind. -/
def appliesTo : Operator → Kind → Bool
  | .contains, .integer | .contains, .float => false
  | _, _ => true

/-- Whether the operator holds when the field stands in this order to the value.  Containment is
not a matter of order and never holds here. -/
def holds : Operator → Ordering → Bool
  | .equal, order => order == .eq
  | .notEqual, order => order != .eq
  | .greater, order => order == .gt
  | .greaterEqual, order => order != .lt
  | .less, order => order == .lt
  | .lessEqual, order => order != .gt
  | .contains, _ => false

end Operator
end GameShelf
