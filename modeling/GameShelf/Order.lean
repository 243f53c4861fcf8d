import GameShelf.Error

/-!
# Sort orders

A sort order is a field and a direction.  The descending order is the ascending one with its
outcomes reversed, so games that tie keep their places in both.
-/

set_option autoImplicit false

namespace GameShelf

/-- The direction of a sort. -/
inductive Direction where
  | ascending
  | descending
  deriving DecidableEq, Repr

instance : Inhabited Direction := ⟨.ascending⟩

namespace Direction

/-- The name of the direction. -/
def name : Direction → String
  | .ascending => "asc"
  | .descending => "desc"

/-- The direction that a flag stands for. -/
def ofAscending (ascending : Bool) : Direction :=
  if ascending then .ascending else .descending

/-- The outcome of a comparison in this direction. -/
def apply : Direction → Ordering → Ordering
  | .ascending, order => order
  | .descending, order => order.swap

end Direction

/-- A field to sort by and a direction. -/
structure Order where
  field : Field
  direction : Direction
  deriving DecidableEq, Repr

namespace Order

/-- Compares two games. -/
def compare (order : Order) (a b : Game) : Ordering :=
  order.direction.apply ((order.field.value a).compare (order.field.value b))

/-- Whether the first game may stand in front of the second. -/
def le (order : Order) (a b : Game) : Bool :=
  (order.compare a b).isLE

/-- Sorts games; those that tie keep their places. -/
def sort (order : Order) (games : List Game) : List Game :=
  games.mergeSort order.le

/-- The positions of the games in sorted order. -/
def sortPositions (order : Order) (games : List Game) : List Nat :=
  (games.zipIdx.mergeSort fun a b => order.le a.1 b.1).map (·.2)

/-- The order by an optional key, which must be there. -/
def ofKey (key : Option Field) (direction : Direction) : Except Error Order :=
  match key with
  | some field => .ok ⟨field, direction⟩
  | none => .error .noSortKey

end Order

/-- Reads a sort key. -/
def Field.parseSortKey (t : Text) : Except Error Field :=
  match Field.ofSortKey? t with
  | some field => .ok field
  | none => .error (.unknownSortKey t)

/-- Sorts games by an optional key, which must be there. -/
def sortGames (games : List Game) (key : Option Field) (direction : Direction) :
    Except Error (List Game) := do
  let order ← Order.ofKey key direction
  return order.sort games

end GameShelf
