import GameShelf.Order
import GameShelf.Selector

/-!
# Plans

A plan is the list of games that a user has put together, in the order of adding and without
duplicates.  Games are added from a view, which is any list of games, and removed from the plan
itself.

Names and `all` compete with positions, and the two operations rank them differently: adding looks
for a game of that name first, removing for `all`.  An operation that fails leaves the plan as it
was.
-/

set_option autoImplicit false

namespace GameShelf

/-- A working list of games. -/
structure Plan where
  games : List Game
  deriving DecidableEq, Repr

namespace Plan

/-- The plan without games. -/
def empty : Plan := ⟨[]⟩

/-- The number of games. -/
def size (plan : Plan) : Nat :=
  plan.games.length

/-- Whether the game goes by this name. -/
def isNamed (t : Text) (game : Game) : Bool :=
  game.name.sameIgnoringCase t

/-! ## Adding and removing -/

/-- A plan after a change and the number of games by which it changed. -/
structure Change where
  plan : Plan
  count : Nat
  deriving DecidableEq, Repr

/-- The games of the view that a text asks to be added. -/
def chosen (text : Text) (view : List Game) : Except Error (List Game) :=
  let t := text.trim
  match view.find? (isNamed t) with
  | some game => .ok [game]
  | none =>
    match Selector.parse t with
    | .all => .ok view
    | .text t => .error (.unknownSelector t)
    | selector => (selector.resolve view.length).map fun span => span.elim [] (·.slice view)

/-- Adds the games that are not in the plan yet. -/
def append (plan : Plan) (games : List Game) : Change :=
  let added := Game.fresh plan.games games
  ⟨⟨plan.games ++ added⟩, added.length⟩

/-- Adds the games of the view that a text asks for. -/
def add (plan : Plan) (text : Text) (view : List Game) : Except Error Change :=
  (chosen text view).map plan.append

/-- Removes a stretch of the plan. -/
def erase (plan : Plan) (span : Selector.Span) : Change :=
  ⟨⟨span.erase plan.games⟩, (span.slice plan.games).length⟩

/-- Removes the games of the plan that a text asks for. -/
def remove (plan : Plan) (text : Text) : Except Error Change :=
  let t := text.trim
  let selector := Selector.parse t
  if selector = .all then .ok ⟨empty, plan.size⟩
  else
    match plan.games.findIdx? (isNamed t) with
    | some i => .ok ⟨⟨plan.games.eraseIdx i⟩, 1⟩
    | none =>
      match selector.resolve plan.size with
      | .ok (some span) => if span.isEmpty then .error .nothingToRemove else .ok (plan.erase span)
      | .ok none => .error (.unknownGame t)
      | .error e => .error e

/-! ## Names and the saved text -/

/-- The names of the games, sorted ignoring case; names that tie stay in the order of adding. -/
def names (plan : Plan) : List Text :=
  (plan.games.map (·.name)).mergeSort fun a b => (a.compareIgnoringCase b).isLE

/-- The text that is saved: each name on a line. -/
def savedText (plan : Plan) : Text :=
  plan.names.flatMap (· ++ ['\n'])

/-- Saving at a path of the stand-in `Storage`, which has no file to write to: it fails whatever the
plan. -/
def savePath (_ : Plan) (path : Text) : Except Error Unit :=
  .error (.notSaved path (Storage.writeFault path))

end Plan
end GameShelf
