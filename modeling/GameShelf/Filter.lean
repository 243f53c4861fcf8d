import GameShelf.Clause

/-!
# Filters

A filter is a list of tests that a game must all pass.  It is written as clauses with commas
between them; a blank text is the filter that every game passes.
-/

set_option autoImplicit false

namespace GameShelf

/-- A test that a filter applies. -/
inductive Predicate where
  /-- Every game passes. -/
  | always
  /-- The games that pass the clause. -/
  | clause (c : Clause)
  deriving DecidableEq, Repr

/-- Whether the game passes the test. -/
def Predicate.test : Predicate → Game → Bool
  | .always, _ => true
  | .clause c, game => c.test game

/-- The tests that a game must pass. -/
abbrev Filter := List Predicate

namespace Filter

/-- Whether the game passes every test. -/
def accepts (filter : Filter) (game : Game) : Bool :=
  filter.all (·.test game)

/-- Reads the clauses from left to right; the first bad one is reported. -/
def parsePieces : List Text → Except Error Filter
  | [] => .ok []
  | piece :: rest => do
    let clause ← Clause.parse piece.trim
    let filter ← parsePieces rest
    return .clause clause :: filter

/-- Reads a filter. -/
def parse (t : Text) : Except Error Filter :=
  if t.trim.isEmpty then .ok [.always] else parsePieces t.pieces

/-- Whether the game passes the filter that the text says. -/
def admits (t : Text) (game : Game) : Except Error Bool :=
  (parse t).map (·.accepts game)

end Filter
end GameShelf
