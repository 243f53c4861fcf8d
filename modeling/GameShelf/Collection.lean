import GameShelf.Filter
import GameShelf.Order

/-!
# Collections

A collection is a list of games without duplicates.  Of games that are the same the first one is
kept.  Filtering keeps the order of the collection; sorting comes after filtering.
-/

set_option autoImplicit false

namespace GameShelf

/-- No two games of the list are the same. -/
def Game.Distinct (games : List Game) : Prop :=
  games.Pairwise fun a b => a.same b = false

/-- A game of `fresh known games` is not among the known ones. -/
theorem Game.among_of_mem_fresh {game : Game} {known games : List Game}
    (h : game ∈ Game.fresh known games) : game.among known = false := by
  induction games generalizing known with
  | nil => cases h
  | cons head rest ih =>
      by_cases hk : head.among known = true
      · simp only [fresh, hk, ↓reduceIte] at h
        exact ih h
      · simp only [fresh, hk, Bool.false_eq_true, ↓reduceIte, List.mem_cons] at h
        rcases h with rfl | h
        · simpa using hk
        · have := ih h
          simp only [among, List.any_cons, Bool.or_eq_false_iff] at this
          exact this.2

/-- What `fresh` keeps has no duplicates. -/
theorem Game.distinct_fresh (known games : List Game) :
    Game.Distinct (Game.fresh known games) := by
  induction games generalizing known with
  | nil => exact List.Pairwise.nil
  | cons head rest ih =>
      by_cases hk : head.among known = true
      · simpa [fresh, hk] using ih known
      · simp only [fresh, hk, Bool.false_eq_true, ↓reduceIte]
        refine List.Pairwise.cons ?_ (ih (head :: known))
        intro other hother
        have := among_of_mem_fresh hother
        simp only [among, List.any_cons, Bool.or_eq_false_iff] at this
        rw [Game.same_comm]
        exact this.1

/-- A list of games without duplicates. -/
structure Collection where
  games : List Game
  distinct : Game.Distinct games

namespace Collection

/-- The collection of the given games. -/
def ofList (games : List Game) : Collection :=
  ⟨Game.fresh [] games, Game.distinct_fresh [] games⟩

/-- The number of games. -/
def size (collection : Collection) : Nat :=
  collection.games.length

/-- The games that pass a filter. -/
def filter (collection : Collection) (text : Text) : Except Error (List Game) := do
  let filter ← Filter.parse text
  return collection.games.filter filter.accepts

/-- The games that pass a filter, sorted. -/
def filterAndSort (collection : Collection) (text : Text) (key : Option Field)
    (direction : Direction) : Except Error (List Game) := do
  let games ← collection.filter text
  sortGames games key direction

/-- The position of a game. -/
def position? (collection : Collection) (game : Game) : Option Nat :=
  collection.games.findIdx? game.same

end Collection
end GameShelf
