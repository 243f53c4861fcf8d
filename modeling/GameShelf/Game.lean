import GameShelf.Binary64.Basic
import GameShelf.Text.Basic

/-!
# Games

A board game as the collection records it.  Two records are the same game when all ten entries
agree; a NaN counts as agreeing with any other NaN, and zeros of different sign do not agree.
-/

set_option autoImplicit false

namespace GameShelf

/-- The record of a board game. -/
structure Game where
  name : Text
  id : Int32
  minPlayers : Int32
  maxPlayers : Int32
  minPlayTime : Int32
  maxPlayTime : Int32
  difficulty : Binary64
  rank : Int32
  rating : Binary64
  yearPublished : Int32
  deriving DecidableEq, Repr

namespace Game

/-- Whether two records agree in every entry. -/
def same (a b : Game) : Bool :=
  a.name == b.name && a.id == b.id
    && a.minPlayers == b.minPlayers && a.maxPlayers == b.maxPlayers
    && a.minPlayTime == b.minPlayTime && a.maxPlayTime == b.maxPlayTime
    && a.difficulty.same b.difficulty && a.rank == b.rank && a.rating.same b.rating
    && a.yearPublished == b.yearPublished

theorem same_comm (a b : Game) : a.same b = b.same a := by
  simp only [same, Binary64.same_comm a.difficulty, Binary64.same_comm a.rating,
    Bool.beq_comm (a := a.name), Bool.beq_comm (a := a.id), Bool.beq_comm (a := a.minPlayers),
    Bool.beq_comm (a := a.maxPlayers), Bool.beq_comm (a := a.minPlayTime),
    Bool.beq_comm (a := a.maxPlayTime), Bool.beq_comm (a := a.rank),
    Bool.beq_comm (a := a.yearPublished)]

/-- Whether one of the games is the same as `game`. -/
def among (game : Game) (games : List Game) : Bool :=
  games.any game.same

/-- The games that are the same as none of `known` and as no earlier one of the list. -/
def fresh (known : List Game) : List Game → List Game
  | [] => []
  | game :: rest =>
    if game.among known then fresh known rest
    else game :: fresh (game :: known) rest

end Game
end GameShelf
