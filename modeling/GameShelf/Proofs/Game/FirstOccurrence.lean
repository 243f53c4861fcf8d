import GameShelf.Proofs.Game.Distinct

/-!
# First occurrences

A collection keeps of its input each game that is the same as no earlier one.  For every game, the
input's first game that is the same is the one kept, and it is kept alone (`filter_same_fresh`).  So
a collection is its own input: reading it a second time takes nothing away.
-/

set_option autoImplicit false

namespace GameShelf

namespace Game

variable {a b game : Game} {known games : List Game}

/-- Being the same game is an equivalence, entries that are a NaN or a signed zero included. -/
theorem same_equivalence : Equivalence fun a b : Game => a.same b = true where
  refl := same_self
  symm := by
    intro a b hab
    rwa [same_comm]
  trans := same_trans

/-- The same games are among the same games. -/
theorem among_congr (hab : a.same b = true) : a.among games = b.among games := by
  rw [Bool.eq_iff_iff]
  exact ⟨among_of_same (same_equivalence.symm hab), among_of_same hab⟩

/-- Of the games that are the same as `game` only the first one is fresh, and none if it is
known. -/
theorem filter_same_fresh (game : Game) (known games : List Game) :
    (fresh known games).filter game.same =
      if game.among known then [] else (games.find? game.same).toList := by
  induction games generalizing known with
  | nil => simp [fresh]
  | cons head rest ih =>
      cases hsame : game.same head with
      | true =>
          -- Both are known or neither is; after `head` the game is known in any case.
          have hknown : head.among known = game.among known := (among_congr hsame).symm
          have hlater : game.among (head :: known) = true := by
            rw [among, List.any_cons, hsame, Bool.true_or]
          cases hamong : game.among known with
          | true => rw [fresh, hknown, hamong, if_pos rfl, ih, hamong, if_pos rfl, if_pos rfl]
          | false =>
              rw [fresh, hknown, hamong, if_neg Bool.false_ne_true, List.filter_cons_of_pos hsame,
                ih, if_pos hlater, List.find?_cons_of_pos hsame]
              rfl
      | false =>
          have hother : ¬ game.same head = true := by
            rw [hsame]
            exact Bool.false_ne_true
          have hlater : game.among (head :: known) = game.among known := by
            rw [among, List.any_cons, hsame, Bool.false_or, among]
          rw [List.find?_cons_of_neg hother, fresh]
          by_cases hk : head.among known = true
          · rw [if_pos hk, ih]
          · rw [if_neg hk, List.filter_cons_of_neg hother, ih, hlater]

end Game

namespace Collection

/-- With nothing known, a game is fresh where no earlier one of the list is the same. -/
theorem games_ofList (input : List Game) :
    (ofList input).games =
      (input.zipIdx.filter fun placed => !placed.1.among (input.take placed.2)).map Prod.fst := by
  have hnone : Game.isNew [] input = fun placed => !placed.1.among (input.take placed.2) := by
    funext placed
    rw [Game.isNew, Game.among, List.any_nil, Bool.not_false, Bool.true_and]
  rw [← hnone]
  exact Game.fresh_eq_filter [] input

/-- The games of a collection make up the same collection. -/
theorem ofList_games (collection : Collection) : ofList collection.games = collection := by
  have hgames : Game.fresh [] collection.games = collection.games := collection.distinct.fresh_nil
  cases collection
  simp only [ofList, hgames]

/-- A collection has the games of its input that are the same as no earlier one, in their order.
No two of them are the same; each game of the input is the same as exactly one of them, which is
the first such game of the input; and the collection made of them is the same again. -/
theorem games_ofList_eq_firsts (input : List Game) :
    (Equivalence fun a b : Game => a.same b = true) ∧
    (ofList input).games =
      (input.zipIdx.filter fun placed => !placed.1.among (input.take placed.2)).map Prod.fst ∧
    Game.Distinct (ofList input).games ∧
    (∀ game ∈ input, ∃ first, input.find? game.same = some first ∧
      (ofList input).games.filter game.same = [first]) ∧
    (ofList (ofList input).games).games = (ofList input).games := by
  refine ⟨Game.same_equivalence, games_ofList input, (ofList input).distinct, ?_, ?_⟩
  · intro game hgame
    have hfound : (input.find? game.same).isSome = true :=
      List.find?_isSome.2 ⟨game, hgame, Game.same_self game⟩
    rcases Option.isSome_iff_exists.1 hfound with ⟨first, hfirst⟩
    have honly := Game.filter_same_fresh game [] input
    rw [hfirst] at honly
    exact ⟨first, hfirst, honly⟩
  · rw [ofList_games]

/-- Three records that differ in a NaN's sign and, of the third, in a zero's: the second is a
duplicate of the first, the third is none. -/
theorem games_ofList_eq_firsts_nan_and_zeros :
    let go : Game := ⟨"Go".toList, 1, 2, 2, 30, 180, .quietNaN false, 23, .signedZero false, -2200⟩
    let duplicate : Game := { go with difficulty := .quietNaN true }
    let other : Game := { go with rating := .signedZero true }
    let input : List Game := [go, duplicate, other, go]
    duplicate ∈ input ∧ (ofList input).games = [go, other] ∧
      (ofList input).games.filter duplicate.same = [go] := by
  intro go duplicate other input
  have hmem : duplicate ∈ input := by simp [input]
  rcases games_ofList_eq_firsts input with ⟨-, hgames, -, hfirst, -⟩
  rcases hfirst duplicate hmem with ⟨first, hfound, honly⟩
  have hgo : first = go := by
    have hfind : input.find? duplicate.same = some go := by decide +kernel
    exact Option.some.inj (hfound.symm.trans hfind)
  rw [hgo] at honly
  refine ⟨hmem, ?_, honly⟩
  rw [hgames]
  decide +kernel

end Collection
end GameShelf
