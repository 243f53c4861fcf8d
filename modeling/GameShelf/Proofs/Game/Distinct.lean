import GameShelf.Collection
import Mathlib.Tactic.Tauto

/-!
# Games without duplicates

Being the same game is an equivalence of records.  `Game.fresh known games` leaves out of `games`
what is already there: it keeps the places whose game is the same as no known one and no earlier one
(`fresh_eq_filter`).  So it takes nothing from elsewhere, put behind the known games it leaves them
without duplicates, and there is nothing left to be added a second time.  Two lists can be added in
turns or at once (`fresh_append`).
-/

set_option autoImplicit false

namespace GameShelf

/-! ## Being the same game -/

theorem Binary64.same_iff {x y : Binary64} :
    x.same y = true ↔ x.isNaN = true ∧ y.isNaN = true ∨ x = y := by
  cases x
  cases y
  simp [same]

theorem Binary64.same_trans {x y z : Binary64} (hxy : x.same y = true) (hyz : y.same z = true) :
    x.same z = true := by
  rw [same_iff] at hxy hyz ⊢
  rcases hxy with ⟨hx, hy⟩ | rfl
  · rcases hyz with ⟨-, hz⟩ | rfl
    · exact Or.inl ⟨hx, hz⟩
    · exact Or.inl ⟨hx, hy⟩
  · exact hyz

namespace Game

variable {a b c game : Game} {known games : List Game}

/-- A game agrees with itself, also where an entry is a NaN. -/
@[simp] theorem same_self (game : Game) : game.same game = true := by
  simp [same, Binary64.same]

/-- Duplicates are one record up to their two binary64 numbers. -/
theorem same_iff :
    a.same b = true ↔ a = { b with difficulty := a.difficulty, rating := a.rating } ∧
      a.difficulty.same b.difficulty = true ∧ a.rating.same b.rating = true := by
  cases a
  cases b
  simp [same]
  tauto

theorem same_trans (hab : a.same b = true) (hbc : b.same c = true) : a.same c = true := by
  rcases same_iff.1 hab with ⟨ha, hdifficulty, hrating⟩
  rcases same_iff.1 hbc with ⟨hb, hdifficulty', hrating'⟩
  refine same_iff.2 ⟨?_, Binary64.same_trans hdifficulty hdifficulty',
    Binary64.same_trans hrating hrating'⟩
  rw [hb] at ha
  exact ha

theorem among_of_same (hab : a.same b = true) (h : b.among games = true) :
    a.among games = true := by
  rcases List.any_eq_true.1 h with ⟨c, hc, hbc⟩
  exact List.any_eq_true.2 ⟨c, hc, same_trans hab hbc⟩

theorem among_of_mem (h : game ∈ games) : game.among games = true :=
  List.any_eq_true.2 ⟨game, h, same_self game⟩

/-! ## What is fresh -/

theorem fresh_sublist : (fresh known games).Sublist games := by
  induction games generalizing known with
  | nil =>
      exact List.Sublist.slnil
  | cons head rest ih =>
      by_cases hk : head.among known = true
      · simpa [fresh, hk] using ih.cons head
      · simpa [fresh, hk] using ih.cons_cons head

theorem mem_of_mem_fresh (h : game ∈ fresh known games) : game ∈ games :=
  fresh_sublist.mem h

/-- Adding what is fresh keeps a list without duplicates. -/
theorem Distinct.append_fresh (h : Distinct known) (games : List Game) :
    Distinct (known ++ fresh known games) := by
  refine List.pairwise_append.2 ⟨h, distinct_fresh known games, ?_⟩
  intro old hold new hnew
  have hamong : new.among known = false := among_of_mem_fresh hnew
  rw [same_comm]
  simpa using List.any_eq_false.1 hamong old hold

/-- No two games are the same, so no two places hold equal records. -/
theorem Distinct.nodup (h : Distinct games) : games.Nodup := by
  refine List.Pairwise.imp ?_ h
  intro a b hab heq
  rw [heq, same_self] at hab
  cases hab

/-- Distinct games of a collection are at most as many as the collection has. -/
theorem Distinct.length_le {collection : Collection} (h : Distinct games)
    (hsubset : ∀ game ∈ games, game ∈ collection.games) : games.length ≤ collection.size :=
  h.nodup.length_le_of_subset hsubset

/-! ## The places that are kept -/

/-- The game at the place is the same as no known one and no earlier one of the list. -/
def isNew (known games : List Game) (placed : Game × Nat) : Bool :=
  !placed.1.among known && !placed.1.among (games.take placed.2)

/-- Behind a first game `head`, only the same games as `head` are less new than before. -/
theorem isNew_cons_succ (known rest : List Game) (head : Game) (placed : Game × Nat) :
    isNew known (head :: rest) (placed.1, placed.2 + 1) =
      isNew (head :: known) rest placed := by
  simp only [isNew, among, List.take_succ_cons, List.any_cons, Bool.not_or]
  ac_rfl

/-- A known game makes none less new. -/
theorem isNew_cons_of_among (hknown : game.among known = true) (placed : Game × Nat) :
    isNew (game :: known) games placed = isNew known games placed := by
  have hcons : placed.1.among (game :: known) = placed.1.among known := by
    rw [among, List.any_cons]
    cases hsame : placed.1.same game with
    | false => rfl
    | true => rw [Bool.true_or, among_of_same hsame hknown]
  simp only [isNew, hcons]

/-- What is fresh are the games at the new places, in their order. -/
theorem fresh_eq_filter (known games : List Game) :
    fresh known games = (games.zipIdx.filter (isNew known games)).map Prod.fst := by
  induction games generalizing known with
  | nil => rfl
  | cons head rest ih =>
      have hzip : (head :: rest).zipIdx =
          (head, 0) :: rest.zipIdx.map fun placed => (placed.1, placed.2 + 1) := by
        rw [List.zipIdx_cons, List.zipIdx_succ]
      -- The places behind `head` are looked at as if `head` were known.
      have hrest : ((rest.zipIdx.map fun placed => (placed.1, placed.2 + 1)).filter
          (isNew known (head :: rest))).map Prod.fst =
            (rest.zipIdx.filter (isNew (head :: known) rest)).map Prod.fst := by
        rw [List.filter_map, List.map_map]
        simp only [Function.comp_def, isNew_cons_succ]
      by_cases hk : head.among known = true
      · have hhead : isNew known (head :: rest) (head, 0) = false := by
          simp [isNew, hk]
        have hknown : isNew (head :: known) rest = isNew known rest := by
          funext placed
          exact isNew_cons_of_among hk placed
        rw [fresh, if_pos hk, ih, hzip, List.filter_cons_of_neg (by simp [hhead]), hrest, hknown]
      · have hhead : isNew known (head :: rest) (head, 0) = true := by
          simpa [isNew, among] using hk
        rw [fresh, if_neg hk, ih, hzip, List.filter_cons_of_pos hhead, List.map_cons, hrest]

/-- From games without duplicates none of which is known nothing is left out. -/
theorem fresh_eq_self (h : Distinct games) (hknown : ∀ game ∈ games, game.among known = false) :
    fresh known games = games := by
  induction games generalizing known with
  | nil => rfl
  | cons head rest ih =>
      rcases List.pairwise_cons.1 h with ⟨hhead, hrest⟩
      rcases List.forall_mem_cons.1 hknown with ⟨hfirst, hothers⟩
      have hagain : ∀ game ∈ rest, game.among (head :: known) = false := by
        intro game hgame
        have hdiffer : game.same head = false := by
          rw [same_comm]
          exact hhead game hgame
        have hother : known.any game.same = false := hothers game hgame
        rw [among, List.any_cons, hdiffer, hother]
        rfl
      rw [fresh, hfirst, ih hrest hagain]
      rfl

theorem Distinct.fresh_nil (h : Distinct games) : fresh [] games = games :=
  fresh_eq_self h fun _ _ => rfl

theorem fresh_eq_nil (h : ∀ game ∈ games, game.among known = true) : fresh known games = [] := by
  induction games with
  | nil => rfl
  | cons head rest ih =>
      rcases List.forall_mem_cons.1 h with ⟨hhead, hrest⟩
      rw [fresh, if_pos hhead, ih hrest]

/-- Each of the games is there in the end. -/
theorem among_append_fresh (h : game ∈ games) :
    game.among (known ++ fresh known games) = true := by
  induction games generalizing known with
  | nil => cases h
  | cons head rest ih =>
      by_cases hk : head.among known = true
      · rw [fresh, if_pos hk]
        rcases List.mem_cons.1 h with rfl | hrest
        · rw [among, List.any_append, Bool.or_eq_true]
          exact Or.inl hk
        · exact ih hrest
      · rw [fresh, if_neg hk]
        rcases List.mem_cons.1 h with rfl | hrest
        · exact among_of_mem (by simp)
        · -- The first game counts as known for the others.
          have hlater : game.among (head :: known ++ fresh (head :: known) rest) = true := ih hrest
          simp only [among, List.any_append, List.any_cons, Bool.or_eq_true] at hlater ⊢
          tauto

/-- In the end there are the games known before and those added, and no others. -/
theorem among_append_fresh_eq (game : Game) (known games : List Game) :
    game.among (known ++ fresh known games) = game.among (known ++ games) := by
  have hfresh : game.among (fresh known games) = true → game.among games = true := by
    intro h
    rcases List.any_eq_true.1 h with ⟨other, hother, hsame⟩
    exact among_of_same hsame (among_of_mem (mem_of_mem_fresh hother))
  have hadded : game.among games = true → game.among (known ++ fresh known games) = true := by
    intro h
    rcases List.any_eq_true.1 h with ⟨other, hother, hsame⟩
    exact among_of_same hsame (among_append_fresh hother)
  rw [Bool.eq_iff_iff]
  simp only [among, List.any_append, Bool.or_eq_true] at hfresh hadded ⊢
  tauto

/-! ## Adding in turns -/

/-- What is fresh depends on which games are known, not on how often or in which order. -/
theorem fresh_congr {other : List Game} (h : ∀ game : Game, game.among known = game.among other)
    (games : List Game) : fresh known games = fresh other games := by
  induction games generalizing known other with
  | nil => rfl
  | cons head rest ih =>
      have hcons : ∀ game : Game, game.among (head :: known) = game.among (head :: other) := by
        intro game
        exact congrArg (game.same head || ·) (h game)
      rw [fresh, fresh, h head, ih h, ih hcons]

/-- Of two lists, the second is added when what is fresh of the first is known. -/
theorem fresh_append (known xs ys : List Game) :
    fresh known (xs ++ ys) = fresh known xs ++ fresh (known ++ fresh known xs) ys := by
  induction xs generalizing known with
  | nil => rw [List.nil_append, fresh, List.nil_append, List.append_nil]
  | cons head rest ih =>
      by_cases hk : head.among known = true
      · rw [List.cons_append, fresh, fresh, if_pos hk, if_pos hk, ih]
      · -- The first game is known from now on, whether it is put in front or behind.
        have hplace : ∀ game : Game, game.among (head :: known ++ fresh (head :: known) rest) =
            game.among (known ++ head :: fresh (head :: known) rest) := by
          intro game
          exact List.perm_middle.symm.any_eq
        rw [List.cons_append, fresh, fresh, if_neg hk, if_neg hk, ih, fresh_congr hplace,
          List.cons_append]

end Game
end GameShelf
