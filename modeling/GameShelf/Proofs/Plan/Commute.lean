import GameShelf.Proofs.Game.Rearranged
import GameShelf.Proofs.Plan.Adding

/-!
# Additions in another order

What an addition asks for is read off its text and its view, whatever the plan, so whether it fails
and how does not depend on the plan either.  A run of additions therefore appends everything that
its steps ask for, and what it leads to depends on their order only in the places of the games, in
the records that are kept of duplicates, and in which of the additions counts a game that several
ask for.
-/

set_option autoImplicit false

namespace GameShelf.Plan

variable {plan : Plan} {s : Step} {steps others : List Step} {text : Text} {view : List Game}

/-! ## What additions ask for -/

/-- The games that a step asks to be added, none if it fails. -/
def Step.asked : Step → List Game
  | .add text view => (chosen text view).toOption.getD []
  | .remove _ | .clear => []

theorem Step.eq_add_of_isAdd (h : s.isAdd = true) : ∃ text view, s = .add text view := by
  cases s with
  | add text view => exact ⟨text, view, rfl⟩
  | remove text => cases h
  | clear => cases h

/-- An addition fails on every plan with the same error, or on none. -/
theorem outcome_add_cases (text : Text) (view : List Game) :
    (∃ e, ∀ plan : Plan, plan.outcome (.add text view) = (plan, .error e)) ∨
      ∀ plan : Plan, ∃ after count, plan.outcome (.add text view) = (after, .ok count) := by
  cases hchosen : chosen text view with
  | error e => exact Or.inl ⟨e, fun plan => outcome_add_of_error plan hchosen⟩
  | ok games =>
      right
      intro plan
      exact ⟨_, _, outcome_of_ok (s := .add text view) (add_of_chosen plan hchosen)⟩

/-- An addition appends what it asks for, also if this is nothing because it fails. -/
theorem step_of_isAdd (plan : Plan) (h : s.isAdd = true) :
    plan.step s = (plan.append s.asked).plan := by
  obtain ⟨text, view, rfl⟩ := Step.eq_add_of_isAdd h
  cases hchosen : chosen text view with
  | error e =>
      -- The plan stays as it is, which is the plan with nothing appended.
      rw [step_of_error (s := .add text view) (add_of_chosen_error plan hchosen), Step.asked,
        hchosen]
      simp [Except.toOption, append, Game.fresh]
  | ok games =>
      rw [step_of_ok (s := .add text view) (add_of_chosen plan hchosen), Step.asked, hchosen]
      rfl

/-- A run of additions appends what they ask for, in their order. -/
theorem run_additions (plan : Plan) (h : ∀ s ∈ steps, s.isAdd = true) :
    plan.run steps = (plan.append (steps.flatMap Step.asked)).plan := by
  induction steps generalizing plan with
  | nil => simp [run, append, Game.fresh]
  | cons s rest ih =>
      rcases List.forall_mem_cons.1 h with ⟨hs, hrest⟩
      rw [run_cons, step_of_isAdd plan hs, ih _ hrest, List.flatMap_cons, append_append]

/-- A run of additions makes the plan larger by what they report. -/
theorem size_run_additions (plan : Plan) (h : ∀ s ∈ steps, s.isAdd = true) :
    (plan.run steps).size = plan.size + tally Step.isAdd plan steps := by
  have hremoved : tally Step.isRemove plan steps = 0 := by
    refine tally_eq_zero plan ?_
    intro s hs
    obtain ⟨text, view, rfl⟩ := Step.eq_add_of_isAdd (h s hs)
    rfl
  have hcleared : tally Step.isClear plan steps = 0 := by
    refine tally_eq_zero plan ?_
    intro s hs
    obtain ⟨text, view, rfl⟩ := Step.eq_add_of_isAdd (h s hs)
    rfl
  simpa [hremoved, hcleared] using size_run plan steps

/-- Additions in another order lead to the same games in another order. -/
theorem rearranged_run_additions (hplan : Game.Distinct plan.games) (hperm : steps.Perm others)
    (h : ∀ s ∈ steps, s.isAdd = true) :
    Game.Rearranged (plan.run steps).games (plan.run others).games := by
  have hothers : ∀ s ∈ others, s.isAdd = true := fun s hs => h s (hperm.mem_iff.2 hs)
  rw [run_additions plan h, run_additions plan hothers]
  -- Neither plan has duplicates, so it is enough that every game is among both or among neither.
  refine Game.rearranged_of_among (hplan.append_fresh _) (hplan.append_fresh _) ?_
  intro game
  have hasked : (plan.games ++ steps.flatMap Step.asked).Perm
      (plan.games ++ others.flatMap Step.asked) :=
    (hperm.flatMap_right Step.asked).append_left plan.games
  change game.among (plan.games ++ Game.fresh plan.games _) =
    game.among (plan.games ++ Game.fresh plan.games _)
  rw [Game.among_append_fresh_eq, Game.among_append_fresh_eq]
  exact hasked.any_eq

/-- An addition fails on every plan with the same error or on none.  Two of them, made in either
order on a plan that steps have led to, lead to plans of one size in which each game of the one plan
is the same as exactly one of the other, and the counts that they report, none where one fails, add
up to the same number. -/
theorem additions_commute (steps : List Step) (text text' : Text) (view view' : List Game) :
    let plan := empty.run steps
    let first : Step := .add text view
    let second : Step := .add text' view'
    ((∃ e, ∀ other : Plan, other.outcome first = (other, .error e)) ∨
      ∀ other : Plan, ∃ after count, other.outcome first = (after, .ok count)) ∧
    (plan.run [first, second]).size = (plan.run [second, first]).size ∧
    (∀ game ∈ (plan.run [first, second]).games, ∃ other,
      (plan.run [second, first]).games.filter game.same = [other]) ∧
    (∀ game ∈ (plan.run [second, first]).games, ∃ other,
      (plan.run [first, second]).games.filter game.same = [other]) ∧
    plan.reported first + (plan.step first).reported second =
      plan.reported second + (plan.step second).reported first := by
  intro plan first second
  have hplan : Game.Distinct plan.games := distinct_run steps
  have hforward : ∀ s ∈ [first, second], s.isAdd = true := by
    simp [first, second, Step.isAdd]
  have hbackward : ∀ s ∈ [second, first], s.isAdd = true := by
    simp [first, second, Step.isAdd]
  have hgames : Game.Rearranged (plan.run [first, second]).games
      (plan.run [second, first]).games :=
    rearranged_run_additions hplan (.swap second first []) hforward
  have hsize : (plan.run [first, second]).size = (plan.run [second, first]).size :=
    hgames.length_eq
  refine ⟨outcome_add_cases text view, hsize, ?_, ?_, ?_⟩
  · intro game hgame
    exact hgames.filter_same (distinct_step (distinct_step hplan second) first) hgame
  · intro game hgame
    exact hgames.symm.filter_same (distinct_step (distinct_step hplan first) second) hgame
  · -- What was reported is by how much the plan has grown.
    rw [size_run_additions plan hforward, size_run_additions plan hbackward,
      Nat.add_left_cancel_iff] at hsize
    simpa [tally, first, second, Step.isAdd] using hsize

/-- One game of both views is a duplicate, with another NaN, so its record and the additions that
count it depend on the order. -/
theorem additions_commute_duplicates :
    let go : Game := ⟨"Go".toList, 1, 2, 2, 30, 180, ⟨0⟩, 23, ⟨0⟩, -2200⟩
    let hex : Game := ⟨"Hex".toList, 2, 2, 2, 20, 60, .quietNaN false, 90, ⟨0⟩, 1942⟩
    let twin : Game := { hex with difficulty := .quietNaN true }
    let chess : Game := ⟨"Chess".toList, 3, 2, 2, 10, 60, ⟨0⟩, 7, ⟨0⟩, 1475⟩
    let plan := empty.run [.add "go".toList [go, hex]]
    let first : Step := .add "ALL".toList [go, hex]
    let second : Step := .add "1-2".toList [twin, chess]
    (plan.run [first, second]).games = [go, hex, chess] ∧
      (plan.run [second, first]).games = [go, twin, chess] ∧
      hex ∈ (plan.run [first, second]).games ∧
      (∃ other, (plan.run [second, first]).games.filter hex.same = [other]) ∧
      plan.reported first = 1 ∧ plan.reported second = 2 ∧
      1 + (plan.step first).reported second = 2 + (plan.step second).reported first := by
  intro go hex twin chess plan first second
  have hforward : (plan.run [first, second]).games = [go, hex, chess] := by decide +kernel
  have hbackward : (plan.run [second, first]).games = [go, twin, chess] := by decide +kernel
  have hhex : hex ∈ (plan.run [first, second]).games := by
    rw [hforward]
    simp
  have hfirst : plan.reported first = 1 := by decide +kernel
  have hsecond : plan.reported second = 2 := by decide +kernel
  rcases additions_commute [.add "go".toList [go, hex]] "ALL".toList "1-2".toList [go, hex]
    [twin, chess] with ⟨-, -, hone, -, hcounts⟩
  have hsum : plan.reported first + _ = plan.reported second + _ := hcounts
  rw [hfirst, hsecond] at hsum
  exact ⟨hforward, hbackward, hhex, hone hex hhex, hfirst, hsecond, hsum⟩

end GameShelf.Plan
