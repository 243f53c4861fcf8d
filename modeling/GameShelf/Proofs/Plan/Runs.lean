import GameShelf.Plan.Step
import GameShelf.Proofs.Game.Distinct
import GameShelf.Proofs.Outcome
import GameShelf.Proofs.Selector.Span
import Mathlib.Data.List.Induction

/-!
# What holds in every state of a plan

A plan starts empty and lives through steps, in any order and some of them failing.  This file
first says once what a successful step can do (`Step.change_cases`), and derives from it what each
step keeps and then what every run keeps:

* the plan has no duplicates;
* each of its games was in the view of an earlier step that added successfully;
* its size is the sum of the counts that its steps returned, with their signs.

`Plan.invariants` puts the three together, with the bound by the size of a collection.
-/

set_option autoImplicit false

namespace GameShelf

namespace Plan

variable {plan : Plan} {change : Change} {s : Step} {game : Game}

/-! ## What a step can do -/

/-- Only games of the view are chosen. -/
theorem mem_of_mem_chosen {text : Text} {view games : List Game}
    (h : chosen text view = .ok games) (hgame : game ∈ games) : game ∈ view := by
  unfold chosen at h
  -- A name comes first, then what the selector says.
  cases hfind : view.find? (isNamed text.trim) with
  | some named =>
      simp only [hfind] at h
      cases h
      rw [List.mem_singleton.1 hgame]
      exact List.mem_of_find?_eq_some hfind
  | none =>
      simp only [hfind] at h
      cases hparse : Selector.parse text.trim with
      | all =>
          simp only [hparse] at h
          cases h
          exact hgame
      | text t =>
          simp [hparse] at h
      | index position =>
          simp only [hparse, map_eq_ok_iff] at h
          rcases h with ⟨span, -, rfl⟩
          exact (Selector.Span.elim_slice_sublist span view).mem hgame
      | range start stop =>
          simp only [hparse, map_eq_ok_iff] at h
          rcases h with ⟨span, -, rfl⟩
          exact (Selector.Span.elim_slice_sublist span view).mem hgame

/-- Removing leaves the other games in their order and counts those it takes. -/
theorem sublist_and_count_of_remove {text : Text} (h : plan.remove text = .ok change) :
    change.plan.games.Sublist plan.games ∧ change.count + change.plan.size = plan.size := by
  unfold remove at h
  -- Here `all` comes first, then a name, then what is left of the selectors.
  by_cases hall : Selector.parse text.trim = .all
  · simp only [hall, ↓reduceIte] at h
    cases h
    exact ⟨List.nil_sublist _, by simp [size, empty]⟩
  · simp only [hall, ↓reduceIte] at h
    cases hfind : plan.games.findIdx? (isNamed text.trim) with
    | some i =>
        simp only [hfind] at h
        cases h
        have hi : i < plan.games.length := (List.findIdx?_eq_some_iff_getElem.1 hfind).1
        refine ⟨List.eraseIdx_sublist _ _, ?_⟩
        simp only [size, List.length_eraseIdx_of_lt hi]
        omega
    | none =>
        simp only [hfind] at h
        cases hresolve : (Selector.parse text.trim).resolve plan.size with
        | error e =>
            simp [hresolve] at h
        | ok span =>
            cases span with
            | none =>
                simp [hresolve] at h
            | some span =>
                simp only [hresolve, Selector.isEmpty_of_resolve hresolve, Bool.false_eq_true,
                  ↓reduceIte] at h
                cases h
                have hbounds := (Selector.resolve_bounds hresolve).1
                exact ⟨Selector.Span.erase_sublist hbounds plan.games,
                  Selector.Span.length_slice_add_length_erase hbounds plan.games⟩

/-- Everything that a successful step can do. -/
theorem Step.change_cases (h : s.change plan = .ok change) :
    (∃ text view games, s = .add text view ∧ (∀ game ∈ games, game ∈ view) ∧
      change = plan.append games) ∨
    (∃ text, s = .remove text ∧ change.plan.games.Sublist plan.games ∧
      change.count + change.plan.size = plan.size) ∨
    (s = .clear ∧ change = ⟨empty, plan.size⟩) := by
  cases s with
  | add text view =>
      rcases map_eq_ok_iff.1 h with ⟨games, hchosen, hchange⟩
      exact Or.inl ⟨text, view, games, rfl, fun _ hgame => mem_of_mem_chosen hchosen hgame,
        hchange.symm⟩
  | remove text =>
      exact Or.inr (Or.inl ⟨text, rfl, sublist_and_count_of_remove h⟩)
  | clear =>
      cases h
      exact Or.inr (Or.inr ⟨rfl, rfl⟩)

theorem step_of_ok (h : s.change plan = .ok change) : plan.step s = change.plan := by
  simp [step, h]

theorem step_of_error {e : Error} (h : s.change plan = .error e) : plan.step s = plan := by
  simp [step, h]

theorem outcome_of_ok (h : s.change plan = .ok change) :
    plan.outcome s = (change.plan, .ok change.count) := by
  rw [outcome, step_of_ok h, h]
  rfl

theorem outcome_of_error {e : Error} (h : s.change plan = .error e) :
    plan.outcome s = (plan, .error e) := by
  rw [outcome, step_of_error h, h]
  rfl

theorem run_cons (s : Step) (rest : List Step) : plan.run (s :: rest) = (plan.step s).run rest :=
  rfl

theorem run_append (steps : List Step) (s : Step) :
    plan.run (steps ++ [s]) = (plan.run steps).step s := by
  simp [run]

/-! ## No duplicates -/

theorem distinct_step (h : Game.Distinct plan.games) (s : Step) :
    Game.Distinct (plan.step s).games := by
  cases hchange : s.change plan with
  | error e =>
      rw [step_of_error hchange]
      exact h
  | ok change =>
      rw [step_of_ok hchange]
      rcases Step.change_cases hchange with
        ⟨text, view, games, -, -, rfl⟩ | ⟨text, -, hsublist, -⟩ | ⟨-, rfl⟩
      · exact h.append_fresh games
      · exact List.Pairwise.sublist hsublist h
      · exact List.Pairwise.nil

theorem distinct_run (steps : List Step) : Game.Distinct (empty.run steps).games := by
  -- The last step is taken from the state that the steps before it lead to.
  induction steps using List.reverseRecOn with
  | nil => exact List.Pairwise.nil
  | append_singleton steps s ih =>
      rw [run_append]
      exact distinct_step ih s

/-! ## Where the games come from -/

/-- The game was in the view of one of the steps, which added successfully when its turn came. -/
def Offered (steps : List Step) (game : Game) : Prop :=
  ∃ before text view after change, steps = before ++ .add text view :: after ∧
    (empty.run before).add text view = .ok change ∧ game ∈ view

theorem Offered.append {steps : List Step} (h : Offered steps game) (later : List Step) :
    Offered (steps ++ later) game := by
  rcases h with ⟨before, text, view, after, change, rfl, hadd, hgame⟩
  exact ⟨before, text, view, after ++ later, change, by simp, hadd, hgame⟩

theorem mem_of_mem_step (h : game ∈ (plan.step s).games) :
    game ∈ plan.games ∨
      ∃ text view change, s = .add text view ∧ plan.add text view = .ok change ∧ game ∈ view := by
  cases hchange : s.change plan with
  | error e =>
      rw [step_of_error hchange] at h
      exact Or.inl h
  | ok change =>
      rw [step_of_ok hchange] at h
      rcases Step.change_cases hchange with
        ⟨text, view, games, rfl, hview, rfl⟩ | ⟨text, -, hsublist, -⟩ | ⟨-, rfl⟩
      · rcases List.mem_append.1 h with hold | hnew
        · exact Or.inl hold
        · have hmem : game ∈ view := hview game (Game.mem_of_mem_fresh hnew)
          exact Or.inr ⟨text, view, _, rfl, hchange, hmem⟩
      · exact Or.inl (hsublist.mem h)
      · cases h

theorem offered_run (steps : List Step) : ∀ game ∈ (empty.run steps).games, Offered steps game := by
  induction steps using List.reverseRecOn with
  | nil =>
      intro game hgame
      cases hgame
  | append_singleton steps s ih =>
      intro game hgame
      rw [run_append] at hgame
      -- Either it was there already, or the last step brought it.
      rcases mem_of_mem_step hgame with hold | ⟨text, view, change, rfl, hadd, hview⟩
      · exact (ih game hold).append [s]
      · exact ⟨steps, text, view, [], change, rfl, hadd, hview⟩

/-! ## Counting -/

/-- Whether the step is an addition, with whatever text and view. -/
def Step.isAdd : Step → Bool
  | .add _ _ => true
  | _ => false

/-- Whether the step is a removal, with whatever text. -/
def Step.isRemove : Step → Bool
  | .remove _ => true
  | _ => false

/-- Whether the step takes all games out of the plan at once. -/
def Step.isClear : Step → Bool
  | .clear => true
  | _ => false

/-- The number of games that a step reports, none if it fails. -/
def reported (plan : Plan) (s : Step) : Nat :=
  (plan.outcome s).2.toOption.getD 0

/-- What the steps of one sort report in a run that begins with this plan, summed. -/
def tally (sort : Step → Bool) (plan : Plan) : List Step → Nat
  | [] => 0
  | s :: rest => (if sort s then plan.reported s else 0) + tally sort (plan.step s) rest

theorem reported_of_ok (h : s.change plan = .ok change) : plan.reported s = change.count := by
  rw [reported, outcome_of_ok h]
  rfl

theorem reported_of_error {e : Error} (h : s.change plan = .error e) : plan.reported s = 0 := by
  rw [reported, outcome_of_error h]
  rfl

/-- A step adds what an addition reports and takes what a removal or a clearing reports. -/
theorem size_step (plan : Plan) (s : Step) :
    (plan.step s).size + (if s.isRemove then plan.reported s else 0) +
        (if s.isClear then plan.reported s else 0) =
      plan.size + (if s.isAdd then plan.reported s else 0) := by
  cases hchange : s.change plan with
  | error e =>
      simp [step_of_error hchange, reported_of_error hchange]
  | ok change =>
      rw [step_of_ok hchange, reported_of_ok hchange]
      rcases Step.change_cases hchange with
        ⟨text, view, games, rfl, -, rfl⟩ | ⟨text, rfl, -, hcount⟩ | ⟨rfl, rfl⟩
      · simp [Step.isAdd, Step.isRemove, Step.isClear, append, size]
      · simp [Step.isAdd, Step.isRemove, Step.isClear]
        omega
      · simp [Step.isAdd, Step.isRemove, Step.isClear, size, empty]

theorem size_run (plan : Plan) (steps : List Step) :
    (plan.run steps).size + tally Step.isRemove plan steps + tally Step.isClear plan steps =
      plan.size + tally Step.isAdd plan steps := by
  induction steps generalizing plan with
  | nil => rfl
  | cons s rest ih =>
      -- The balance of the first step, and that of the others from where it leads.
      have hstep := size_step plan s
      have hrest := ih (plan.step s)
      simp only [tally, run_cons]
      omega

/-- Where no step is of the sort, nothing of it is reported. -/
theorem tally_eq_zero {sort : Step → Bool} {steps : List Step} (plan : Plan)
    (h : ∀ s ∈ steps, sort s = false) : tally sort plan steps = 0 := by
  induction steps generalizing plan with
  | nil => rfl
  | cons s rest ih =>
      rcases List.forall_mem_cons.1 h with ⟨hs, hrest⟩
      rw [tally, hs, ih (plan.step s) hrest]
      rfl

/-- Every state of a plan is the end of a sequence of steps from the empty plan, and after each
such sequence the plan has no duplicates, its games were offered to it, its size is the balance of
what the steps reported, and it is no larger than a collection that all views are taken from. -/
theorem invariants (steps : List Step) :
    Game.Distinct (empty.run steps).games ∧
    (∀ game ∈ (empty.run steps).games, Offered steps game) ∧
    ((empty.run steps).size : Int) =
      tally Step.isAdd empty steps - tally Step.isRemove empty steps -
        tally Step.isClear empty steps ∧
    (∀ collection : Collection,
      (∀ text view, Step.add text view ∈ steps → ∀ game ∈ view, game ∈ collection.games) →
        (empty.run steps).size ≤ collection.size) := by
  refine ⟨distinct_run steps, offered_run steps, ?_, ?_⟩
  · have hsize := size_run empty steps
    have hempty : empty.size = 0 := rfl
    omega
  · intro collection hviews
    -- No two games of the plan are the same and all of them are in the collection.
    refine (distinct_run steps).length_le ?_
    intro game hgame
    rcases offered_run steps game hgame with ⟨before, text, view, after, -, rfl, -, hview⟩
    exact hviews text view (by simp) game hview

/-- Views with equal records, a name that is unknown, a clamped range, and a clearing in between. -/
theorem invariants_mixed_steps :
    let go : Game := ⟨"Go".toList, 1, 2, 2, 30, 180, ⟨0⟩, 23, ⟨0⟩, -2200⟩
    let fish : Game := ⟨"Go Fish".toList, 2, 2, 10, 20, 120, ⟨0⟩, 200, ⟨0⟩, 2001⟩
    let steps : List Step := [.add "all".toList [go, fish, go], .add "chess".toList [go],
      .remove "2".toList, .clear, .add "1-9".toList [fish, go, fish]]
    (empty.run steps).games = [fish, go] ∧
      (∀ text view, Step.add text view ∈ steps →
        ∀ game ∈ view, game ∈ (Collection.ofList [go, fish]).games) ∧
      (empty.run steps).size ≤ (Collection.ofList [go, fish]).size ∧
      Offered steps fish ∧ tally Step.isAdd empty steps = 4 := by
  intro go fish steps
  have hgames : (empty.run steps).games = [fish, go] := by decide +kernel
  have hviews : ∀ text view, Step.add text view ∈ steps →
      ∀ game ∈ view, game ∈ (Collection.ofList [go, fish]).games := by
    have hcollection : (Collection.ofList [go, fish]).games = [go, fish] := by decide +kernel
    rw [hcollection]
    intro text view hstep
    -- Three of the steps add, each with its own view.
    simp only [steps, List.mem_cons, List.not_mem_nil, or_false, Step.add.injEq, reduceCtorEq,
      false_or] at hstep
    rcases hstep with ⟨-, rfl⟩ | ⟨-, rfl⟩ | ⟨-, rfl⟩
    · simp
    · simp
    · simp
  rcases invariants steps with ⟨-, hoffered, -, hsize⟩
  refine ⟨hgames, hviews, hsize _ hviews, hoffered fish ?_, by decide +kernel⟩
  rw [hgames]
  exact List.mem_cons_self

end Plan
end GameShelf
