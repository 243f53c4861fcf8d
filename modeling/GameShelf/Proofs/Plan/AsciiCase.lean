import GameShelf.Plan.Step
import GameShelf.Proofs.Filter.AsciiCase

/-!
# The case of ASCII letters in everything a user writes

Texts reach the program as filters, as sort keys and as selectors that add to a plan or remove from
it.  Two texts that differ only in the case of ASCII letters are the same filter and the same key,
and as selectors they change every plan alike.  Where they are refused, the errors quote different
texts but are of one class.

A selector is a name only after it has failed to be anything else, and names are compared with
their case folded.
-/

set_option autoImplicit false

namespace GameShelf

open Text (trim_lowerAscii)

variable {t u : Text}

/-! ## Selectors -/

namespace Selector

/-- The selector with the ASCII letters of a name in lower case. -/
def lowerAscii : Selector → Selector
  | .text t => .text t.lowerAscii
  | selector => selector

theorem isDigitRun_lowerAscii (t : Text) : isDigitRun t.lowerAscii = isDigitRun t := by
  rw [isDigitRun, Text.isEmpty_lowerAscii, isDigitRun]
  simp [Text.lowerAscii, Function.comp_def]

theorem readPosition_lowerAscii (t : Text) : readPosition t.lowerAscii = readPosition t := by
  rw [readPosition, Numeral.readMagnitude_lowerAscii, readPosition]

theorem splitRange?_lowerAscii (t : Text) :
    splitRange? t.lowerAscii =
      (splitRange? t).map fun runs => (runs.1.lowerAscii, runs.2.lowerAscii) := by
  unfold splitRange?
  rw [Text.splitOn_lowerAscii (by decide)]
  -- Only a text with exactly one hyphen can be a range.
  rcases t.splitOn '-' with _ | ⟨start, _ | ⟨stop, _ | ⟨_, _⟩⟩⟩
  · rfl
  · rfl
  · simp only [List.map_cons, List.map_nil, isDigitRun_lowerAscii]
    split
    · rfl
    · rfl
  · rfl

theorem parse_lowerAscii (t : Text) : parse t.lowerAscii = (parse t).lowerAscii := by
  have hall : t.trim.lowerAscii.sameIgnoringAsciiCase "all".toList =
      t.trim.sameIgnoringAsciiCase "all".toList := by
    simp [Text.sameIgnoringAsciiCase, Text.lowerAscii, Function.comp_def]
  unfold parse
  simp only [trim_lowerAscii, hall, isDigitRun_lowerAscii, readPosition_lowerAscii,
    splitRange?_lowerAscii]
  split
  · rfl
  · split
    · rfl
    · cases splitRange? t.trim with
      | none => rfl
      | some runs => simp only [Option.map_some, readPosition_lowerAscii, lowerAscii]

theorem resolve_lowerAscii (selector : Selector) (length : Nat) :
    selector.lowerAscii.resolve length = selector.resolve length := by
  cases selector <;> rfl

end Selector

/-! ## Plans -/

namespace Plan

theorem isNamed_lowerAscii (t : Text) : isNamed t.lowerAscii = isNamed t := by
  funext game
  simp only [isNamed, Text.sameIgnoringCase, Text.compareIgnoringCase, Text.foldCase_lowerAscii]

theorem classified_chosen_lowerAscii (t : Text) (view : List Game) :
    classified (chosen t.lowerAscii view) = classified (chosen t view) := by
  unfold chosen
  simp only [trim_lowerAscii, isNamed_lowerAscii, Selector.parse_lowerAscii]
  cases view.find? (isNamed t.trim) with
  | some game => rfl
  | none =>
      cases Selector.parse t.trim <;> rfl

theorem classified_add_lowerAscii (plan : Plan) (t : Text) (view : List Game) :
    classified (plan.add t.lowerAscii view) = classified (plan.add t view) := by
  rw [add, classified_map, classified_chosen_lowerAscii, add, classified_map]

theorem classified_remove_lowerAscii (plan : Plan) (t : Text) :
    classified (plan.remove t.lowerAscii) = classified (plan.remove t) := by
  have hall (selector : Selector) : selector.lowerAscii = .all ↔ selector = .all := by
    cases selector <;> simp [Selector.lowerAscii]
  unfold remove
  simp only [trim_lowerAscii, isNamed_lowerAscii, Selector.parse_lowerAscii, hall,
    Selector.resolve_lowerAscii]
  split
  · rfl
  · cases plan.games.findIdx? (isNamed t.trim) with
    | some i => rfl
    | none =>
        rcases (Selector.parse t.trim).resolve plan.size with _ | _ | span
        · rfl
        · rfl
        · cases span.isEmpty with
          | true => rfl
          | false => rfl

/-- What a step does is settled by its change, up to the class of an error. -/
theorem outcome_congr {plan : Plan} {s s' : Step}
    (h : classified (s.change plan) = classified (s'.change plan)) :
    plan.step s = plan.step s' ∧
      classified (plan.outcome s).2 = classified (plan.outcome s').2 := by
  have hcount : classified (plan.outcome s).2 = classified (plan.outcome s').2 := by
    simp only [outcome, classified_map, h]
  refine ⟨?_, hcount⟩
  cases hs : s.change plan with
  | ok change =>
      cases hs' : s'.change plan with
      | ok change' => simp_all [step]
      | error e => simp_all
  | error e =>
      cases hs' : s'.change plan with
      | ok change' => simp_all
      | error e' => simp [step, hs, hs']

/-- The step with the ASCII letters of its text in lower case. -/
def Step.lowerAscii : Step → Step
  | .add t view => .add t.lowerAscii view
  | .remove t => .remove t.lowerAscii
  | .clear => .clear

theorem step_lowerAscii (plan : Plan) (s : Step) :
    plan.step s.lowerAscii = plan.step s ∧
      classified (plan.outcome s.lowerAscii).2 = classified (plan.outcome s).2 := by
  cases s with
  | add t view => exact outcome_congr (classified_add_lowerAscii plan t view)
  | remove t => exact outcome_congr (classified_remove_lowerAscii plan t)
  | clear => exact ⟨rfl, rfl⟩

/-- A whole run ends in the same plan. -/
theorem run_map_lowerAscii (plan : Plan) (steps : List Step) :
    plan.run (steps.map Step.lowerAscii) = plan.run steps := by
  have hstep : (fun (plan : Plan) s => plan.step (Step.lowerAscii s)) = step := by
    funext plan s
    exact (step_lowerAscii plan s).1
  rw [run, List.foldl_map, hstep, run]

end Plan

/-- Texts that differ only in the case of ASCII letters are the same filter and the same sort key,
and they add to every plan and remove from it the same games; or they are refused with errors of
one class. -/
theorem classified_eq_of_sameIgnoringAsciiCase (h : t.sameIgnoringAsciiCase u = true) :
    classified (Filter.parse t) = classified (Filter.parse u) ∧
    classified (Field.parseSortKey t) = classified (Field.parseSortKey u) ∧
    ∀ plan : Plan,
      (∀ view, plan.step (.add t view) = plan.step (.add u view) ∧
        classified (plan.outcome (.add t view)).2 = classified (plan.outcome (.add u view)).2) ∧
      plan.step (.remove t) = plan.step (.remove u) ∧
        classified (plan.outcome (.remove t)).2 = classified (plan.outcome (.remove u)).2 := by
  have hsame : t.lowerAscii = u.lowerAscii := Text.sameIgnoringAsciiCase_iff.1 h
  have hfilter : classified (Filter.parse t) = classified (Filter.parse u) := by
    rw [← Filter.classified_parse_lowerAscii t, hsame, Filter.classified_parse_lowerAscii]
  have hkey : classified (Field.parseSortKey t) = classified (Field.parseSortKey u) := by
    rw [← Field.classified_parseSortKey_lowerAscii t, hsame,
      Field.classified_parseSortKey_lowerAscii]
  have hstep (plan : Plan) {s s' : Plan.Step} (hs : s.lowerAscii = s'.lowerAscii) :
      plan.step s = plan.step s' ∧
        classified (plan.outcome s).2 = classified (plan.outcome s').2 := by
    rcases plan.step_lowerAscii s with ⟨hplan, houtcome⟩
    rcases plan.step_lowerAscii s' with ⟨hplan', houtcome'⟩
    rw [← hplan, ← houtcome, hs]
    exact ⟨hplan', houtcome'⟩
  refine ⟨hfilter, hkey, ?_⟩
  intro plan
  refine ⟨?_, ?_⟩
  · intro view
    exact hstep plan (congrArg (Plan.Step.add · view) hsame)
  · exact hstep plan (congrArg Plan.Step.remove hsame)

/-- A final sigma behind a letter of either case, a word for infinity and an exponent. -/
theorem classified_eq_of_sameIgnoringAsciiCase_sigma :
    let t : Text := "Name ~= AΣ, Rating < INF, Difficulty > 1E0".toList
    let u : Text := "nAME ~= aΣ, rATING < inf, dIFFICULTY > 1e0".toList
    t.sameIgnoringAsciiCase u = true ∧ (Filter.parse t).isOk = true ∧
      classified (Filter.parse t) = classified (Filter.parse u) := by
  intro t u
  have hsame : t.sameIgnoringAsciiCase u = true := by decide +kernel
  refine ⟨hsame, by decide +kernel, ?_⟩
  exact (classified_eq_of_sameIgnoringAsciiCase hsame).1

end GameShelf
