import GameShelf.Proofs.Plan.OneByOne

/-!
# Taking an addition back

An addition puts its games behind those of the plan, and the count it reports is their number.  So
they stand at the positions after the old size of the plan, and removing these positions brings the
plan back as it was, unless some game is named like the range.
-/

set_option autoImplicit false

namespace GameShelf.Plan

variable {plan after : Plan} {text : Text} {view added : List Game} {count : Nat}

/-- An addition that does not fail puts as many games behind the plan as it reports. -/
theorem exists_added_of_outcome (h : plan.outcome (.add text view) = (after, .ok count)) :
    ∃ added, after = ⟨plan.games ++ added⟩ ∧ count = added.length := by
  cases hchosen : chosen text view with
  | error e =>
      rw [outcome_add_of_error plan hchosen] at h
      cases h
  | ok games =>
      rw [outcome_of_ok (s := .add text view) (add_of_chosen plan hchosen)] at h
      cases h
      exact ⟨Game.fresh plan.games games, rfl, rfl⟩

/-- Without the positions behind the first `plan.size` ones, the first games are left. -/
theorem erase_added (hadded : added.length = count + 1) :
    erase ⟨plan.games ++ added⟩ ⟨plan.size, plan.size + count⟩ = ⟨plan, count + 1⟩ := by
  let longer : Plan := ⟨plan.games ++ added⟩
  have hsize : longer.size = plan.size + (count + 1) := by
    rw [← hadded]
    exact List.length_append
  have htake : longer.games.take plan.size = plan.games := List.take_left' rfl
  have hdrop : longer.games.drop (plan.size + (count + 1)) = [] := by
    rw [← hsize]
    exact List.drop_length
  have hinside : plan.size + count < longer.size := by omega
  calc
    longer.erase ⟨plan.size, plan.size + count⟩
        = ⟨⟨longer.games.take plan.size ++ longer.games.drop (plan.size + (count + 1))⟩,
            count + 1⟩ := erase_stretch plan.size count hinside
    _ = ⟨plan, count + 1⟩ := by rw [htake, hdrop, List.append_nil]

/-- What an addition has added, one game or more, is removed by its positions, written as a range
from the one behind the old plan to the last, and the plan is what it was before, unless a game is
named like that range. -/
theorem outcome_remove_added (h : plan.outcome (.add text view) = (after, .ok count))
    (hcount : 1 ≤ count) (hheld : plan.size + count < Selector.maxPosition)
    (hname : Unnamed (Selector.writeRange (plan.size + 1) (plan.size + count)) after.games) :
    after.outcome (.remove (Selector.writeRange (plan.size + 1) (plan.size + count))) =
      (plan, .ok count) := by
  rcases exists_added_of_outcome h with ⟨added, rfl, rfl⟩
  obtain ⟨last, hlast⟩ : ∃ last, added.length = last + 1 := ⟨added.length - 1, by omega⟩
  let longer : Plan := ⟨plan.games ++ added⟩
  have hsize : longer.size = plan.size + added.length := List.length_append
  have hremove : longer.remove (Selector.writeRange (plan.size + 1) (plan.size + added.length)) =
      .ok (longer.erase ⟨plan.size, min (plan.size + added.length) longer.size - 1⟩) :=
    remove_writeRange (Nat.le_add_left 1 _) (by omega) (by omega) (by omega) hname
  -- The range ends where the plan does.
  have hend : min (plan.size + added.length) longer.size - 1 = plan.size + last := by omega
  rw [hend, erase_added hlast, ← hlast] at hremove
  have hchange : Step.change longer
      (.remove (Selector.writeRange (plan.size + 1) (plan.size + added.length))) =
        .ok ⟨plan, added.length⟩ := hremove
  exact outcome_of_ok hchange

/-- A whole view is added of which one game is in the plan already and another comes twice, once
with either NaN; then two positions take it back. -/
theorem outcome_remove_added_duplicates :
    let go : Game := ⟨"Go".toList, 1, 2, 2, 30, 180, ⟨0⟩, 23, ⟨0⟩, -2200⟩
    let hex : Game := ⟨"Hex".toList, 2, 2, 2, 20, 60, .quietNaN false, 90, ⟨0⟩, 1942⟩
    let twin : Game := { hex with difficulty := .quietNaN true }
    let chess : Game := ⟨"Chess".toList, 3, 2, 2, 10, 60, ⟨0⟩, 7, ⟨0⟩, 1475⟩
    let plan : Plan := ⟨[chess]⟩
    let after : Plan := ⟨[chess, go, hex]⟩
    plan.outcome (.add " ALL ".toList [go, hex, twin, chess]) = (after, .ok 2) ∧
      after.outcome (.remove "2-3".toList) = (plan, .ok 2) := by
  intro go hex twin chess plan after
  have hadd : plan.outcome (.add " ALL ".toList [go, hex, twin, chess]) = (after, .ok 2) := by
    decide +kernel
  have hwritten : Selector.writeRange (plan.size + 1) (plan.size + 2) = "2-3".toList := by
    decide +kernel
  have hremove := outcome_remove_added hadd (by decide) (by decide) (by decide +kernel)
  rw [hwritten] at hremove
  exact ⟨hadd, hremove⟩

end GameShelf.Plan
