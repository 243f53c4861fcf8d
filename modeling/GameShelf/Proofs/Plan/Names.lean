import GameShelf.Plan.Step
import GameShelf.Proofs.Game.Rearranged
import GameShelf.Proofs.Order.StableSort
import Mathlib.Data.List.Forall2

/-!
# The names of a plan

The names of a plan are the names of its games, sorted stably ignoring case.  Up to case a list can
be sorted in one way only, so the names in lower case are known from the games alone: how the plan
came about decides no more than the order of names that tie (`map_foldCase_names_eq_iff`).
-/

set_option autoImplicit false

namespace GameShelf

theorem Text.compareIgnoringCase_eq_eq_iff {a b : Text} :
    a.compareIgnoringCase b = .eq ↔ a.foldCase = b.foldCase := by
  constructor
  · exact Std.LawfulEqOrd.eq_of_compare
  · intro h
    rw [compareIgnoringCase, h]
    exact Std.ReflOrd.compare_self

namespace Plan

variable {plan other : Plan}

theorem names_perm (plan : Plan) : plan.names.Perm (plan.games.map (·.name)) :=
  List.mergeSort_perm _ _

/-- The names are those of the games sorted by name. -/
theorem names_eq_map_sort (plan : Plan) :
    plan.names = (Order.sort ⟨.name, .ascending⟩ plan.games).map (·.name) := by
  have hsort : (plan.games.mergeSort (Order.le ⟨.name, .ascending⟩)).map (·.name) =
      (plan.games.map (·.name)).mergeSort fun a b => (a.compareIgnoringCase b).isLE :=
    List.map_mergeSort fun _ _ _ _ => rfl
  exact hsort.symm

/-- With the place that its game has in the plan, each name compares no greater than those behind
it, and names that tie come in the order of their places. -/
theorem exists_placed_names (plan : Plan) :
    ∃ placed : List (Text × Nat), plan.names = placed.map Prod.fst ∧
      placed.Perm (plan.games.map (·.name)).zipIdx ∧
      placed.Pairwise fun a b => a.1.compareIgnoringCase b.1 ≠ .gt ∧
        (a.1.compareIgnoringCase b.1 = .eq → a.2 < b.2) := by
  let order : Order := ⟨.name, .ascending⟩
  refine ⟨(order.arrange plan.games.zipIdx).map (Prod.map Game.name id), ?_, ?_, ?_⟩
  · rw [names_eq_map_sort, Order.sort_eq_map_arrange, List.map_map, List.map_map]
    rfl
  · rw [List.zipIdx_map]
    exact (order.arrange_perm plan.games.zipIdx).map _
  · rw [List.pairwise_map]
    exact order.pairwise_before_arrange (Order.increasing_zipIdx plan.games 0)

/-! ## Names up to case -/

theorem pairwise_map_foldCase_names (plan : Plan) :
    (plan.names.map Text.foldCase).Pairwise fun a b => (compare a b).isLE = true := by
  rcases exists_placed_names plan with ⟨placed, hnames, -, hsorted⟩
  rw [hnames, List.pairwise_map, List.pairwise_map]
  refine hsorted.imp ?_
  intro a b h
  exact Ordering.isLE_iff_ne_gt.2 h.1

/-- Up to case, the names are known from the names of the games, in any order. -/
theorem map_foldCase_names_eq_iff :
    plan.names.map Text.foldCase = other.names.map Text.foldCase ↔
      (plan.games.map (·.name.foldCase)).Perm (other.games.map (·.name.foldCase)) := by
  have hperm : ∀ plan : Plan,
      (plan.names.map Text.foldCase).Perm (plan.games.map (·.name.foldCase)) := by
    intro plan
    have hmap := (names_perm plan).map Text.foldCase
    rwa [List.map_map] at hmap
  constructor
  · intro h
    have hnames := hperm plan
    rw [h] at hnames
    exact hnames.symm.trans (hperm other)
  · intro h
    -- Both are the same texts in order, and order leaves one way to arrange them.
    refine List.Perm.eq_of_pairwise ?_ (pairwise_map_foldCase_names plan)
      (pairwise_map_foldCase_names other) ((hperm plan).trans (h.trans (hperm other).symm))
    intro a b _ _ hab hba
    exact Std.LawfulEqOrd.eq_of_compare (Std.OrientedCmp.isLE_antisymm hab hba)

theorem forall₂_compareIgnoringCase_iff {xs ys : List Text} :
    List.Forall₂ (fun a b => a.compareIgnoringCase b = .eq) xs ys ↔
      xs.map Text.foldCase = ys.map Text.foldCase := by
  have hmaps : List.Forall₂ Eq (xs.map Text.foldCase) (ys.map Text.foldCase) ↔
      List.Forall₂ (fun a b => a.foldCase = b.foldCase) xs ys := by
    rw [List.forall₂_map_left_iff, List.forall₂_map_right_iff]
  simp only [Text.compareIgnoringCase_eq_eq_iff]
  rw [← hmaps, List.forall₂_eq_eq_eq]

/-- The names of a plan are the names of its games, each at one place, none greater than a later one
when case is ignored, and names that tie in the order of adding.  Plans with the same games have, in
whatever order they came to them, as many names, and at each place two that differ at most in
case. -/
theorem names_determined_by_games (plan : Plan) :
    (∃ placed : List (Text × Nat), plan.names = placed.map Prod.fst ∧
      placed.Perm (plan.games.map (·.name)).zipIdx ∧
      placed.Pairwise fun a b => a.1.compareIgnoringCase b.1 ≠ .gt ∧
        (a.1.compareIgnoringCase b.1 = .eq → a.2 < b.2)) ∧
    ∀ other : Plan, Game.Rearranged plan.games other.games →
      List.Forall₂ (fun a b => a.compareIgnoringCase b = .eq) plan.names other.names := by
  refine ⟨exists_placed_names plan, ?_⟩
  intro other h
  rw [forall₂_compareIgnoringCase_iff, map_foldCase_names_eq_iff]
  have hnames := h.map_name.map Text.foldCase
  rwa [List.map_map, List.map_map] at hnames

/-- Two plans come to the same games in different ways, one game of them with another NaN, and names
that tie come in the order of adding. -/
theorem names_determined_by_games_ties :
    let upper : Game := ⟨"GO".toList, 1, 2, 2, 30, 180, ⟨0⟩, 23, ⟨0⟩, -2200⟩
    let lower : Game := ⟨"go".toList, 2, 2, 2, 30, 180, ⟨0⟩, 24, ⟨0⟩, -2200⟩
    let hex : Game := ⟨"Hex".toList, 3, 2, 2, 20, 60, .quietNaN false, 90, ⟨0⟩, 1942⟩
    let twin : Game := { hex with difficulty := .quietNaN true }
    let plan := empty.run [.add "all".toList [upper, lower, hex]]
    let other := empty.run [.add "all".toList [lower, hex], .remove "2".toList,
      .add "all".toList [upper, twin]]
    Game.Rearranged plan.games other.games ∧
      plan.names = [upper.name, lower.name, hex.name] ∧
      other.names = [lower.name, upper.name, hex.name] ∧
      List.Forall₂ (fun a b => a.compareIgnoringCase b = .eq) plan.names other.names := by
  intro upper lower hex twin plan other
  have hplan : plan.games = [upper, lower, hex] := by decide +kernel
  have hother : other.games = [lower, upper, twin] := by decide +kernel
  have hgames : Game.Rearranged plan.games other.games := by
    have hswap : Game.Rearranged [upper, lower, hex] [lower, upper, hex] :=
      .of_perm (.swap lower upper [hex])
    have hclass : hex.toClass = twin.toClass := Game.toClass_eq_iff.2 (by decide +kernel)
    have hclasses : [lower, upper, hex].map Game.toClass =
        [lower, upper, twin].map Game.toClass := by
      simp only [List.map_cons, hclass]
    rw [Game.Rearranged, hclasses] at hswap
    rw [hplan, hother]
    exact hswap
  -- Both plans have their names in order already.
  have hnames : plan.names = [upper.name, lower.name, hex.name] := by
    rw [names, hplan]
    exact List.mergeSort_of_pairwise (by decide +kernel)
  have hnames' : other.names = [lower.name, upper.name, hex.name] := by
    rw [names, hother]
    exact List.mergeSort_of_pairwise (by decide +kernel)
  exact ⟨hgames, hnames, hnames', (names_determined_by_games plan).2 other hgames⟩

end Plan
end GameShelf
