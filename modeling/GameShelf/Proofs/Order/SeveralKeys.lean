import GameShelf.Proofs.Order.StableSort

/-!
# Sorting by several keys

Sorting by the less important key first and by the more important one last sorts by both: the last
sort leaves the games that tie in the order that the sort before has given them.  So each sort adds
its comparison in front of those that were made before (`Order.pairwise_arrange`), and the places in
the input, which no sort looks at, come last.

In particular a sort has nothing left to do when it is repeated.
-/

set_option autoImplicit false

namespace GameShelf.Order

/-- The first of two placed games is the smaller one by the first order; or it ties there and is the
smaller one by the second order; or it ties in both and has the smaller place. -/
def BeforeByBoth (first second : Order) (a b : Game × Nat) : Prop :=
  first.compare a.1 b.1 = .lt ∨
  (first.compare a.1 b.1 = .eq ∧ second.compare a.1 b.1 = .lt) ∨
  (first.compare a.1 b.1 = .eq ∧ second.compare a.1 b.1 = .eq ∧ a.2 < b.2)

variable {first second : Order} {placed : List (Game × Nat)}

theorem beforeByBoth_of_before {a b : Game × Nat} (h : first.compare a.1 b.1 ≠ .gt)
    (htie : first.compare a.1 b.1 = .eq → second.Before a b) : BeforeByBoth first second a b := by
  rcases Ordering.isLE_iff_eq_lt_or_eq_eq.1 (Ordering.isLE_iff_ne_gt.2 h) with hfirst | hfirst
  · exact Or.inl hfirst
  · have hbefore : second.Before a b := htie hfirst
    rcases Ordering.isLE_iff_eq_lt_or_eq_eq.1 (Ordering.isLE_iff_ne_gt.2 hbefore.1) with
      hsecond | hsecond
    · exact Or.inr (Or.inl ⟨hfirst, hsecond⟩)
    · exact Or.inr (Or.inr ⟨hfirst, hsecond, hbefore.2 hsecond⟩)

/-- Arranging by the second order and then by the first one puts the games in order by both. -/
theorem pairwise_beforeByBoth_arrange (h : Increasing placed) :
    (first.arrange (second.arrange placed)).Pairwise (BeforeByBoth first second) := by
  refine (first.pairwise_arrange (second.pairwise_before_arrange h)).imp ?_
  intro a b hab
  exact beforeByBoth_of_before hab.1 hab.2

/-- The positions of one sort after the other, read in the input of the first of them. -/
theorem map_sortPositions_sort (first second : Order) (games : List Game) :
    (first.sortPositions (second.sort games)).map ((second.sortPositions games)[·]?) =
      (first.arrange (second.arrange games.zipIdx)).map fun a => some a.2 := by
  have hplaces : ∀ i : Nat, (second.sortPositions games)[i]? =
      ((second.arrange games.zipIdx)[i]?).map Prod.snd :=
    fun _ => List.getElem?_map
  have hlook := first.map_getElem?_sortPositions (second.arrange games.zipIdx)
  rw [← second.sort_eq_map_arrange] at hlook
  calc
    (first.sortPositions (second.sort games)).map ((second.sortPositions games)[·]?)
        = ((first.sortPositions (second.sort games)).map
            ((second.arrange games.zipIdx)[·]?)).map (Option.map Prod.snd) := by
          rw [List.map_map]
          exact List.map_congr_left fun i _ => hplaces i
    _ = (first.arrange (second.arrange games.zipIdx)).map fun a => some a.2 := by
          rw [hlook, List.map_map]
          rfl

/-- What is in order already is left as it is. -/
theorem arrange_of_pairwise {order : Order}
    (h : placed.Pairwise fun a b => order.le a.1 b.1 = true) : order.arrange placed = placed :=
  List.mergeSort_of_pairwise h

theorem sortPositions_sort (order : Order) (games : List Game) :
    order.sortPositions (order.sort games) = List.range (order.sort games).length := by
  have hsorted : (order.sort games).zipIdx.Pairwise fun a b => order.le a.1 b.1 = true :=
    (pairwise_zipIdx_iff _).2 (order.pairwise_le_sort games)
  rw [sortPositions_eq_map_arrange, arrange_of_pairwise hsorted, List.zipIdx_map_snd,
    List.range_eq_range']

theorem sort_sort (order : Order) (games : List Game) :
    order.sort (order.sort games) = order.sort games :=
  List.mergeSort_of_pairwise (order.pairwise_le_sort games)

/-- Sorting by one key and then by another orders the games by the second key, those that tie there
by the first one, and those that tie in both by their places in the input; each place of the input
is used once.  Sorting again by the same key and in the same direction moves nothing. -/
theorem sortGames_sortGames (games : List Game) (key₁ key₂ : Field)
    (direction₁ direction₂ : Direction) :
    (∃ (once : List Game) (placed : List (Game × Nat)),
      sortGames games (some key₂) direction₂ = .ok once ∧
      sortGames once (some key₁) direction₁ = .ok (placed.map Prod.fst) ∧
      (sortPositions ⟨key₁, direction₁⟩ once).map ((sortPositions ⟨key₂, direction₂⟩ games)[·]?) =
        placed.map (fun a => some a.2) ∧
      placed.Perm games.zipIdx ∧
      placed.Pairwise (BeforeByBoth ⟨key₁, direction₁⟩ ⟨key₂, direction₂⟩)) ∧
    ∃ once : List Game,
      sortGames games (some key₁) direction₁ = .ok once ∧
      sortGames once (some key₁) direction₁ = .ok once ∧
      sortPositions ⟨key₁, direction₁⟩ once = List.range once.length := by
  let first : Order := ⟨key₁, direction₁⟩
  let second : Order := ⟨key₂, direction₂⟩
  refine ⟨⟨second.sort games, first.arrange (second.arrange games.zipIdx), rfl, ?_, ?_, ?_, ?_⟩,
    first.sort games, rfl, ?_, ?_⟩
  · have hsorted : (first.arrange (second.arrange games.zipIdx)).map Prod.fst =
        first.sort (second.sort games) := by
      rw [map_fst_arrange, ← sort_eq_map_arrange]
    exact congrArg Except.ok hsorted.symm
  · exact map_sortPositions_sort first second games
  · exact (first.arrange_perm _).trans (second.arrange_perm _)
  · exact pairwise_beforeByBoth_arrange (increasing_zipIdx games 0)
  · exact congrArg Except.ok (first.sort_sort games)
  · exact first.sortPositions_sort games

end GameShelf.Order
