import GameShelf.Proofs.Order.StableSort

/-!
# Descending is ascending mirrored

Descending, the comparison is reversed and not the result, so games that tie keep their places.
What is the mirror image of the ascending sort is therefore the descending sort of the mirrored
input: read backwards, it stands in the relation `Order.Before` of the ascending order, which leaves
only one arrangement.

Of the same input the two sorts are mirror images only if no two games tie.  Games that tie stand in
the order of the input in both sorts, and so in the opposite order in the mirror image of one.
-/

set_option autoImplicit false

namespace GameShelf.Order

variable {field : Field} {placed : List (Game × Nat)} {games : List Game}

/-! ## The mirrored input -/

/-- Read backwards, the descending arrangement of the mirrored list is the ascending one. -/
theorem reverse_arrange_reverse (field : Field) (h : Increasing placed) :
    (arrange ⟨field, .descending⟩ placed.reverse).reverse =
      arrange ⟨field, .ascending⟩ placed := by
  have hplaced : (arrange ⟨field, .descending⟩ placed.reverse).reverse.Perm placed :=
    (List.reverse_perm _).trans ((arrange_perm _ _).trans (List.reverse_perm placed))
  refine eq_of_perm_of_pairwise_before (hplaced.trans (arrange_perm _ _).symm) ?_
    (pairwise_before_arrange _ h)
  -- In the mirrored list the places decrease, and so they do among the games that tie.
  have hmirrored : placed.reverse.Pairwise fun a b => b.2 < a.2 := List.pairwise_reverse.2 h
  refine List.pairwise_reverse.2 ((pairwise_arrange _ hmirrored).imp ?_)
  intro a b hab
  rwa [compare_descending] at hab

theorem arrange_reverse (field : Field) (h : Increasing placed) :
    arrange ⟨field, .descending⟩ placed.reverse =
      (arrange ⟨field, .ascending⟩ placed).reverse := by
  rw [← reverse_arrange_reverse field h, List.reverse_reverse]

theorem sort_reverse (field : Field) (games : List Game) :
    sort ⟨field, .descending⟩ games.reverse = (sort ⟨field, .ascending⟩ games).reverse := by
  have harrange := congrArg (List.map Prod.fst)
    (arrange_reverse field (increasing_zipIdx games 0))
  rwa [map_fst_arrange, List.map_reverse, List.map_reverse, ← sort_eq_map_arrange,
    List.zipIdx_map_fst] at harrange

theorem lt_length_of_mem_sortPositions {order : Order} {i : Nat}
    (h : i ∈ order.sortPositions games) : i < games.length := by
  rcases List.mem_map.1 h with ⟨a, ha, rfl⟩
  have hmem : a ∈ games.zipIdx := (order.arrange_perm _).mem_iff.1 ha
  have hbound := List.snd_lt_of_mem_zipIdx hmem
  omega

/-- Position `i` of the mirrored input is position `games.length - 1 - i` of the input. -/
theorem map_sortPositions_reverse (field : Field) (games : List Game) :
    (sortPositions ⟨field, .descending⟩ games.reverse).map (games.length - 1 - ·) =
      (sortPositions ⟨field, .ascending⟩ games).reverse := by
  have hfst : games.zipIdx.reverse.map Prod.fst = games.reverse := by
    rw [List.map_reverse, List.zipIdx_map_fst]
  have hlook := map_getElem?_sortPositions ⟨field, .descending⟩ games.zipIdx.reverse
  rw [hfst, arrange_reverse field (increasing_zipIdx games 0)] at hlook
  have hplace : ∀ i ∈ sortPositions ⟨field, .descending⟩ games.reverse,
      (games.zipIdx.reverse[i]?).map Prod.snd = some (games.length - 1 - i) := by
    intro i hi
    have hbound : i < games.length := by
      simpa using lt_length_of_mem_sortPositions hi
    simp [hbound]
  have hsome : ((sortPositions ⟨field, .descending⟩ games.reverse).map
      (games.length - 1 - ·)).map some =
        ((sortPositions ⟨field, .ascending⟩ games).reverse).map some := by
    calc
      ((sortPositions ⟨field, .descending⟩ games.reverse).map (games.length - 1 - ·)).map some
          = ((sortPositions ⟨field, .descending⟩ games.reverse).map
              (games.zipIdx.reverse[·]?)).map (Option.map Prod.snd) := by
            rw [List.map_map, List.map_map]
            exact List.map_congr_left fun i hi => (hplace i hi).symm
      _ = ((sortPositions ⟨field, .ascending⟩ games).reverse).map some := by
            rw [hlook, sortPositions_eq_map_arrange, List.map_map, ← List.map_reverse,
              List.map_map]
            rfl
  exact (List.map_inj_right fun _ _ => Option.some.inj).1 hsome

/-! ## The same input -/

/-- Without ties it does not matter in which order the games come. -/
theorem arrange_reverse_of_untied {order : Order}
    (h : placed.Pairwise fun a b => order.compare a.1 b.1 ≠ .eq) :
    order.arrange placed.reverse = order.arrange placed := by
  have hbefore : ∀ {l : List (Game × Nat)},
      (l.Pairwise fun a b => order.compare a.1 b.1 ≠ .eq) →
        (order.arrange l).Pairwise order.Before := by
    intro l hl
    refine (order.pairwise_arrange hl).imp ?_
    intro a b hab
    exact ⟨hab.1, fun htie => absurd htie (hab.2 htie)⟩
  have hreverse : placed.reverse.Pairwise fun a b => order.compare a.1 b.1 ≠ .eq := by
    refine List.pairwise_reverse.2 (h.imp ?_)
    intro a b hne htie
    exact hne (Std.OrientedCmp.eq_symm htie)
  have hperm : (order.arrange placed.reverse).Perm (order.arrange placed) :=
    (order.arrange_perm _).trans ((List.reverse_perm placed).trans (order.arrange_perm _).symm)
  exact eq_of_perm_of_pairwise_before hperm (hbefore hreverse) (hbefore h)

/-- Games that tie would have to stand in one order and in the opposite one. -/
theorem untied_of_arrange_reverse {order : Order} (hplaced : Increasing placed)
    (h : order.arrange placed.reverse = order.arrange placed) :
    placed.Pairwise fun a b => order.compare a.1 b.1 ≠ .eq := by
  refine List.pairwise_iff_forall_sublist.2 ?_
  intro a b hab htie
  have hties : (placed.filter (order.ties a.1)).reverse = placed.filter (order.ties a.1) := by
    rw [← List.filter_reverse, ← order.filter_ties_arrange a.1 placed.reverse, h,
      order.filter_ties_arrange]
  have hback : [b, a].Sublist (placed.filter (order.ties a.1)) := by
    rw [← hties]
    exact (sublist_filter_ties hab htie).reverse
  have hlt : a.2 < b.2 := List.pairwise_iff_forall_sublist.1 hplaced hab
  have hgt : b.2 < a.2 :=
    List.pairwise_iff_forall_sublist.1 hplaced (hback.trans List.filter_sublist)
  omega

/-- A placed game of the input is known by its place. -/
theorem eq_of_map_snd_eq {xs ys : List (Game × Nat)} (hxs : xs ⊆ games.zipIdx)
    (hys : ys ⊆ games.zipIdx) (h : xs.map Prod.snd = ys.map Prod.snd) : xs = ys := by
  have hlook : ∀ {l : List (Game × Nat)}, l ⊆ games.zipIdx →
      l.map some = (l.map Prod.snd).map (games.zipIdx[·]?) := by
    intro l hl
    rw [List.map_map]
    refine List.map_congr_left ?_
    intro a ha
    have hgame := List.mem_zipIdx_iff_getElem?.1 (hl ha)
    simp [hgame]
  have hsome : xs.map some = ys.map some := by
    rw [hlook hxs, hlook hys, h]
  exact (List.map_inj_right fun _ _ => Option.some.inj).1 hsome

theorem arrange_subset (order : Order) (placed : List (Game × Nat)) :
    order.arrange placed ⊆ placed :=
  (order.arrange_perm placed).subset

/-- Whether games tie is a matter of the key and neither of the direction nor of their places. -/
theorem pairwise_untied_zipIdx_iff :
    (games.zipIdx.Pairwise fun a b => compare ⟨field, .descending⟩ a.1 b.1 ≠ .eq) ↔
      games.Pairwise fun a b => (field.value a).compare (field.value b) ≠ .eq := by
  have hkey : ∀ a b : Game, compare ⟨field, .descending⟩ a b = .eq ↔
      (field.value a).compare (field.value b) = .eq :=
    fun a b => Ordering.swap_eq_eq
  rw [pairwise_zipIdx_iff (R := fun a b => compare ⟨field, .descending⟩ a b ≠ .eq)]
  simp only [ne_eq, hkey]

/-- The two sorts of one input use its places in opposite orders exactly if no two games tie. -/
theorem map_snd_arrange_eq_reverse_iff (key : Field) (games : List Game) :
    (arrange ⟨key, .descending⟩ games.zipIdx).map Prod.snd =
        ((arrange ⟨key, .ascending⟩ games.zipIdx).map Prod.snd).reverse ↔
      games.Pairwise fun a b => (key.value a).compare (key.value b) ≠ .eq := by
  have hplaced : Increasing games.zipIdx := increasing_zipIdx games 0
  rw [← List.map_reverse, ← arrange_reverse key hplaced, ← pairwise_untied_zipIdx_iff]
  constructor
  · intro hpositions
    -- Both arrangements are of the same placed games, so their places tell them.
    have hback : arrange ⟨key, .descending⟩ games.zipIdx.reverse ⊆ games.zipIdx :=
      List.Subset.trans (arrange_subset _ _) (List.reverse_subset.2 (List.Subset.refl _))
    exact untied_of_arrange_reverse hplaced
      (eq_of_map_snd_eq hback (arrange_subset _ _) hpositions.symm)
  · intro huntied
    rw [arrange_reverse_of_untied huntied]

/-- The descending sort of the mirrored games is the ascending sort of the games, mirrored, and it
takes them from the same places.  For the games as they are, the two sorts use the positions in
opposite orders exactly when no two games tie on the key. -/
theorem sortGames_reverse (games : List Game) (key : Field) :
    ∃ ascending descending mirrored : List (Game × Nat),
      SortsTo ⟨key, .ascending⟩ games ascending ∧
      SortsTo ⟨key, .descending⟩ games descending ∧
      SortsTo ⟨key, .descending⟩ games.reverse mirrored ∧
      mirrored.map Prod.fst = (ascending.map Prod.fst).reverse ∧
      (mirrored.map Prod.snd).map (games.length - 1 - ·) = (ascending.map Prod.snd).reverse ∧
      (descending.map Prod.snd = (ascending.map Prod.snd).reverse ↔
        games.Pairwise fun a b => (key.value a).compare (key.value b) ≠ .eq) := by
  refine ⟨_, _, _, sortsTo_arrange ⟨key, .ascending⟩ games,
    sortsTo_arrange ⟨key, .descending⟩ games, sortsTo_arrange ⟨key, .descending⟩ games.reverse,
    ?_, ?_, map_snd_arrange_eq_reverse_iff key games⟩
  · rw [← sort_eq_map_arrange, ← sort_eq_map_arrange]
    exact sort_reverse key games
  · rw [← sortPositions_eq_map_arrange, ← sortPositions_eq_map_arrange]
    exact map_sortPositions_reverse key games

end GameShelf.Order
