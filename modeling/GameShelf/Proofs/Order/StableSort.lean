import GameShelf.Proofs.Order.Preorder

/-!
# Sorting is stable

To say that games which tie keep their places, each game carries the place it has in the input: a
placed game stands before another when it compares smaller, or ties and has the smaller place.
Unlike the sort order itself this relation never ties, so a list of placed games can be arranged by
it in one way only.  `Order.arrange` is that arrangement, and a sort is what is left of it without
the places.
-/

set_option autoImplicit false

namespace GameShelf.Order

variable {order : Order} {a b c : Game × Nat} {placed : List (Game × Nat)} {games : List Game}

/-! ## The relation of a sort order -/

theorem le_trans (order : Order) (a b c : Game) (hab : order.le a b = true)
    (hbc : order.le b c = true) : order.le a c = true :=
  order.isLE_compare_trans hab hbc

theorem le_total (order : Order) (a b : Game) : (order.le a b || order.le b a) = true := by
  simp only [le]
  rw [order.compare_eq_swap b a]
  cases order.compare a b with
  | lt => rfl
  | eq => rfl
  | gt => rfl

/-- The first of two placed games compares no greater, and where they tie it has the smaller
place. -/
def Before (order : Order) (a b : Game × Nat) : Prop :=
  order.compare a.1 b.1 ≠ .gt ∧ (order.compare a.1 b.1 = .eq → a.2 < b.2)

instance (order : Order) (a b : Game × Nat) : Decidable (order.Before a b) :=
  inferInstanceAs (Decidable (_ ∧ _))

/-- Neither of two placed games stands before the other and behind it. -/
theorem Before.asymm (h : order.Before a b) : ¬ order.Before b a := by
  intro h'
  have hswap : order.compare b.1 a.1 = (order.compare a.1 b.1).swap :=
    order.compare_eq_swap b.1 a.1
  cases hab : order.compare a.1 b.1 with
  | lt =>
      rw [hab] at hswap
      exact h'.1 hswap
  | eq =>
      rw [hab] at hswap
      have hlt : a.2 < b.2 := h.2 hab
      have hgt : b.2 < a.2 := h'.2 hswap
      omega
  | gt => exact h.1 hab

/-- Placed games can be put in order in one way only. -/
theorem eq_of_perm_of_pairwise_before {xs ys : List (Game × Nat)} (hperm : xs.Perm ys)
    (hxs : xs.Pairwise order.Before) (hys : ys.Pairwise order.Before) : xs = ys := by
  refine hperm.eq_of_pairwise ?_ hxs hys
  intro a b _ _ hab hba
  exact absurd hba hab.asymm

/-! ## Arranging placed games -/

/-- Places that increase along the list. -/
def Increasing (placed : List (Game × Nat)) : Prop :=
  placed.Pairwise fun a b => a.2 < b.2

theorem increasing_zipIdx (games : List Game) (n : Nat) : Increasing (games.zipIdx n) := by
  induction games generalizing n with
  | nil => exact List.Pairwise.nil
  | cons game rest ih =>
      refine List.Pairwise.cons ?_ (ih (n + 1))
      intro other hother
      have hbound : n + 1 ≤ other.2 := List.le_snd_of_mem_zipIdx hother
      exact hbound

/-- A relation of games does not look at their places. -/
theorem pairwise_zipIdx_iff {R : Game → Game → Prop} (games : List Game) :
    (games.zipIdx.Pairwise fun a b => R a.1 b.1) ↔ games.Pairwise R := by
  have hmap : (games.zipIdx.map Prod.fst).Pairwise R ↔
      games.zipIdx.Pairwise fun a b => R a.1 b.1 := List.pairwise_map
  rw [← hmap, List.zipIdx_map_fst]

/-- The placed games sorted by their games. -/
def arrange (order : Order) (placed : List (Game × Nat)) : List (Game × Nat) :=
  placed.mergeSort fun a b => order.le a.1 b.1

theorem arrange_perm (order : Order) (placed : List (Game × Nat)) :
    (order.arrange placed).Perm placed :=
  List.mergeSort_perm placed _

theorem map_fst_arrange (order : Order) (placed : List (Game × Nat)) :
    (order.arrange placed).map Prod.fst = order.sort (placed.map Prod.fst) :=
  List.map_mergeSort fun _ _ _ _ => rfl

theorem pairwise_le_arrange (order : Order) (placed : List (Game × Nat)) :
    (order.arrange placed).Pairwise fun a b => order.le a.1 b.1 = true :=
  List.pairwise_mergeSort (fun a b c => order.le_trans a.1 b.1 c.1)
    (fun a b => order.le_total a.1 b.1) placed

/-- The games that tie with a given one. -/
def ties (order : Order) (game : Game) (other : Game × Nat) : Bool :=
  order.compare game other.1 == .eq

/-- Arranging leaves the games that tie with a given one as they were. -/
theorem filter_ties_arrange (order : Order) (game : Game) (placed : List (Game × Nat)) :
    (order.arrange placed).filter (order.ties game) = placed.filter (order.ties game) := by
  have htied : (placed.filter (order.ties game)).Pairwise
      fun a b => order.le a.1 b.1 = true := by
    refine List.pairwise_of_forall_mem_list ?_
    intro a ha b hb
    have hga : order.compare game a.1 = .eq := by
      simpa [ties] using (List.mem_filter.1 ha).2
    have hgb : order.compare game b.1 = .eq := by
      simpa [ties] using (List.mem_filter.1 hb).2
    have hab : order.compare a.1 b.1 = .eq :=
      Std.TransCmp.eq_trans (Std.OrientedCmp.eq_symm hga) hgb
    simp [le, hab]
  -- In order already and a part of the list, they are a part of the arranged list.
  have hsub : (placed.filter (order.ties game)).Sublist (order.arrange placed) :=
    List.sublist_mergeSort (fun a b c => order.le_trans a.1 b.1 c.1)
      (fun a b => order.le_total a.1 b.1) htied List.filter_sublist
  have hfilter : (placed.filter (order.ties game)).Sublist
      ((order.arrange placed).filter (order.ties game)) := by
    simpa using hsub.filter (order.ties game)
  have hlength : ((order.arrange placed).filter (order.ties game)).length =
      (placed.filter (order.ties game)).length :=
    ((order.arrange_perm placed).filter _).length_eq
  exact (hfilter.eq_of_length hlength.symm).symm

/-- Games that tie are found among those that tie with the first of them. -/
theorem sublist_filter_ties (h : [a, b].Sublist placed) (htie : order.compare a.1 b.1 = .eq) :
    [a, b].Sublist (placed.filter (order.ties a.1)) := by
  have htied : [a, b].filter (order.ties a.1) = [a, b] := by
    simp [ties, htie, order.compare_self a.1]
  rw [← htied]
  exact h.filter (order.ties a.1)

/-- Arranging puts the games in order, and those that tie are in whatever relation they were in
before. -/
theorem pairwise_arrange (order : Order) {R : Game × Nat → Game × Nat → Prop}
    (h : placed.Pairwise R) :
    (order.arrange placed).Pairwise fun a b =>
      order.compare a.1 b.1 ≠ .gt ∧ (order.compare a.1 b.1 = .eq → R a b) := by
  refine List.pairwise_iff_forall_sublist.2 ?_
  intro a b hab
  have hle : order.le a.1 b.1 = true :=
    List.pairwise_iff_forall_sublist.1 (order.pairwise_le_arrange placed) hab
  refine ⟨?_, ?_⟩
  · simpa [le, Ordering.isLE_iff_ne_gt] using hle
  · intro htie
    -- Both tie with the first one, so they stand in the list as they do in the arranged one.
    have hplaced : [a, b].Sublist (placed.filter (order.ties a.1)) := by
      rw [← order.filter_ties_arrange a.1 placed]
      exact sublist_filter_ties hab htie
    exact List.pairwise_iff_forall_sublist.1 h (hplaced.trans List.filter_sublist)

/-- Arranging places that increase puts the games in order. -/
theorem pairwise_before_arrange (order : Order) (h : Increasing placed) :
    (order.arrange placed).Pairwise order.Before :=
  order.pairwise_arrange h

/-- Whatever is left out before or after, the rest comes in the same order. -/
theorem filter_arrange (order : Order) (p : Game → Bool) (h : Increasing placed) :
    (order.arrange placed).filter (fun a => p a.1) =
      order.arrange (placed.filter fun a => p a.1) := by
  have hleft : ((order.arrange placed).filter fun a => p a.1).Pairwise order.Before :=
    (order.pairwise_before_arrange h).filter _
  have hright : (order.arrange (placed.filter fun a => p a.1)).Pairwise order.Before :=
    order.pairwise_before_arrange (List.Pairwise.filter _ h)
  have hperm : ((order.arrange placed).filter fun a => p a.1).Perm
      (order.arrange (placed.filter fun a => p a.1)) :=
    ((order.arrange_perm placed).filter _).trans (order.arrange_perm _).symm
  exact eq_of_perm_of_pairwise_before hperm hleft hright

/-! ## Sorting games -/

theorem sort_eq_map_arrange (order : Order) (games : List Game) :
    order.sort games = (order.arrange games.zipIdx).map Prod.fst := by
  rw [map_fst_arrange, List.zipIdx_map_fst]

theorem sortPositions_eq_map_arrange (order : Order) (games : List Game) :
    order.sortPositions games = (order.arrange games.zipIdx).map Prod.snd :=
  rfl

theorem sort_perm (order : Order) (games : List Game) : (order.sort games).Perm games :=
  List.mergeSort_perm games order.le

theorem pairwise_le_sort (order : Order) (games : List Game) :
    (order.sort games).Pairwise fun a b => order.le a b = true :=
  List.pairwise_mergeSort order.le_trans order.le_total games

/-- The positions of a sort say where each game of the arrangement stood before. -/
theorem map_getElem?_sortPositions (order : Order) (placed : List (Game × Nat)) :
    (order.sortPositions (placed.map Prod.fst)).map (placed[·]?) =
      (order.arrange placed).map some := by
  -- Each placed game carries its position in the list besides.
  let positioned : List ((Game × Nat) × Nat) :=
    placed.zipIdx.mergeSort fun a b => order.le a.1.1 b.1.1
  have hpositions : order.sortPositions (placed.map Prod.fst) = positioned.map Prod.snd := by
    have hmap : positioned.map (Prod.map Prod.fst id) =
        order.arrange (placed.zipIdx.map (Prod.map Prod.fst id)) :=
      List.map_mergeSort fun _ _ _ _ => rfl
    rw [sortPositions_eq_map_arrange, List.zipIdx_map, ← hmap, List.map_map]
    rfl
  have harrange : order.arrange placed = positioned.map Prod.fst := by
    have hmap : positioned.map Prod.fst = order.arrange (placed.zipIdx.map Prod.fst) :=
      List.map_mergeSort fun _ _ _ _ => rfl
    rw [hmap, List.zipIdx_map_fst]
  rw [hpositions, harrange, List.map_map, List.map_map]
  refine List.map_congr_left ?_
  intro a ha
  have hmem : a ∈ placed.zipIdx := (List.mergeSort_perm placed.zipIdx _).mem_iff.1 ha
  exact List.mem_zipIdx_iff_getElem?.1 hmem

/-- Selecting games by a test and sorting them can be done in either order. -/
theorem filter_sort (order : Order) (p : Game → Bool) (games : List Game) :
    (order.sort games).filter p = order.sort (games.filter p) := by
  calc
    (order.sort games).filter p
        = ((order.arrange games.zipIdx).filter fun a => p a.1).map Prod.fst := by
          rw [sort_eq_map_arrange, List.filter_map]
          rfl
    _ = (order.arrange (games.zipIdx.filter fun a => p a.1)).map Prod.fst := by
          rw [order.filter_arrange p (increasing_zipIdx games 0)]
    _ = order.sort ((games.zipIdx.filter fun a => p a.1).map Prod.fst) :=
          order.map_fst_arrange _
    _ = order.sort ((games.zipIdx.map Prod.fst).filter p) := by
          rw [List.filter_map]
          rfl
    _ = order.sort (games.filter p) := by
          rw [List.zipIdx_map_fst]

/-- What sorting these games returns: `placed` holds each game of the input once, with its place
there, in the order of the result. -/
structure SortsTo (order : Order) (games : List Game) (placed : List (Game × Nat)) : Prop where
  games_eq : sortGames games (some order.field) order.direction = .ok (placed.map Prod.fst)
  positions_eq : order.sortPositions games = placed.map Prod.snd
  perm : placed.Perm games.zipIdx
  ordered : placed.Pairwise order.Before

theorem sortsTo_arrange (order : Order) (games : List Game) :
    order.SortsTo games (order.arrange games.zipIdx) where
  games_eq := congrArg Except.ok (order.sort_eq_map_arrange games)
  positions_eq := order.sortPositions_eq_map_arrange games
  perm := order.arrange_perm _
  ordered := order.pairwise_before_arrange (increasing_zipIdx games 0)

/-- Whatever arrangement of the input is in order is the result. -/
theorem sortsTo_of_pairwise (hperm : placed.Perm games.zipIdx)
    (hordered : placed.Pairwise order.Before) : order.SortsTo games placed := by
  have harrange : order.arrange games.zipIdx = placed :=
    eq_of_perm_of_pairwise_before ((order.arrange_perm _).trans hperm.symm)
      (order.pairwise_before_arrange (increasing_zipIdx games 0)) hordered
  rw [← harrange]
  exact order.sortsTo_arrange games

/-- Every sort order is a total preorder on games.  Sorting by it uses each place of the input once
and puts the games in order, and games that tie come in the order of their places. -/
theorem sortGames_stable (field : Field) (direction : Direction) :
    (∀ a, compare ⟨field, direction⟩ a a = .eq) ∧
    (∀ a b, compare ⟨field, direction⟩ b a = (compare ⟨field, direction⟩ a b).swap) ∧
    (∀ a b c, compare ⟨field, direction⟩ a b ≠ .gt → compare ⟨field, direction⟩ b c ≠ .gt →
      compare ⟨field, direction⟩ a c ≠ .gt) ∧
    ∀ games, ∃ placed : List (Game × Nat),
      sortGames games (some field) direction = .ok (placed.map Prod.fst) ∧
      sortPositions ⟨field, direction⟩ games = placed.map Prod.snd ∧
      placed.Perm games.zipIdx ∧ placed.Pairwise (Before ⟨field, direction⟩) := by
  let order : Order := ⟨field, direction⟩
  refine ⟨?_, ?_, ?_, ?_⟩
  · intro a
    exact order.compare_self a
  · intro a b
    exact order.compare_eq_swap b a
  · intro a b c hab hbc
    have hac : (order.compare a c).isLE = true :=
      order.isLE_compare_trans (Ordering.isLE_iff_ne_gt.2 hab) (Ordering.isLE_iff_ne_gt.2 hbc)
    exact Ordering.isLE_iff_ne_gt.1 hac
  · intro games
    have hsorts : order.SortsTo games (order.arrange games.zipIdx) := order.sortsTo_arrange games
    exact ⟨_, hsorts.games_eq, hsorts.positions_eq, hsorts.perm, hsorts.ordered⟩

/-- Zeros of one sign tie and keep their places; the zero of the other sign comes before them, and
a NaN after them. -/
theorem sortGames_stable_zeros :
    let ra : Game := ⟨"Ra".toList, 1, 2, 5, 45, 60, ⟨0⟩, 1, ⟨0⟩, 1999⟩
    let tikal : Game := ⟨"Tikal".toList, 2, 2, 4, 90, 120, ⟨0⟩, 2, ⟨0⟩, 1999⟩
    let hex : Game := ⟨"Hex".toList, 3, 2, 2, 20, 60, .signedZero true, 3, ⟨0⟩, 1942⟩
    let catan : Game := ⟨"Catan".toList, 4, 3, 4, 60, 120, .quietNaN false, 4, ⟨0⟩, 1995⟩
    compare ⟨.difficulty, .ascending⟩ hex ra ≠ .gt ∧
      compare ⟨.difficulty, .ascending⟩ ra catan ≠ .gt ∧
      compare ⟨.difficulty, .ascending⟩ hex catan ≠ .gt ∧
      ∃ placed : List (Game × Nat),
        sortGames [catan, ra, hex, tikal] (some .difficulty) .ascending =
          .ok (placed.map Prod.fst) ∧
        placed.map Prod.snd = [2, 1, 3, 0] := by
  intro ra tikal hex catan
  rcases sortGames_stable .difficulty .ascending with ⟨-, -, htrans, hsort⟩
  have hhex : compare ⟨.difficulty, .ascending⟩ hex ra ≠ .gt := by decide +kernel
  have hra : compare ⟨.difficulty, .ascending⟩ ra catan ≠ .gt := by decide +kernel
  rcases hsort [catan, ra, hex, tikal] with ⟨placed, hgames, -, hperm, hbefore⟩
  have hplaced : placed = [(hex, 2), (ra, 1), (tikal, 3), (catan, 0)] := by
    refine eq_of_perm_of_pairwise_before (hperm.trans ?_) hbefore ?_
    · decide +kernel
    · decide +kernel
  refine ⟨hhex, hra, htrans hex ra catan hhex hra, placed, hgames, ?_⟩
  rw [hplaced]
  rfl

end GameShelf.Order
