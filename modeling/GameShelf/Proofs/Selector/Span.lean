import GameShelf.Selector
import GameShelf.Proofs.Outcome
import Mathlib.Data.List.Basic

/-!
# Stretches of a list

An index or a range stands for a stretch of a list.  What it resolves to lies within the list and
is not empty, so the elements inside the stretch and those outside together are all elements.
-/

set_option autoImplicit false

namespace GameShelf.Selector

variable {selector : Selector} {start stop length : Nat} {span : Span}

theorem Span.slice_sublist {α : Type} (span : Span) (xs : List α) :
    (span.slice xs).Sublist xs :=
  (List.take_sublist _ _).trans (List.drop_sublist _ _)

/-- Where nothing is resolved, nothing is selected. -/
theorem Span.elim_slice_sublist {α : Type} (span : Option Span) (xs : List α) :
    (span.elim [] (·.slice xs)).Sublist xs := by
  cases span with
  | none => exact List.nil_sublist xs
  | some span => exact span.slice_sublist xs

theorem Span.erase_sublist {α : Type} {span : Span} (h : span.first ≤ span.last) (xs : List α) :
    (span.erase xs).Sublist xs := by
  have hdrop : (xs.drop (span.last + 1)).Sublist (xs.drop span.first) :=
    List.drop_sublist_drop_left xs (by omega)
  have happend := List.Sublist.append_left hdrop (xs.take span.first)
  simpa [erase] using happend

theorem Span.length_slice_add_length_erase {α : Type} {span : Span} (h : span.first ≤ span.last)
    (xs : List α) : (span.slice xs).length + (span.erase xs).length = xs.length := by
  simp only [slice, erase, List.length_append, List.length_take, List.length_drop]
  omega

/-! ## Stretches and places -/

theorem filter_zipIdx_eq_self {α : Type} {p : Nat → Bool} {xs : List α} {n : Nat}
    (h : ∀ i, n ≤ i → i < n + xs.length → p i = true) :
    (xs.zipIdx n).filter (fun placed => p placed.2) = xs.zipIdx n := by
  refine List.filter_eq_self.2 ?_
  intro placed hmem
  exact h placed.2 (List.le_snd_of_mem_zipIdx hmem) (List.snd_lt_add_of_mem_zipIdx hmem)

theorem filter_zipIdx_eq_nil {α : Type} {p : Nat → Bool} {xs : List α} {n : Nat}
    (h : ∀ i, n ≤ i → i < n + xs.length → p i = false) :
    (xs.zipIdx n).filter (fun placed => p placed.2) = [] := by
  refine List.filter_eq_nil_iff.2 ?_
  intro placed hmem
  rw [h placed.2 (List.le_snd_of_mem_zipIdx hmem) (List.snd_lt_add_of_mem_zipIdx hmem)]
  exact Bool.false_ne_true

/-- Whether the stretch has the position. -/
def Span.holds (span : Span) (i : Nat) : Bool :=
  span.first ≤ i && i ≤ span.last

/-- A list is what is before a stretch of it, the stretch and what is behind it. -/
theorem Span.eq_append_slice {α : Type} {span : Span} (h : span.first ≤ span.last) (xs : List α) :
    xs = xs.take span.first ++ (span.slice xs ++ xs.drop (span.last + 1)) := by
  have hwidth : span.first + (span.last + 1 - span.first) = span.last + 1 := by omega
  have hdrop : xs.drop (span.last + 1) =
      (xs.drop span.first).drop (span.last + 1 - span.first) := by
    rw [List.drop_drop, hwidth]
  rw [slice, hdrop, List.take_append_drop, List.take_append_drop]

theorem Span.length_slice {α : Type} {span : Span} {xs : List α} (hlast : span.last < xs.length) :
    (span.slice xs).length = span.last + 1 - span.first := by
  rw [slice, List.length_take, List.length_drop]
  omega

/-- What is outside a stretch are the elements whose places it does not have. -/
theorem Span.erase_eq_filter {α : Type} {span : Span} {xs : List α} (h : span.first ≤ span.last)
    (hlast : span.last < xs.length) :
    span.erase xs = (xs.zipIdx.filter fun placed => !span.holds placed.2).map Prod.fst := by
  have hbefore : (xs.take span.first).length = span.first :=
    List.length_take_of_le (Nat.le_trans h (Nat.le_of_lt hlast))
  have hwidth : span.first + (span.last + 1 - span.first) = span.last + 1 := by omega
  -- The places come in three runs, of which the stretch has the second.
  have hplaces : xs.zipIdx = (xs.take span.first).zipIdx ++
      ((span.slice xs).zipIdx span.first ++ (xs.drop (span.last + 1)).zipIdx (span.last + 1)) := by
    conv_lhs => rw [span.eq_append_slice h xs]
    rw [List.zipIdx_append, List.zipIdx_append, hbefore, Span.length_slice hlast, Nat.zero_add,
      hwidth]
  rw [hplaces, List.filter_append, List.filter_append,
    filter_zipIdx_eq_self (p := fun i => !span.holds i),
    filter_zipIdx_eq_nil (p := fun i => !span.holds i),
    filter_zipIdx_eq_self (p := fun i => !span.holds i)]
  · rw [List.nil_append, List.map_append, List.zipIdx_map_fst, List.zipIdx_map_fst, erase]
  · intro i hlow _
    simp [holds]
    omega
  · intro i hlow hhigh
    rw [Span.length_slice hlast] at hhigh
    simp [holds]
    omega
  · intro i _ hhigh
    simp [holds]
    omega

/-! ## Resolving -/

/-- Whether the selector stands for positions: an index or a range. -/
def IsPositional : Selector → Prop
  | .index _ | .range _ _ => True
  | .all | .text _ => False

/-- Other selectors resolve to nothing, in every list. -/
theorem resolve_of_not_isPositional (h : ¬ selector.IsPositional) (length : Nat) :
    selector.resolve length = .ok none := by
  cases selector with
  | all => rfl
  | text t => rfl
  | index position => exact absurd trivial h
  | range start stop => exact absurd trivial h

theorem isPositional_of_resolve (h : selector.resolve length ≠ .ok none) :
    selector.IsPositional := by
  by_contra hnot
  exact h (resolve_of_not_isPositional hnot length)

theorem resolve_index_of_inside {position : Nat} (h : 1 ≤ position ∧ position ≤ length) :
    (Selector.index position).resolve length = .ok (some ⟨position - 1, position - 1⟩) := by
  have hcheck : checkPosition position length = .ok () := if_neg (by omega)
  rw [resolve, hcheck]
  rfl

theorem resolve_index_of_not_inside {position : Nat} (h : ¬ (1 ≤ position ∧ position ≤ length)) :
    (Selector.index position).resolve length = .error (.outOfRange position length) := by
  have hcheck : checkPosition position length = .error (.outOfRange position length) :=
    if_pos (by omega)
  rw [resolve, hcheck]
  rfl

theorem resolve_range_of_inside (h : 1 ≤ start ∧ start ≤ length ∧ start ≤ stop) :
    (Selector.range start stop).resolve length =
      .ok (some ⟨start - 1, min stop length - 1⟩) := by
  have hcheck : checkPosition start length = .ok () := if_neg (by omega)
  rw [resolve, if_neg (Nat.not_lt.2 h.2.2), hcheck]
  rfl

/-- The order of a range is looked at before its start. -/
theorem resolve_range_of_reversed (h : stop < start) (length : Nat) :
    (Selector.range start stop).resolve length = .error (.reversedRange start stop) := by
  rw [resolve, if_pos h]

theorem resolve_range_of_not_inside (h : start ≤ stop) (hstart : ¬ (1 ≤ start ∧ start ≤ length)) :
    (Selector.range start stop).resolve length = .error (.outOfRange start length) := by
  have hcheck : checkPosition start length = .error (.outOfRange start length) :=
    if_pos (by omega)
  rw [resolve, if_neg (Nat.not_lt.2 h), hcheck]
  rfl

/-- What positions can resolve to: a stretch within the list that is not empty, or an error that
tells the positions. -/
theorem resolve_cases_of_isPositional (h : selector.IsPositional) (length : Nat) :
    (∃ span, selector.resolve length = .ok (some span) ∧
      span.first ≤ span.last ∧ span.last < length) ∨
    ∃ e, selector.resolve length = .error e ∧
      ((∃ position, e = .outOfRange position length) ∨
        ∃ start stop, e = .reversedRange start stop ∧ stop < start) := by
  cases selector with
  | all => exact absurd h id
  | text t => exact absurd h id
  | index position =>
      by_cases hinside : 1 ≤ position ∧ position ≤ length
      · exact Or.inl ⟨_, resolve_index_of_inside hinside, Nat.le_refl _,
          Nat.sub_one_lt_of_le hinside.1 hinside.2⟩
      · exact Or.inr ⟨_, resolve_index_of_not_inside hinside, Or.inl ⟨position, rfl⟩⟩
  | range start stop =>
      by_cases hreversed : stop < start
      · exact Or.inr ⟨_, resolve_range_of_reversed hreversed length,
          Or.inr ⟨start, stop, rfl, hreversed⟩⟩
      · have hforward : start ≤ stop := Nat.not_lt.1 hreversed
        by_cases hinside : 1 ≤ start ∧ start ≤ length
        · -- Cut down to the length, the end of the range is still not before its start.
          have hstop : start ≤ min stop length := by omega
          have hlast : min stop length - 1 < length := by omega
          exact Or.inl ⟨_, resolve_range_of_inside ⟨hinside.1, hinside.2, hforward⟩,
            Nat.sub_le_sub_right hstop 1, hlast⟩
        · exact Or.inr ⟨_, resolve_range_of_not_inside hforward hinside, Or.inl ⟨start, rfl⟩⟩

/-- What an index or a range resolves to is a stretch within the list, and not an empty one. -/
theorem resolve_bounds (h : selector.resolve length = .ok (some span)) :
    span.first ≤ span.last ∧ span.last < length := by
  have hpositional : selector.IsPositional := isPositional_of_resolve (h.trans_ne nofun)
  rcases resolve_cases_of_isPositional hpositional length with ⟨_, hspan, hbounds⟩ | ⟨_, he, -⟩
  · cases h.symm.trans hspan
    exact hbounds
  · cases h.symm.trans he

/-- A selector that does not resolve is told so by its positions. -/
theorem error_of_resolve {e : Error} (h : selector.resolve length = .error e) :
    (∃ position, e = .outOfRange position length) ∨
      ∃ start stop, e = .reversedRange start stop ∧ stop < start := by
  have hpositional : selector.IsPositional := isPositional_of_resolve (h.trans_ne nofun)
  rcases resolve_cases_of_isPositional hpositional length with ⟨_, hspan, -⟩ | ⟨_, he, hpositions⟩
  · cases h.symm.trans hspan
  · cases h.symm.trans he
    exact hpositions

/-- No selector resolves to a stretch without positions. -/
theorem isEmpty_of_resolve (h : selector.resolve length = .ok (some span)) :
    span.isEmpty = false :=
  decide_eq_false (Nat.not_lt.2 (resolve_bounds h).1)

end GameShelf.Selector
