import GameShelf.Proofs.Selector.Reading

/-!
# Exact positions

Digits of any length are cut down to the largest position before anything is compared.  In a list
shorter than that this never shows: a position that is cut down is beyond the list as well as the
number it was written as, an order that changes is that of a start beyond the list, and an end is
clamped to the list anyway.  So `resolve_written` is stated for the numbers as written.

Places count from zero and positions from one.  `resolveChecked?` resolves with every subtraction
checked, and never finds one that leaves the natural numbers.
-/

set_option autoImplicit false

namespace GameShelf.Selector

variable {position start stop length : Nat} {span : Span}

/-- The stretch from one position to another.  It is said without a subtraction, so no stretch
begins or ends at position zero. -/
def Span.Covers (span : Span) (start stop : Nat) : Prop :=
  span.first + 1 = start ∧ span.last + 1 = stop

instance (span : Span) (start stop : Nat) : Decidable (span.Covers start stop) :=
  inferInstanceAs (Decidable (_ ∧ _))

theorem Span.covers_iff (hstart : 1 ≤ start) (hstop : 1 ≤ stop) :
    span.Covers start stop ↔ span = ⟨start - 1, stop - 1⟩ := by
  cases span with
  | mk first last =>
      simp only [Covers, Span.mk.injEq]
      omega

/-! ## Stretches that positions resolve to -/

theorem resolve_index_eq_ok_iff :
    (Selector.index position).resolve length = .ok (some span) ↔
      (1 ≤ position ∧ position ≤ length) ∧ span.Covers position position := by
  by_cases h : 1 ≤ position ∧ position ≤ length
  · rw [resolve_index_of_inside h, Span.covers_iff h.1 h.1]
    simp [h, eq_comm]
  · rw [resolve_index_of_not_inside h]
    simp [h]

theorem resolve_range_eq_ok_iff :
    (Selector.range start stop).resolve length = .ok (some span) ↔
      (1 ≤ start ∧ start ≤ length ∧ start ≤ stop) ∧ span.Covers start (min stop length) := by
  by_cases h : 1 ≤ start ∧ start ≤ length ∧ start ≤ stop
  · have hstop : 1 ≤ min stop length := by omega
    rw [resolve_range_of_inside h, Span.covers_iff h.1 hstop]
    simp [h, eq_comm]
  · rw [iff_false_right (fun hinside => h hinside.1)]
    by_cases hreversed : stop < start
    · rw [resolve_range_of_reversed hreversed]
      exact nofun
    · rw [resolve_range_of_not_inside (Nat.not_lt.1 hreversed) (by omega)]
      exact nofun

/-! ## Checked subtraction -/

/-- The place of a position; position zero has none. -/
def place? : Nat → Option Nat
  | 0 => none
  | n + 1 => some n

theorem place?_of_pos (h : 1 ≤ position) : place? position = some (position - 1) := by
  cases position with
  | zero => cases h
  | succ n => rfl

/-- The stretch from one position to another, once a check has been passed. -/
def checkedSpan? (check : Except Error Unit) (start stop : Nat) :
    Option (Except Error (Option Span)) :=
  match check with
  | .error e => some (.error e)
  | .ok () => do
    let first ← place? start
    let last ← place? stop
    return .ok (some ⟨first, last⟩)

/-- Resolves with places that need not exist; `none` is a subtraction from zero. -/
def resolveChecked? (selector : Selector) (length : Nat) : Option (Except Error (Option Span)) :=
  match selector with
  | .index position => checkedSpan? (checkPosition position length) position position
  | .range start stop =>
    if stop < start then some (.error (.reversedRange start stop))
    else checkedSpan? (checkPosition start length) start (min stop length)
  | .all | .text _ => some (.ok none)

theorem checkedSpan?_of_ok (hstart : 1 ≤ start) (hstop : 1 ≤ stop) :
    checkedSpan? (.ok ()) start stop = some (.ok (some ⟨start - 1, stop - 1⟩)) := by
  rw [checkedSpan?, place?_of_pos hstart, place?_of_pos hstop]
  rfl

theorem checkPosition_cases (position length : Nat) :
    (1 ≤ position ∧ position ≤ length ∧ checkPosition position length = .ok ()) ∨
      checkPosition position length = .error (.outOfRange position length) := by
  by_cases hposition : position = 0 ∨ length < position
  · exact Or.inr (if_pos hposition)
  · exact Or.inl ⟨by omega, by omega, if_neg hposition⟩

/-- One is never subtracted from zero: the check of the position comes first. -/
theorem resolveChecked?_eq_some (selector : Selector) (length : Nat) :
    selector.resolveChecked? length = some (selector.resolve length) := by
  cases selector with
  | all => rfl
  | text t => rfl
  | index position =>
      rw [resolveChecked?, resolve]
      rcases checkPosition_cases position length with ⟨hlow, -, hcheck⟩ | hcheck
      · rw [hcheck, checkedSpan?_of_ok hlow hlow]
        rfl
      · rw [hcheck]
        rfl
  | range start stop =>
      rw [resolveChecked?, resolve]
      by_cases hreversed : stop < start
      · rw [if_pos hreversed, if_pos hreversed]
      · rw [if_neg hreversed, if_neg hreversed]
        rcases checkPosition_cases start length with ⟨hlow, hhigh, hcheck⟩ | hcheck
        · -- The end is not before the start, and neither is the length.
          have hstop : 1 ≤ min stop length := by omega
          rw [hcheck, checkedSpan?_of_ok hlow hstop]
          rfl
        · rw [hcheck]
          rfl

/-! ## Positions as written -/

/-- Cut down to the largest position, a position is in the list when it was before. -/
theorem resolve_index_min_eq_ok_iff (hlength : length < maxPosition) (n : Nat) :
    (Selector.index (min n maxPosition)).resolve length = .ok (some span) ↔
      (1 ≤ n ∧ n ≤ length) ∧ span.Covers n n := by
  rw [resolve_index_eq_ok_iff, Span.Covers, Span.Covers]
  omega

theorem resolve_index_min_of_not_inside (hlength : length < maxPosition) {n : Nat}
    (h : ¬ (1 ≤ n ∧ n ≤ length)) :
    (Selector.index (min n maxPosition)).resolve length =
      .error (.outOfRange (min n maxPosition) length) :=
  resolve_index_of_not_inside (by omega)

/-- Cut down to the largest position, start and end of a range resolve as they did before. -/
theorem resolve_range_min_eq_ok_iff (hlength : length < maxPosition) (start stop : Nat) :
    (Selector.range (min start maxPosition) (min stop maxPosition)).resolve length =
        .ok (some span) ↔
      (1 ≤ start ∧ start ≤ length ∧ start ≤ stop) ∧ span.Covers start (min stop length) := by
  rw [resolve_range_eq_ok_iff, Span.Covers, Span.Covers]
  omega

/-- A range that gives no stretch is reversed, or it starts outside the list. -/
theorem resolve_range_min_of_not_inside (hlength : length < maxPosition)
    (h : ¬ (1 ≤ start ∧ start ≤ length ∧ start ≤ stop)) :
    (Selector.range (min start maxPosition) (min stop maxPosition)).resolve length =
      if min stop maxPosition < min start maxPosition then
        .error (.reversedRange (min start maxPosition) (min stop maxPosition))
      else .error (.outOfRange (min start maxPosition) length) := by
  split
  next hreversed => exact resolve_range_of_reversed hreversed length
  next hforward => exact resolve_range_of_not_inside (Nat.not_lt.1 hforward) (by omega)

/-- In a list shorter than the largest position, digits of any length resolve as the numbers that
they are.  A position gives its place if it is one of the list, and a range the places from its
start to its end or to the end of the list if it starts in the list and is not reversed; otherwise
there is an error, and it tells the numbers as written if they can be held.  Every stretch lies
within the list and is not empty, and no subtraction leaves the natural numbers. -/
theorem resolve_written (length : Nat) (hlength : length < maxPosition) :
    (∀ digits : Text, digits.AsciiDigitRun →
      let n := Nat.ofDigitChars 10 digits 0
      (∀ span, (parse digits).resolve length = .ok (some span) ↔
        (1 ≤ n ∧ n ≤ length) ∧ span.Covers n n) ∧
      (¬ (1 ≤ n ∧ n ≤ length) → ∃ e, (parse digits).resolve length = .error e ∧
        (n ≤ maxPosition → e = .outOfRange n length))) ∧
    (∀ front rear : Text, front.AsciiDigitRun → rear.AsciiDigitRun →
      let start := Nat.ofDigitChars 10 front 0
      let stop := Nat.ofDigitChars 10 rear 0
      (∀ span, (parse (front ++ '-' :: rear)).resolve length = .ok (some span) ↔
        (1 ≤ start ∧ start ≤ length ∧ start ≤ stop) ∧ span.Covers start (min stop length)) ∧
      (¬ (1 ≤ start ∧ start ≤ length ∧ start ≤ stop) →
        ∃ e, (parse (front ++ '-' :: rear)).resolve length = .error e ∧
          (start ≤ maxPosition → stop ≤ maxPosition →
            (e.category = .invalidArgument ↔ stop < start) ∧
            (start ≤ stop → e = .outOfRange start length)))) ∧
    (∀ (selector : Selector) (span : Span), selector.resolve length = .ok (some span) →
      span.first ≤ span.last ∧ span.last < length) ∧
    (∀ selector : Selector, selector.resolveChecked? length = some (selector.resolve length)) := by
  refine ⟨?_, ?_, fun _ _ => resolve_bounds, fun selector => resolveChecked?_eq_some selector _⟩
  · intro digits hdigits n
    rw [parse_of_asciiDigitRun hdigits]
    refine ⟨fun span => resolve_index_min_eq_ok_iff hlength n, ?_⟩
    intro houtside
    refine ⟨_, resolve_index_min_of_not_inside hlength houtside, ?_⟩
    intro hheld
    rw [Nat.min_eq_left hheld]
  · intro front rear hfront hrear start stop
    rw [parse_of_asciiDigitRuns hfront hrear]
    refine ⟨fun span => resolve_range_min_eq_ok_iff hlength start stop, ?_⟩
    intro houtside
    have hresolve := resolve_range_min_of_not_inside hlength houtside
    by_cases hreversed : min stop maxPosition < min start maxPosition
    · rw [if_pos hreversed] at hresolve
      refine ⟨_, hresolve, ?_⟩
      intro hstart hstop
      rw [Nat.min_eq_left hstart, Nat.min_eq_left hstop] at hreversed
      exact ⟨iff_of_true rfl hreversed, fun hforward => absurd hforward hreversed.not_ge⟩
    · rw [if_neg hreversed] at hresolve
      refine ⟨_, hresolve, ?_⟩
      intro hstart hstop
      rw [Nat.min_eq_left hstart, Nat.min_eq_left hstop] at hreversed
      refine ⟨iff_of_false nofun hreversed, ?_⟩
      intro _
      rw [Nat.min_eq_left hstart]

/-- Leading zeros, an end beyond every position, a start beyond every position, and a range that is
reversed. -/
theorem resolve_written_long :
    3 < maxPosition ∧
      (parse "0002".toList).resolve 3 = .ok (some ⟨1, 1⟩) ∧
      (parse "02-99999999999999999999".toList).resolve 3 = .ok (some ⟨1, 2⟩) ∧
      (∃ e, (parse "99999999999999999999-88888888888888888888".toList).resolve 3 = .error e) ∧
      ∃ e, (parse "5-1".toList).resolve 3 = .error e ∧ e.category = .invalidArgument := by
  have hlength : 3 < maxPosition := by decide
  rcases resolve_written 3 hlength with ⟨hindex, hrange, -, -⟩
  have hclamped := hrange "02".toList "99999999999999999999".toList (by decide) (by decide)
  have hbeyond := hrange "99999999999999999999".toList "88888888888888888888".toList (by decide)
    (by decide)
  have hreversed := hrange "5".toList "1".toList (by decide) (by decide)
  refine ⟨hlength, ?_, ?_, ?_, ?_⟩
  · exact ((hindex "0002".toList (by decide)).1 ⟨1, 1⟩).2 (by decide)
  · exact (hclamped.1 ⟨1, 2⟩).2 (by decide)
  · rcases hbeyond.2 (by decide) with ⟨e, he, -⟩
    exact ⟨e, he⟩
  · rcases hreversed.2 (by decide) with ⟨e, he, htold⟩
    exact ⟨e, he, (htold (by decide) (by decide)).1.2 (by decide)⟩

end GameShelf.Selector
