import GameShelf.Binary64.Basic
import Mathlib.Data.EReal.Basic

/-!
# The number that a bit pattern denotes

A pattern is compared by its key, which is its magnitude with a sign, and the magnitude is an
exponent field above a fraction field.  What it denotes is an extended real number: the fraction,
completed by its hidden bit and scaled by the exponent, or one of the infinities, or nothing for a
NaN.

The keys of two numbers stand to each other as the numbers denoted do.  Within one exponent this is
the order of the fractions.  From one exponent to the next it is that no fraction reaches the lowest
number of the next exponent (`units_lt`, `le_units`), and for the lowest of all that the numbers
below the hidden bit go on with the same step.
-/

set_option autoImplicit false

namespace GameShelf.Binary64

variable {x y : Binary64}

/-! ## Absolute values -/

theorem units_of_subnormal (h : x.exponentField = 0) : x.units = x.fractionField :=
  if_pos h

theorem units_of_normal (h : x.exponentField ≠ 0) :
    x.units = (fractionSize + x.fractionField) * 2 ^ (x.exponentField - 1) :=
  if_neg h

theorem fractionField_lt (x : Binary64) : x.fractionField < fractionSize :=
  Nat.mod_lt _ (by decide)

theorem magnitude_eq (x : Binary64) :
    x.magnitude = fractionSize * x.exponentField + x.fractionField :=
  (Nat.div_add_mod _ _).symm

theorem two_pow_exponentField (h : x.exponentField ≠ 0) :
    2 ^ x.exponentField = 2 * 2 ^ (x.exponentField - 1) := by
  rw [← Nat.pow_succ', Nat.succ_eq_add_one, Nat.sub_one_add_one h]

/-- A number lies below the lowest one of the next exponent. -/
theorem units_lt (x : Binary64) : x.units < fractionSize * 2 ^ x.exponentField := by
  have hfraction : x.fractionField < fractionSize := x.fractionField_lt
  by_cases hexponent : x.exponentField = 0
  · rw [units_of_subnormal hexponent, hexponent, Nat.pow_zero, Nat.mul_one]
    exact hfraction
  · calc
      x.units = (fractionSize + x.fractionField) * 2 ^ (x.exponentField - 1) :=
        units_of_normal hexponent
      _ < (fractionSize * 2) * 2 ^ (x.exponentField - 1) :=
        Nat.mul_lt_mul_of_pos_right (by omega) (Nat.two_pow_pos _)
      _ = fractionSize * 2 ^ x.exponentField := by
        rw [two_pow_exponentField hexponent, Nat.mul_assoc]

/-- With the hidden bit a number is not below the lowest one of its exponent. -/
theorem le_units (h : x.exponentField ≠ 0) :
    fractionSize * 2 ^ (x.exponentField - 1) ≤ x.units := by
  rw [units_of_normal h]
  exact Nat.mul_le_mul_right _ (Nat.le_add_right _ _)

theorem units_lt_units (h : x.magnitude < y.magnitude) : x.units < y.units := by
  have hx : x.magnitude = fractionSize * x.exponentField + x.fractionField := x.magnitude_eq
  have hy : y.magnitude = fractionSize * y.exponentField + y.fractionField := y.magnitude_eq
  have hexponents : x.exponentField ≤ y.exponentField := Nat.div_le_div_right h.le
  rcases hexponents.eq_or_lt with hsame | hless
  · -- One exponent: the fractions decide.
    have hfractions : x.fractionField < y.fractionField := by
      rw [hx, hy, hsame] at h
      omega
    by_cases hexponent : x.exponentField = 0
    · rw [units_of_subnormal hexponent, units_of_subnormal (hsame ▸ hexponent)]
      exact hfractions
    · rw [units_of_normal hexponent, units_of_normal (hsame ▸ hexponent), hsame]
      exact Nat.mul_lt_mul_of_pos_right (by omega) (Nat.two_pow_pos _)
  · have hstep : 2 ^ x.exponentField ≤ 2 ^ (y.exponentField - 1) :=
      Nat.pow_le_pow_right (by decide) (by omega)
    calc
      x.units < fractionSize * 2 ^ x.exponentField := x.units_lt
      _ ≤ fractionSize * 2 ^ (y.exponentField - 1) := Nat.mul_le_mul_left _ hstep
      _ ≤ y.units := le_units (by omega)

theorem units_congr (h : x.magnitude = y.magnitude) : x.units = y.units := by
  unfold units exponentField fractionField
  rw [h]

theorem units_lt_units_iff : x.units < y.units ↔ x.magnitude < y.magnitude := by
  constructor
  · intro h
    by_contra hnot
    rcases (Nat.not_lt.1 hnot).eq_or_lt with heq | hlt
    · exact h.ne (units_congr heq.symm)
    · exact h.asymm (units_lt_units hlt)
  · exact units_lt_units

theorem units_pos_iff : 0 < x.units ↔ 0 < x.magnitude :=
  units_lt_units_iff (x := signedZero false)

/-! ## Values -/

theorem signedUnits_lt_signedUnits_iff :
    x.signedUnits < y.signedUnits ↔ x.valueKey < y.valueKey := by
  have hx : 0 < x.units ↔ 0 < x.magnitude := units_pos_iff
  have hy : 0 < y.units ↔ 0 < y.magnitude := units_pos_iff
  have hxy : x.units < y.units ↔ x.magnitude < y.magnitude := units_lt_units_iff
  have hyx : y.units < x.units ↔ y.magnitude < x.magnitude := units_lt_units_iff
  -- Two numbers of one sign by their absolute values; otherwise the only ties are the zeros.
  cases hxsign : x.isNegative <;> cases hysign : y.isNegative <;>
    simp only [signedUnits, valueKey, hxsign, hysign, if_true, Bool.false_eq_true, if_false] <;>
    omega

/-- The extended real number that a pattern denotes.  A NaN denotes no number; its value here has no
meaning. -/
noncomputable def denote (x : Binary64) : EReal :=
  if x.magnitude = infinityMagnitude then if x.isNegative then ⊥ else ⊤
  else ((x.signedUnits / 2 ^ 1074 : ℝ) : EReal)

theorem denote_signedZero (negative : Bool) : (signedZero negative).denote = 0 := by
  have hfinite : (signedZero negative).magnitude ≠ infinityMagnitude := by
    cases negative <;> decide
  have hunits : (signedZero negative).signedUnits = 0 := by
    cases negative <;> decide
  rw [denote, if_neg hfinite, hunits, Int.cast_zero, zero_div, EReal.coe_zero]

/-- The lowest key is that of one infinity and the highest that of the other; the keys in between
are those of the real numbers. -/
theorem denote_cases (h : x.isNaN = false) :
    (x.valueKey = -(infinityMagnitude : Int) ∧ x.denote = ⊥) ∨
      (x.valueKey = infinityMagnitude ∧ x.denote = ⊤) ∨
      (-(infinityMagnitude : Int) < x.valueKey ∧ x.valueKey < infinityMagnitude ∧
        x.denote = ((x.signedUnits / 2 ^ 1074 : ℝ) : EReal)) := by
  have hle : x.magnitude ≤ infinityMagnitude := by
    simpa [isNaN] using h
  by_cases hinfinite : x.magnitude = infinityMagnitude
  · cases hsign : x.isNegative with
    | true => exact Or.inl (by simp [valueKey, denote, hsign, hinfinite])
    | false => exact Or.inr (Or.inl (by simp [valueKey, denote, hsign, hinfinite]))
  · have hdenote : x.denote = ((x.signedUnits / 2 ^ 1074 : ℝ) : EReal) := if_neg hinfinite
    have hlt : x.magnitude < infinityMagnitude := lt_of_le_of_ne hle hinfinite
    cases hsign : x.isNegative <;>
      simp only [valueKey, hsign, if_true, Bool.false_eq_true, if_false, hdenote, and_true] <;>
      omega

/-- The numbers denoted stand to each other as their keys. -/
theorem denote_lt_denote_iff (hx : x.isNaN = false) (hy : y.isNaN = false) :
    x.denote < y.denote ↔ x.valueKey < y.valueKey := by
  have hpos : (0 : Int) < infinityMagnitude := by decide
  rcases denote_cases hx with ⟨hxkey, hxnum⟩ | ⟨hxkey, hxnum⟩ | ⟨hxlow, hxhigh, hxnum⟩
  · rcases denote_cases hy with ⟨hykey, hynum⟩ | ⟨hykey, hynum⟩ | ⟨hylow, -, hynum⟩
    · simp [hxkey, hxnum, hykey, hynum]
    · simp only [hxkey, hxnum, hykey, hynum, bot_lt_top, true_iff]
      omega
    · simp [hxkey, hxnum, hynum, hylow]
  · -- Nothing is above infinity.
    rcases denote_cases hy with ⟨hykey, -⟩ | ⟨hykey, -⟩ | ⟨-, hyhigh, -⟩ <;>
      simp only [hxnum, not_top_lt, false_iff] <;> omega
  · rcases denote_cases hy with ⟨hykey, hynum⟩ | ⟨hykey, hynum⟩ | ⟨-, -, hynum⟩
    · simp only [hynum, not_lt_bot, false_iff]
      omega
    · simp [hxnum, hykey, hynum, hxhigh]
    · rw [hxnum, hynum, EReal.coe_lt_coe_iff, div_lt_div_iff_of_pos_right (by positivity),
        Int.cast_lt, signedUnits_lt_signedUnits_iff]

/-- Comparing two patterns compares the numbers denoted. -/
theorem compare?_eq_compare_denote (hx : x.isNaN = false) (hy : y.isNaN = false) :
    x.compare? y = some (compare x.denote y.denote) := by
  have hxy : x.denote < y.denote ↔ x.valueKey < y.valueKey := denote_lt_denote_iff hx hy
  have hyx : y.denote < x.denote ↔ y.valueKey < x.valueKey := denote_lt_denote_iff hy hx
  have hkeys : x.compare? y = some (compare x.valueKey y.valueKey) := by
    simp [compare?, hx, hy]
  rw [hkeys]
  rcases lt_trichotomy x.valueKey y.valueKey with hlt | heq | hgt
  · rw [compare_lt_iff_lt.2 hlt, compare_lt_iff_lt.2 (hxy.2 hlt)]
  · have hsame : x.denote = y.denote :=
      le_antisymm (not_lt.1 (mt hyx.1 heq.not_gt)) (not_lt.1 (mt hxy.1 heq.not_lt))
    rw [compare_eq_iff_eq.2 heq, compare_eq_iff_eq.2 hsame]
  · rw [compare_gt_iff_gt.2 hgt, compare_gt_iff_gt.2 (hyx.2 hgt)]

end GameShelf.Binary64
