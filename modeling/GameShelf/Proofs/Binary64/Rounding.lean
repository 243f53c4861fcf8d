import GameShelf.Binary64.Rounding
import GameShelf.Proofs.Binary64.Denotation

/-!
# Rounding goes to the nearest number

A fraction is rounded by taking the nearest multiple of a step, a power of two that is read off its
size.  With that step the multiple fits the format (`units_of_step`), and every number of the format
is either a multiple of the step as well or smaller than all that round with it
(`exists_units_eq`, `units_lt`).  So no number of the format is nearer than the one chosen
(`units_nearest`).
-/

set_option autoImplicit false

namespace GameShelf.Binary64

variable {x y : Binary64} {num den : Nat}

/-! ## The nearest whole number -/

theorem roundHalfEven_cases (num den : Nat) :
    (roundHalfEven num den = num / den ∧ 2 * (num % den) ≤ den) ∨
      (roundHalfEven num den = num / den + 1 ∧ den ≤ 2 * (num % den)) := by
  simp only [roundHalfEven]
  split_ifs <;> omega

theorem roundHalfEven_between (num den : Nat) :
    num / den ≤ roundHalfEven num den ∧ roundHalfEven num den ≤ num / den + 1 := by
  rcases roundHalfEven_cases num den with ⟨hdown, -⟩ | ⟨hup, -⟩ <;> omega

/-- The whole number chosen is at most half a step away. -/
theorem roundHalfEven_near (num : Nat) (hden : 0 < den) :
    2 * num ≤ 2 * (den * roundHalfEven num den) + den ∧
      2 * (den * roundHalfEven num den) ≤ 2 * num + den := by
  have hsplit : den * (num / den) + num % den = num := Nat.div_add_mod num den
  have hrest : num % den < den := Nat.mod_lt num hden
  rcases roundHalfEven_cases num den with ⟨hdown, hhalf⟩ | ⟨hup, hhalf⟩
  · rw [hdown]
    omega
  · rw [hup, Nat.mul_add_one]
    omega

theorem abs_sub_le_of_le_of_le {a b c : Nat} (hcb : c ≤ b) (hba : b ≤ a) :
    |(a : Int) - b| ≤ |(a : Int) - c| := by
  rw [Int.abs_eq_natAbs, Int.abs_eq_natAbs]
  omega

/-- No multiple of the step is nearer than the one chosen. -/
theorem roundHalfEven_nearest (num : Nat) (hden : 0 < den) (t : Nat) :
    |(num : Int) - (den * roundHalfEven num den : Nat)| ≤ |(num : Int) - (den * t : Nat)| := by
  have hnear := roundHalfEven_near num hden
  rw [Int.abs_eq_natAbs, Int.abs_eq_natAbs]
  -- Another multiple is at least a whole step away from the one chosen.
  rcases lt_trichotomy t (roundHalfEven num den) with hlt | rfl | hgt
  · have hstep : den * t + den ≤ den * roundHalfEven num den := Nat.mul_le_mul_left den hlt
    omega
  · exact le_refl _
  · have hstep : den * roundHalfEven num den + den ≤ den * t := Nat.mul_le_mul_left den hgt
    omega

theorem roundHalfEven_of_dvd (hden : 0 < den) (h : den ∣ num) :
    den * roundHalfEven num den = num := by
  have hrest : num % den = 0 := Nat.mod_eq_zero_of_dvd h
  rcases roundHalfEven_cases num den with ⟨hdown, -⟩ | ⟨-, hhalf⟩
  · rw [hdown, Nat.mul_div_cancel' h]
  · omega

/-! ## The step -/

theorem stepExponent_of_lt {units : Nat} (h : units < 2 * fractionSize) : stepExponent units = 0 :=
  if_pos h

theorem log2_eq_of_le {units : Nat} (h : 2 * fractionSize ≤ units) :
    units.log2 = 52 + stepExponent units := by
  have hpos : units ≠ 0 := (Nat.lt_of_lt_of_le (by decide) h).ne'
  have hbits : 53 ≤ units.log2 := (Nat.le_log2 hpos).2 h
  rw [stepExponent, if_neg (Nat.not_lt.2 h)]
  omega

/-- The step is large enough for what remains to have 53 bits. -/
theorem lt_two_pow_stepExponent (units : Nat) :
    units < 2 * fractionSize * 2 ^ stepExponent units := by
  rcases Nat.lt_or_ge units (2 * fractionSize) with hsmall | hlarge
  · rwa [stepExponent_of_lt hsmall, Nat.pow_zero, Nat.mul_one]
  · calc
      units < 2 ^ (units.log2 + 1) := Nat.lt_log2_self
      _ = 2 ^ (53 + stepExponent units) := by rw [log2_eq_of_le hlarge, Nat.add_right_comm]
      _ = 2 * fractionSize * 2 ^ stepExponent units := Nat.pow_add 2 53 _

/-- The step is not larger than that, unless it is one unit. -/
theorem stepExponent_eq_zero_or_le (units : Nat) :
    stepExponent units = 0 ∨ fractionSize * 2 ^ stepExponent units ≤ units := by
  rcases Nat.lt_or_ge units (2 * fractionSize) with hsmall | hlarge
  · exact Or.inl (stepExponent_of_lt hsmall)
  · right
    calc
      fractionSize * 2 ^ stepExponent units = 2 ^ (52 + stepExponent units) :=
        (Nat.pow_add 2 52 _).symm
      _ = 2 ^ units.log2 := by rw [log2_eq_of_le hlarge]
      _ ≤ units := Nat.log2_self_le (Nat.lt_of_lt_of_le (by decide) hlarge).ne'

/-! ## Multiples of a step -/

/-- The number of `m` steps, if `m` has 53 bits, or is just beyond. -/
theorem units_of_step {step m : Nat} (h : x.magnitude = step * fractionSize + m)
    (hm : m ≤ 2 * fractionSize) (hstep : step = 0 ∨ fractionSize ≤ m) :
    x.units = m * 2 ^ step := by
  rcases Nat.lt_or_ge m fractionSize with hsubnormal | hnormal
  · -- No hidden bit: the step is one unit.
    have hzero : step = 0 := by omega
    have hexponent : x.exponentField = 0 := by
      rw [exponentField, h, hzero, Nat.zero_mul, Nat.zero_add, Nat.div_eq_of_lt hsubnormal]
    have hfraction : x.fractionField = m := by
      rw [fractionField, h, hzero, Nat.zero_mul, Nat.zero_add, Nat.mod_eq_of_lt hsubnormal]
    rw [units_of_subnormal hexponent, hfraction, hzero, Nat.pow_zero, Nat.mul_one]
  · rcases hm.lt_or_eq with hlt | heq
    · have hexponent : x.exponentField = step + 1 := by
        rw [exponentField, h]
        simp only [fractionSize] at hnormal hlt ⊢
        omega
      have hfraction : fractionSize + x.fractionField = m := by
        rw [fractionField, h]
        simp only [fractionSize] at hnormal hlt ⊢
        omega
      rw [units_of_normal (by omega), hfraction, hexponent, Nat.add_sub_cancel]
    · -- The carry out of the fraction is in the exponent.
      have hexponent : x.exponentField = step + 2 := by
        rw [exponentField, h, heq]
        simp only [fractionSize]
        omega
      have hfraction : x.fractionField = 0 := by
        rw [fractionField, h, heq]
        simp only [fractionSize]
        omega
      rw [units_of_normal (by omega), hfraction, hexponent, heq, Nat.add_zero,
        Nat.add_sub_assoc (by decide), Nat.pow_succ]
      ring

/-- A number with an exponent beyond the step is a multiple of it. -/
theorem exists_units_eq {step : Nat} (h : step = 0 ∨ step < x.exponentField) :
    ∃ t, x.units = 2 ^ step * t := by
  rcases h with rfl | hlt
  · exact ⟨x.units, by rw [Nat.pow_zero, Nat.one_mul]⟩
  · have hdvd : 2 ^ step ∣ x.units := by
      rw [units_of_normal (by omega)]
      exact Nat.dvd_mul_left_of_dvd (Nat.pow_dvd_pow 2 (by omega)) _
    exact hdvd

/-! ## The nearest number -/

/-- One is two to this power of units. -/
@[irreducible]
def unitExponent : Nat :=
  1074

/-- How many units make one. -/
def unitsPerOne : Nat :=
  2 ^ unitExponent

/-- The exponent of the step at which a fraction is rounded. -/
def roundingStep (num den : Nat) : Nat :=
  stepExponent (num * unitsPerOne / den)

/-- How many steps a fraction is rounded to. -/
def roundedSteps (num den : Nat) : Nat :=
  roundHalfEven (num * unitsPerOne) (den * 2 ^ roundingStep num den)

theorem nearestMagnitude_eq (num den : Nat) :
    nearestMagnitude num den =
      min (roundingStep num den * fractionSize + roundedSteps num den) infinityMagnitude := by
  unfold nearestMagnitude roundedSteps roundingStep unitsPerOne unitExponent
  -- The power of two is too large to be computed.
  generalize 1074 = exponent
  rfl

theorem le_of_roundingStep_ne_zero (hden : 0 < den) (h : roundingStep num den ≠ 0) :
    den * 2 ^ roundingStep num den * fractionSize ≤ num * unitsPerOne := by
  have hle := (stepExponent_eq_zero_or_le (num * unitsPerOne / den)).resolve_left h
  rw [Nat.le_div_iff_mul_le hden] at hle
  calc
    den * 2 ^ roundingStep num den * fractionSize
        = fractionSize * 2 ^ roundingStep num den * den := by ring
    _ ≤ num * unitsPerOne := hle

theorem lt_of_roundingStep (hden : 0 < den) :
    num * unitsPerOne < den * 2 ^ roundingStep num den * (2 * fractionSize) := by
  have hlt := lt_two_pow_stepExponent (num * unitsPerOne / den)
  rw [Nat.div_lt_iff_lt_mul hden] at hlt
  calc
    num * unitsPerOne < 2 * fractionSize * 2 ^ roundingStep num den * den := hlt
    _ = den * 2 ^ roundingStep num den * (2 * fractionSize) := by ring

theorem roundedSteps_le (hden : 0 < den) : roundedSteps num den ≤ 2 * fractionSize := by
  have hfloor : num * unitsPerOne / (den * 2 ^ roundingStep num den) < 2 * fractionSize :=
    Nat.div_lt_of_lt_mul (lt_of_roundingStep hden)
  exact (roundHalfEven_between _ _).2.trans hfloor

theorem le_roundedSteps (hden : 0 < den) :
    roundingStep num den = 0 ∨ fractionSize ≤ roundedSteps num den := by
  refine or_iff_not_imp_left.2 fun hstep => ?_
  have hpos : 0 < den * 2 ^ roundingStep num den := Nat.mul_pos hden (Nat.two_pow_pos _)
  have hfloor : fractionSize ≤ num * unitsPerOne / (den * 2 ^ roundingStep num den) := by
    rw [Nat.le_div_iff_mul_le hpos, Nat.mul_comm]
    exact le_of_roundingStep_ne_zero hden hstep
  exact hfloor.trans (roundHalfEven_between _ _).1

theorem units_of_nearestMagnitude (hden : 0 < den) (h : x.magnitude = nearestMagnitude num den)
    (hfinite : x.magnitude < infinityMagnitude) :
    x.units = roundedSteps num den * 2 ^ roundingStep num den := by
  refine units_of_step ?_ (roundedSteps_le hden) (le_roundedSteps hden)
  rw [nearestMagnitude_eq] at h
  omega

/-- No number of the format is nearer to a fraction than a finite number that it is rounded to. -/
theorem units_nearest (hden : 0 < den) (h : x.magnitude = nearestMagnitude num den)
    (hfinite : x.magnitude < infinityMagnitude) (y : Binary64) :
    |((num * unitsPerOne : Nat) : Int) - (den * x.units : Nat)| ≤
      |((num * unitsPerOne : Nat) : Int) - (den * y.units : Nat)| := by
  have hpos : 0 < den * 2 ^ roundingStep num den := Nat.mul_pos hden (Nat.two_pow_pos _)
  have hx : den * x.units = den * 2 ^ roundingStep num den * roundedSteps num den := by
    rw [units_of_nearestMagnitude hden h hfinite]
    ring
  have hnearest := roundHalfEven_nearest (num * unitsPerOne) hpos
  rw [hx]
  by_cases hstep : roundingStep num den = 0 ∨ roundingStep num den < y.exponentField
  · rcases exists_units_eq hstep with ⟨t, ht⟩
    rw [ht, ← Nat.mul_assoc]
    exact hnearest t
  · -- The other number is smaller than the lowest one with this step, which is on the way.
    rcases not_or.1 hstep with ⟨hne, hexponent⟩
    have hsmall : den * y.units ≤ den * 2 ^ roundingStep num den * fractionSize := by
      calc
        den * y.units ≤ den * (fractionSize * 2 ^ y.exponentField) :=
          Nat.mul_le_mul_left den y.units_lt.le
        _ ≤ den * (fractionSize * 2 ^ roundingStep num den) :=
          Nat.mul_le_mul_left den
            (Nat.mul_le_mul_left _ (Nat.pow_le_pow_right (by decide) (Nat.not_lt.1 hexponent)))
        _ = den * 2 ^ roundingStep num den * fractionSize := by ring
    have hlow := le_of_roundingStep_ne_zero hden hne
    exact (hnearest fractionSize).trans (abs_sub_le_of_le_of_le hsmall hlow)

end GameShelf.Binary64
