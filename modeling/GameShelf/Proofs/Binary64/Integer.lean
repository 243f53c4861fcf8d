import GameShelf.Proofs.Binary64.Rounding

/-!
# Integers as binary64 numbers

A 64-bit integer is far from overflow, so it is rounded to a finite number, and none is nearer to it
(`ofInt_nearest`).  All else follows from that: a number that is not above the integer is not above
the rounded one either, and the same holds from below (`le_ofInt_of_le`, `ofInt_le_of_le`).  So
rounding keeps the order of integers and leaves alone those that are numbers of the format, which
are those with nothing but zeros behind their highest 53 bits (`signedUnits_ofInt_eq_iff`).
-/

set_option autoImplicit false

namespace GameShelf.Binary64

variable {x y : Binary64} {m n : Int64}

/-! ## Sign and magnitude -/

theorem toNat_bits_ofParts (negative : Bool) {magnitude : Nat} (h : magnitude < signWeight) :
    (ofParts negative magnitude).bits.toNat =
      if negative then signWeight + magnitude else magnitude := by
  have hlt : (if negative then signWeight + magnitude else magnitude) < UInt64.size := by
    simp only [signWeight, UInt64.size] at h ⊢
    split_ifs <;> omega
  exact UInt64.toNat_ofNat_of_lt' hlt

theorem magnitude_ofParts (negative : Bool) {magnitude : Nat} (h : magnitude < signWeight) :
    (ofParts negative magnitude).magnitude = magnitude := by
  rw [Binary64.magnitude, toNat_bits_ofParts negative h]
  cases negative with
  | false => exact Nat.mod_eq_of_lt h
  | true =>
      rw [if_pos rfl, Nat.add_mod_left]
      exact Nat.mod_eq_of_lt h

theorem isNegative_ofParts (negative : Bool) {magnitude : Nat} (h : magnitude < signWeight) :
    (ofParts negative magnitude).isNegative = negative := by
  rw [isNegative, toNat_bits_ofParts negative h]
  cases negative with
  | false => simpa using h
  | true => simp

theorem nearestMagnitude_le (num den : Nat) : nearestMagnitude num den ≤ infinityMagnitude :=
  Nat.min_le_right _ _

theorem nearestMagnitude_lt_signWeight (num den : Nat) : nearestMagnitude num den < signWeight :=
  (nearestMagnitude_le num den).trans_lt (by decide)

theorem magnitude_ofInt (n : Int) : (ofInt n).magnitude = nearestMagnitude n.natAbs 1 :=
  magnitude_ofParts _ (nearestMagnitude_lt_signWeight _ _)

theorem isNegative_ofInt (n : Int) : (ofInt n).isNegative = decide (n < 0) :=
  isNegative_ofParts _ (nearestMagnitude_lt_signWeight _ _)

/-- An integer is never rounded to a NaN. -/
theorem isNaN_ofInt (n : Int) : (ofInt n).isNaN = false := by
  rw [isNaN, magnitude_ofInt]
  exact decide_eq_false (nearestMagnitude_le _ _).not_gt

theorem natAbs_toInt_le (n : Int64) : n.toInt.natAbs ≤ 2 ^ 63 := by
  have hlow : -2 ^ 63 ≤ n.toInt := n.le_toInt
  have hhigh : n.toInt < 2 ^ 63 := n.toInt_lt
  omega

theorem roundingStep_le (n : Int64) : roundingStep n.toInt.natAbs 1 ≤ 11 + unitExponent := by
  by_cases hzero : roundingStep n.toInt.natAbs 1 = 0
  · omega
  · have hfraction : fractionSize = 2 ^ 52 := rfl
    have hle := le_of_roundingStep_ne_zero Nat.one_pos hzero
    rw [Nat.one_mul, hfraction, ← pow_add, unitsPerOne] at hle
    have hpow : 2 ^ (roundingStep n.toInt.natAbs 1 + 52) ≤ 2 ^ (63 + unitExponent) := by
      rw [pow_add 2 63]
      exact hle.trans (Nat.mul_le_mul_right _ (natAbs_toInt_le n))
    have hexponents := (Nat.pow_le_pow_iff_right (by decide)).1 hpow
    omega

/-- A 64-bit integer is far from overflow. -/
theorem magnitude_ofInt_lt (n : Int64) : (ofInt n.toInt).magnitude < infinityMagnitude := by
  have hsteps : roundedSteps n.toInt.natAbs 1 ≤ 2 * fractionSize := roundedSteps_le Nat.one_pos
  have hstep := roundingStep_le n
  rw [magnitude_ofInt, nearestMagnitude_eq]
  refine (Nat.min_le_left _ _).trans_lt ?_
  unfold unitExponent at hstep
  simp only [fractionSize, infinityMagnitude] at hsteps ⊢
  omega

/-! ## Nearness -/

theorem unitsPerOne_pos : 0 < unitsPerOne :=
  Nat.two_pow_pos unitExponent

/-- An integer in units. -/
def unitsOfInt (n : Int64) : Int :=
  n.toInt * unitsPerOne

theorem unitsOfInt_eq (n : Int64) :
    unitsOfInt n =
      if n.toInt < 0 then -((n.toInt.natAbs * unitsPerOne : Nat) : Int)
      else (n.toInt.natAbs * unitsPerOne : Nat) := by
  unfold unitsOfInt
  push_cast
  split_ifs with hneg
  · rw [abs_of_neg hneg, neg_mul, neg_neg]
  · rw [abs_of_nonneg (not_lt.1 hneg)]

theorem signedUnits_ofInt (n : Int64) :
    (ofInt n.toInt).signedUnits =
      if n.toInt < 0 then -((ofInt n.toInt).units : Int) else (ofInt n.toInt).units := by
  rw [signedUnits, isNegative_ofInt]
  simp only [decide_eq_true_eq]

theorem unitsOfInt_lt_iff : unitsOfInt m < unitsOfInt n ↔ m.toInt < n.toInt :=
  Int.mul_lt_mul_right (Int.natCast_pos.2 unitsPerOne_pos)

/-- No number of the format is nearer to an integer than the one that it is rounded to. -/
theorem ofInt_nearest (n : Int64) (y : Binary64) :
    |unitsOfInt n - (ofInt n.toInt).signedUnits| ≤ |unitsOfInt n - y.signedUnits| := by
  have hnearest : ∀ y : Binary64,
      |((n.toInt.natAbs * unitsPerOne : Nat) : Int) - (ofInt n.toInt).units| ≤
        |((n.toInt.natAbs * unitsPerOne : Nat) : Int) - y.units| := by
    intro y
    have h := units_nearest Nat.one_pos (magnitude_ofInt n.toInt) (magnitude_ofInt_lt n) y
    rwa [Nat.one_mul, Nat.one_mul] at h
  have hy := hnearest y
  -- A number of the other sign is not nearer than zero.
  have hzero : |((n.toInt.natAbs * unitsPerOne : Nat) : Int) - (ofInt n.toInt).units| ≤
      |((n.toInt.natAbs * unitsPerOne : Nat) : Int) - (0 : Nat)| := hnearest (signedZero false)
  rw [unitsOfInt_eq, signedUnits_ofInt, signedUnits]
  simp only [Int.abs_eq_natAbs] at hy hzero ⊢
  split_ifs <;> omega

/-- What is not above an integer is not above the number that it is rounded to. -/
theorem le_ofInt_of_le (h : y.signedUnits ≤ unitsOfInt n) :
    y.signedUnits ≤ (ofInt n.toInt).signedUnits := by
  have hnearest := ofInt_nearest n y
  rw [Int.abs_eq_natAbs, Int.abs_eq_natAbs] at hnearest
  omega

/-- What is not below an integer is not below the number that it is rounded to. -/
theorem ofInt_le_of_le (h : unitsOfInt n ≤ y.signedUnits) :
    (ofInt n.toInt).signedUnits ≤ y.signedUnits := by
  have hnearest := ofInt_nearest n y
  rw [Int.abs_eq_natAbs, Int.abs_eq_natAbs] at hnearest
  omega

/-- Rounding keeps the order of integers. -/
theorem signedUnits_ofInt_mono (h : m.toInt ≤ n.toInt) :
    (ofInt m.toInt).signedUnits ≤ (ofInt n.toInt).signedUnits := by
  rcases h.lt_or_eq with hlt | heq
  · -- The midpoint of the two numbers would lie above the one integer and below the other.
    have hunits : unitsOfInt m < unitsOfInt n := unitsOfInt_lt_iff.2 hlt
    have hm := ofInt_nearest m (ofInt n.toInt)
    have hn := ofInt_nearest n (ofInt m.toInt)
    simp only [Int.abs_eq_natAbs] at hm hn
    omega
  · rw [heq]

theorem valueKey_le_iff : x.valueKey ≤ y.valueKey ↔ x.signedUnits ≤ y.signedUnits := by
  rw [← not_lt, ← not_lt, signedUnits_lt_signedUnits_iff]

theorem valueKey_ofInt_mono (h : m.toInt ≤ n.toInt) :
    (ofInt m.toInt).valueKey ≤ (ofInt n.toInt).valueKey :=
  valueKey_le_iff.2 (signedUnits_ofInt_mono h)

/-- In the total order, too, rounding keeps the order of integers. -/
theorem totalKey_ofInt_mono (h : m.toInt ≤ n.toInt) :
    (ofInt m.toInt).totalKey ≤ (ofInt n.toInt).totalKey := by
  have hkeys := valueKey_ofInt_mono h
  unfold valueKey totalKey at *
  rw [isNegative_ofInt, isNegative_ofInt] at *
  simp only [decide_eq_true_eq] at *
  split_ifs at * <;> omega

/-! ## Integers that are kept -/

theorem log2_mul_two_pow {size : Nat} (hsize : size ≠ 0) (exponent : Nat) :
    (size * 2 ^ exponent).log2 = size.log2 + exponent := by
  have hpos : size * 2 ^ exponent ≠ 0 := Nat.mul_ne_zero hsize (Nat.two_pow_pos _).ne'
  rw [Nat.log2_eq_iff hpos, Nat.add_right_comm, pow_add, pow_add]
  exact ⟨Nat.mul_le_mul_right _ (Nat.log2_self_le hsize),
    Nat.mul_lt_mul_of_pos_right Nat.lt_log2_self (Nat.two_pow_pos _)⟩

theorem roundingStep_eq {size : Nat} (hsize : size ≠ 0) :
    roundingStep size 1 + 52 = size.log2 + unitExponent := by
  have hlarge : 2 * fractionSize ≤ size * unitsPerOne := by
    calc
      2 * fractionSize = 1 * 2 ^ 53 := rfl
      _ ≤ size * unitsPerOne := by
        refine Nat.mul_le_mul (Nat.one_le_iff_ne_zero.2 hsize) ?_
        refine Nat.pow_le_pow_right (by decide) ?_
        unfold unitExponent
        decide
  have hlog := log2_eq_of_le hlarge
  rw [unitsPerOne, log2_mul_two_pow hsize, ← unitsPerOne] at hlog
  rw [roundingStep, Nat.div_one, hlog, Nat.add_comm]

theorem two_pow_roundingStep_dvd_iff (size : Nat) :
    2 ^ roundingStep size 1 ∣ size * unitsPerOne ↔ 2 ^ (size.log2 - 52) ∣ size := by
  rcases eq_or_ne size 0 with rfl | hsize
  · simp
  · have hstep := roundingStep_eq hsize
    rcases Nat.le_total size.log2 52 with hfew | hmany
    · -- A whole number of few bits is a multiple of any step that it is rounded at.
      have hdvd : 2 ^ roundingStep size 1 ∣ size * unitsPerOne :=
        Nat.dvd_mul_left_of_dvd (Nat.pow_dvd_pow 2 (by omega)) size
      have hone : 2 ^ (size.log2 - 52) = 1 := by
        rw [Nat.sub_eq_zero_of_le hfew, pow_zero]
      simp only [hdvd, hone, one_dvd]
    · have hsum : roundingStep size 1 = size.log2 - 52 + unitExponent := by
        omega
      have hsplit : 2 ^ roundingStep size 1 = 2 ^ (size.log2 - 52) * unitsPerOne := by
        rw [unitsPerOne, ← pow_add, hsum]
      rw [hsplit, Nat.mul_dvd_mul_iff_right unitsPerOne_pos]

theorem units_ofInt_eq_iff (n : Int64) :
    (ofInt n.toInt).units = n.toInt.natAbs * unitsPerOne ↔
      2 ^ (n.toInt.natAbs.log2 - 52) ∣ n.toInt.natAbs := by
  have hunits : (ofInt n.toInt).units =
      2 ^ roundingStep n.toInt.natAbs 1 * roundedSteps n.toInt.natAbs 1 := by
    rw [units_of_nearestMagnitude Nat.one_pos (magnitude_ofInt _) (magnitude_ofInt_lt n),
      Nat.mul_comm]
  rw [hunits, ← two_pow_roundingStep_dvd_iff]
  constructor
  · intro heq
    exact ⟨_, heq.symm⟩
  · intro hdvd
    rw [roundedSteps, Nat.one_mul]
    exact roundHalfEven_of_dvd (Nat.two_pow_pos _) hdvd

/-- An integer is kept as it is exactly if all but its highest 53 bits are zero. -/
theorem signedUnits_ofInt_eq_iff (n : Int64) :
    (ofInt n.toInt).signedUnits = unitsOfInt n ↔
      2 ^ (n.toInt.natAbs.log2 - 52) ∣ n.toInt.natAbs := by
  rw [← units_ofInt_eq_iff, signedUnits_ofInt, unitsOfInt_eq]
  split_ifs <;> omega

/-! ## Integers as extended real numbers -/

/-- An integer as an extended real number. -/
noncomputable def denoteInt (n : Int64) : EReal :=
  ((n.toInt : ℝ) : EReal)

theorem denoteInt_eq (n : Int64) : denoteInt n = ((unitsOfInt n / 2 ^ 1074 : ℝ) : EReal) := by
  have hscale : (unitsPerOne : ℝ) = 2 ^ 1074 := by
    rw [unitsPerOne, Nat.cast_pow, Nat.cast_ofNat, unitExponent]
  rw [denoteInt, unitsOfInt, Int.cast_mul, Int.cast_natCast, hscale,
    mul_div_cancel_right₀ _ (by positivity)]

theorem denote_ofInt (n : Int64) :
    (ofInt n.toInt).denote = (((ofInt n.toInt).signedUnits / 2 ^ 1074 : ℝ) : EReal) :=
  if_neg (magnitude_ofInt_lt n).ne

theorem coe_units_le_iff {a b : Int} :
    ((a / 2 ^ 1074 : ℝ) : EReal) ≤ ((b / 2 ^ 1074 : ℝ) : EReal) ↔ a ≤ b := by
  rw [EReal.coe_le_coe_iff, div_le_div_iff_of_pos_right (by positivity), Int.cast_le]

theorem denote_le_ofInt_of_le (hx : x.isNaN = false) (h : x.denote ≤ denoteInt n) :
    x.denote ≤ (ofInt n.toInt).denote := by
  rcases denote_cases hx with ⟨-, hlow⟩ | ⟨-, hhigh⟩ | ⟨-, -, hnumber⟩
  · rw [hlow]
    exact bot_le
  · rw [hhigh, denoteInt_eq] at h
    exact absurd h (EReal.coe_lt_top _).not_ge
  · rw [hnumber, denoteInt_eq, coe_units_le_iff] at h
    rw [hnumber, denote_ofInt, coe_units_le_iff]
    exact le_ofInt_of_le h

theorem denote_ofInt_le_of_le (hx : x.isNaN = false) (h : denoteInt n ≤ x.denote) :
    (ofInt n.toInt).denote ≤ x.denote := by
  rcases denote_cases hx with ⟨-, hlow⟩ | ⟨-, hhigh⟩ | ⟨-, -, hnumber⟩
  · rw [hlow, denoteInt_eq] at h
    exact absurd h (EReal.bot_lt_coe _).not_ge
  · rw [hhigh]
    exact le_top
  · rw [hnumber, denoteInt_eq, coe_units_le_iff] at h
    rw [hnumber, denote_ofInt, coe_units_le_iff]
    exact ofInt_le_of_le h

theorem denote_ofInt_eq_iff (n : Int64) :
    (ofInt n.toInt).denote = denoteInt n ↔ 2 ^ (n.toInt.natAbs.log2 - 52) ∣ n.toInt.natAbs := by
  rw [← signedUnits_ofInt_eq_iff, denote_ofInt, denoteInt_eq, le_antisymm_iff, coe_units_le_iff,
    coe_units_le_iff, ← le_antisymm_iff]

/-- Up to `2 ^ 53` there are no bits to lose. -/
theorem denote_ofInt_of_natAbs_le (h : n.toInt.natAbs ≤ 2 ^ 53) :
    (ofInt n.toInt).denote = denoteInt n := by
  rw [denote_ofInt_eq_iff]
  rcases h.lt_or_eq with hlt | heq
  · have hlog : n.toInt.natAbs.log2 - 52 = 0 := by
      rcases eq_or_ne n.toInt.natAbs 0 with hzero | hne
      · rw [hzero]
        rfl
      · have hbits := (Nat.log2_lt hne).2 hlt
        omega
    rw [hlog, pow_zero]
    exact one_dvd _
  · rw [heq]
    decide

theorem denoteInt_inj : denoteInt m = denoteInt n ↔ m.toInt = n.toInt := by
  rw [denoteInt, denoteInt, EReal.coe_eq_coe_iff, Int.cast_inj]

end GameShelf.Binary64
