import GameShelf.Number
import GameShelf.Proofs.Binary64.Integer

/-!
# Numbers of both kinds compared

Integers compare as integers, and as soon as a binary64 number is involved the keys decide of what
the two sides are rounded to.  Rounding keeps the order of integers, so a chain of strict
comparisons is strict whatever the kinds in it (`Number.compare?_trans`).

Equality is another matter: it never holds between the two kinds, and comparing does find such
numbers equal (`Number.MixedTie`).
-/

set_option autoImplicit false

namespace GameShelf

variable {x y : Binary64} {a b c : Number} {n : Int64} {outcome : Ordering}

/-! ## Outcomes of a comparison -/

namespace Binary64

theorem compare?_eq_some_iff :
    x.compare? y = some outcome ↔
      (x.isNaN = false ∧ y.isNaN = false) ∧ compare x.valueKey y.valueKey = outcome := by
  cases hx : x.isNaN <;> cases hy : y.isNaN <;> simp [compare?, hx, hy]

theorem compare?_eq_none_iff : x.compare? y = none ↔ x.isNaN = true ∨ y.isNaN = true := by
  cases hx : x.isNaN <;> cases hy : y.isNaN <;> simp [compare?, hx, hy]

theorem compare?_eq_map_swap (x y : Binary64) : x.compare? y = (y.compare? x).map .swap := by
  simp only [compare?, Bool.or_comm y.isNaN]
  split_ifs
  · rfl
  · exact congrArg some Std.OrientedOrd.eq_swap

theorem compare?_eq_some_eq_iff :
    x.compare? y = some .eq ↔
      (x.isNaN = false ∧ y.isNaN = false) ∧ x.denote = y.denote := by
  rw [compare?_eq_some_iff]
  refine and_congr_right fun ⟨hx, hy⟩ => ?_
  rw [compare_eq_iff_eq, le_antisymm_iff, le_antisymm_iff, ← not_lt, ← not_lt, ← not_lt, ← not_lt,
    denote_lt_denote_iff hx hy, denote_lt_denote_iff hy hx]

/-- The key of a number tells it from all others, but for the two zeros. -/
theorem valueKey_eq_iff :
    x.valueKey = y.valueKey ↔ x = y ∨ x.magnitude = 0 ∧ y.magnitude = 0 := by
  constructor
  · intro h
    -- Keys of different signs meet at zero only.
    have hparts : (x.isNegative = y.isNegative ∧ x.magnitude = y.magnitude) ∨
        x.magnitude = 0 ∧ y.magnitude = 0 := by
      cases hx : x.isNegative <;> cases hy : y.isNegative <;>
        simp only [valueKey, hx, hy, if_true, if_false, eq_self, reduceCtorEq, true_and, false_and,
          false_or] at h ⊢ <;>
        omega
    rcases hparts with ⟨hsign, hmagnitude⟩ | hzeros
    · exact Or.inl (eq_of_isNegative_of_magnitude hsign hmagnitude)
    · exact Or.inr hzeros
  · rintro (rfl | ⟨hx, hy⟩)
    · rfl
    · simp [valueKey, hx, hy]

/-- Two patterns are equal as numbers exactly if comparing finds them equal. -/
theorem equals_iff_compare?_eq : x.equals y = true ↔ x.compare? y = some .eq := by
  have hbits : x.bits = y.bits ↔ x = y := by
    cases x
    cases y
    simp
  rw [compare?_eq_some_iff, compare_eq_iff_eq, valueKey_eq_iff, ← hbits]
  simp [equals]

end Binary64

namespace Number

theorem compare?_float_left (x : Binary64) (b : Number) :
    (Number.float x).compare? b = x.compare? b.toBinary64 := by
  cases b with
  | int n => rfl
  | float y => rfl

theorem compare?_float_right (a : Number) (y : Binary64) :
    a.compare? (.float y) = a.toBinary64.compare? y := by
  cases a with
  | int n => rfl
  | float x => rfl

/-- There is no outcome exactly if a NaN is involved. -/
theorem compare?_eq_none_iff :
    a.compare? b = none ↔ a.toBinary64.isNaN = true ∨ b.toBinary64.isNaN = true := by
  cases a with
  | int m =>
      cases b with
      | int n => simp [compare?, toBinary64, Binary64.isNaN_ofInt]
      | float y =>
          rw [compare?_float_right]
          exact Binary64.compare?_eq_none_iff
  | float x =>
      rw [compare?_float_left]
      exact Binary64.compare?_eq_none_iff

theorem isNaN_of_compare? (h : a.compare? b = some outcome) :
    a.toBinary64.isNaN = false ∧ b.toBinary64.isNaN = false := by
  have hsome : ¬ a.compare? b = none := by
    rw [h]
    exact Option.some_ne_none outcome
  rwa [compare?_eq_none_iff, not_or, Bool.not_eq_true, Bool.not_eq_true] at hsome

theorem compare?_eq_map_swap (a b : Number) : a.compare? b = (b.compare? a).map .swap := by
  cases a with
  | int m =>
      cases b with
      | int n => exact congrArg some Std.OrientedOrd.eq_swap
      | float y =>
          rw [compare?_float_left, compare?_float_right]
          exact Binary64.compare?_eq_map_swap _ _
  | float x =>
      rw [compare?_float_left, compare?_float_right]
      exact Binary64.compare?_eq_map_swap _ _

theorem compare?_lt_iff_gt : a.compare? b = some .lt ↔ b.compare? a = some .gt := by
  rw [compare?_eq_map_swap a b]
  cases b.compare? a with
  | none => simp
  | some outcome => cases outcome <;> simp

/-! ## Chains of strict comparisons -/

/-- One number is less than another because both are integers and it is the smaller one, or by its
key. -/
theorem lt_cases (h : a.compare? b = some .lt) :
    (∃ m n, a = .int m ∧ b = .int n ∧ m.toInt < n.toInt) ∨
      a.toBinary64.valueKey < b.toBinary64.valueKey := by
  cases a with
  | int m =>
      cases b with
      | int n => exact Or.inl ⟨m, n, rfl, rfl, compare_lt_iff_lt.1 (Option.some.inj h)⟩
      | float y =>
          rw [compare?_float_right, Binary64.compare?_eq_some_iff] at h
          exact Or.inr (compare_lt_iff_lt.1 h.2)
  | float x =>
      rw [compare?_float_left, Binary64.compare?_eq_some_iff] at h
      exact Or.inr (compare_lt_iff_lt.1 h.2)

/-- The keys decide, also between two integers: rounding does not exchange them. -/
theorem compare?_lt_of_keys (ha : a.toBinary64.isNaN = false) (hb : b.toBinary64.isNaN = false)
    (h : a.toBinary64.valueKey < b.toBinary64.valueKey) : a.compare? b = some .lt := by
  have hkeys : a.toBinary64.compare? b.toBinary64 = some .lt :=
    Binary64.compare?_eq_some_iff.2 ⟨⟨ha, hb⟩, compare_lt_iff_lt.2 h⟩
  cases a with
  | int m =>
      cases b with
      | int n =>
          have hlt : m.toInt < n.toInt := not_le.1 (mt Binary64.valueKey_ofInt_mono h.not_ge)
          exact congrArg some (compare_lt_iff_lt.2 hlt)
      | float y => rwa [compare?_float_right]
  | float x => rwa [compare?_float_left]

/-- A chain of strict comparisons is strict. -/
theorem compare?_trans (hab : a.compare? b = some .lt) (hbc : b.compare? c = some .lt) :
    a.compare? c = some .lt := by
  have ha := (isNaN_of_compare? hab).1
  have hc := (isNaN_of_compare? hbc).2
  -- Unless all three are integers, one of the two steps is strict between keys.
  rcases lt_cases hab with ⟨l, m, rfl, rfl, hlm⟩ | hkeys
  · rcases lt_cases hbc with ⟨_, n, hm, rfl, hmn⟩ | hkeys'
    · cases hm
      exact congrArg some (compare_lt_iff_lt.2 (hlm.trans hmn))
    · exact compare?_lt_of_keys ha hc ((Binary64.valueKey_ofInt_mono hlm.le).trans_lt hkeys')
  · rcases lt_cases hbc with ⟨m, n, rfl, rfl, hmn⟩ | hkeys'
    · exact compare?_lt_of_keys ha hc (hkeys.trans_le (Binary64.valueKey_ofInt_mono hmn.le))
    · exact compare?_lt_of_keys ha hc (hkeys.trans hkeys')

/-! ## Equality -/

/-- An integer on the one side, and on the other a binary64 number that denotes what the integer is
rounded to. -/
inductive MixedTie : Number → Number → Prop where
  | int_float {n : Int64} {x : Binary64} (hnumber : x.isNaN = false)
      (hround : (Binary64.ofInt n.toInt).denote = x.denote) : MixedTie (.int n) (.float x)
  | float_int {x : Binary64} {n : Int64} (hnumber : x.isNaN = false)
      (hround : x.denote = (Binary64.ofInt n.toInt).denote) : MixedTie (.float x) (.int n)

/-- Every integer is in such a pair. -/
theorem mixedTie_ofInt (n : Int64) : MixedTie (.int n) (.float (.ofInt n.toInt)) :=
  .int_float (Binary64.isNaN_ofInt _) rfl

theorem mixedTie_int_float_iff :
    MixedTie (.int n) (.float x) ↔ (Number.int n).compare? (.float x) = some .eq := by
  rw [compare?_float_right, Binary64.compare?_eq_some_eq_iff]
  constructor
  · intro h
    cases h with
    | int_float hnumber hround => exact ⟨⟨Binary64.isNaN_ofInt _, hnumber⟩, hround⟩
  · rintro ⟨⟨-, hnumber⟩, hround⟩
    exact .int_float hnumber hround

theorem mixedTie_float_int_iff :
    MixedTie (.float x) (.int n) ↔ (Number.float x).compare? (.int n) = some .eq := by
  rw [compare?_float_left, Binary64.compare?_eq_some_eq_iff]
  constructor
  · intro h
    cases h with
    | float_int hnumber hround => exact ⟨⟨hnumber, Binary64.isNaN_ofInt _⟩, hround⟩
  · rintro ⟨⟨hnumber, -⟩, hround⟩
    exact .float_int hnumber hround

/-- Numbers are equal when they compare as equal, ties between the two kinds excepted. -/
theorem equals_iff_compare?_iff (a b : Number) :
    (a.equals b = true ↔ a.compare? b = some .eq) ↔ ¬ a.MixedTie b := by
  cases a with
  | int m =>
      cases b with
      | int n =>
          have hsame : (Number.int m).equals (.int n) = true ↔
              (Number.int m).compare? (.int n) = some .eq := by
            simp [equals, compare?, Int64.toInt_inj]
          exact iff_of_true hsame nofun
      | float y =>
          rw [mixedTie_int_float_iff]
          simp [equals]
  | float x =>
      cases b with
      | int n =>
          rw [mixedTie_float_int_iff]
          simp [equals]
      | float y => exact iff_of_true Binary64.equals_iff_compare?_eq nofun

/-- Less and greater are converse, and less is transitive across the two kinds of number.  Equality
is what comparing finds equal for all pairs but the ties between an integer and a binary64
number. -/
theorem compare?_lawful (a b c : Number) :
    ((a.equals b = true ↔ a.compare? b = some .eq) ↔ ¬ a.MixedTie b) ∧
    (a.compare? b = some .lt ↔ b.compare? a = some .gt) ∧
    (a.compare? b = some .lt → b.compare? c = some .lt → a.compare? c = some .lt) :=
  ⟨equals_iff_compare?_iff a b, compare?_lt_iff_gt, compare?_trans⟩

/-- The integer five and the binary64 number five are not equal and compare as equal; between
integers the latter keeps its place. -/
theorem compare?_lawful_mixed :
    let five : Number := .float ⟨0x4014000000000000⟩
    ¬ ((Number.int 5).equals five = true ↔ (Number.int 5).compare? five = some .eq) ∧
      (Number.int 4).compare? (.int 6) = some .lt := by
  intro five
  have hround : Binary64.ofInt (5 : Int64).toInt = ⟨0x4014000000000000⟩ := by
    decide +kernel
  constructor
  · intro hlaw
    have htie := mixedTie_ofInt 5
    rw [hround] at htie
    exact (compare?_lawful (.int 5) five five).1.1 hlaw htie
  · exact (compare?_lawful (.int 4) five (.int 6)).2.2 (by decide +kernel) (by decide +kernel)

/-- Equality is not always what comparing finds equal. -/
theorem compare?_not_always_lawful :
    ¬ ∀ a b c : Number,
      (a.equals b = true ↔ a.compare? b = some .eq) ∧
      (a.compare? b = some .lt ↔ b.compare? a = some .gt) ∧
      (a.compare? b = some .lt → b.compare? c = some .lt → a.compare? c = some .lt) := by
  intro h
  have hequal : (Number.int 5).compare? (.float ⟨0x4014000000000000⟩) = some .eq := by
    decide +kernel
  have hnot : (Number.int 5).equals (.float ⟨0x4014000000000000⟩) = false := rfl
  rw [← (h (.int 5) (.float ⟨0x4014000000000000⟩) (.int 5)).1, hnot] at hequal
  cases hequal

end Number
end GameShelf
