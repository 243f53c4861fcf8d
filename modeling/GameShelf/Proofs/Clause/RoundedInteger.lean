import GameShelf.Proofs.Filter.Exact

/-!
# Integers in clauses on binary64 fields

A clause that is built from parts may compare a field of binary64 numbers with an integer, and the
integer is rounded first.  No number of the format lies strictly between an integer and the number
that it is rounded to, so a test can be wrong for one number only, namely the rounded integer
itself.  Whether it is wrong there depends on the operator and on the direction of the rounding
(`Operator.Misjudges`).

An integer of which all but the highest 53 bits are zero is not rounded, and then no test is wrong.
-/

set_option autoImplicit false

namespace GameShelf

/-! ## Comparing with a rounded number -/

namespace Operator

variable {α : Type*} [LinearOrder α] {a b c rounded exact : α}

/-- Whether the operator answers wrongly for the rounded number itself. -/
def Misjudges (rounded exact : α) : Operator → Prop
  | .equal | .notEqual => rounded ≠ exact
  | .less | .greaterEqual => rounded < exact
  | .greater | .lessEqual => exact < rounded
  | .contains => False

theorem misjudges_iff (operator : Operator) :
    operator.Misjudges rounded exact ↔
      ¬ (operator.Relates rounded rounded ↔ operator.Relates rounded exact) := by
  cases operator with
  | equal => simp [Misjudges, Relates]
  | notEqual => simp [Misjudges, Relates]
  | greater => simp [Misjudges, Relates]
  | greaterEqual => simp [Misjudges, Relates]
  | less => simp [Misjudges, Relates]
  | lessEqual => simp [Misjudges, Relates]
  | contains => simp [Misjudges, Relates]

/-- The relations of a linear order depend on the outcome of a comparison only. -/
theorem relates_congr (h : compare a b = compare a c) (operator : Operator) :
    operator.Relates a b ↔ operator.Relates a c := by
  rw [← holds_compare_iff, ← holds_compare_iff, h]

/-- If nothing lies between a number and its rounded form, comparing with the rounded form is wrong
for nothing else. -/
theorem relates_rounded_iff (hbelow : a ≤ exact → a ≤ rounded) (habove : exact ≤ a → rounded ≤ a)
    (operator : Operator) :
    (operator.Relates a rounded ↔ operator.Relates a exact) ↔
      ¬ (a = rounded ∧ operator.Misjudges rounded exact) := by
  rcases lt_trichotomy a rounded with hlt | rfl | hgt
  · -- Below the rounded number there is nothing that is not below the exact one.
    have hexact : a < exact := not_le.1 (mt habove hlt.not_ge)
    have hsame : compare a rounded = compare a exact := by
      rw [compare_lt_iff_lt.2 hlt, compare_lt_iff_lt.2 hexact]
    simp only [relates_congr hsame, hlt.ne, false_and, not_false_iff]
  · rw [misjudges_iff]
    simp only [true_and, not_not]
  · have hexact : exact < a := not_le.1 (mt hbelow hgt.not_ge)
    have hsame : compare a rounded = compare a exact := by
      rw [compare_gt_iff_gt.2 hgt, compare_gt_iff_gt.2 hexact]
    simp only [relates_congr hsame, hgt.ne', false_and, not_false_iff]

end Operator

/-! ## Tests with an integer -/

namespace Clause

variable {x : Binary64} {n : Int64} {clause : Clause} {game : Game}

/-- An integer is rounded and then compared as a binary64 number. -/
theorem test_rounded_iff (hfield : clause.field.value game = .number (.float x))
    (hvalue : clause.value = .number (.int n)) (hnumber : x.isNaN = false) :
    clause.test game = true ↔
      clause.operator.Relates x.denote (Binary64.ofInt n.toInt).denote := by
  rw [test_of_numbers hfield hvalue]
  exact Operator.holdsFor_compare?_iff_relates _ hnumber (Binary64.isNaN_ofInt _)

/-- A clause on a float field can be built with any integer and compares with the number to which
that is rounded.  So it decides the relation to the integer itself for all numbers but one: the
rounded integer, where an operator answers wrongly that sees the difference.  There is none exactly
if all but the highest 53 bits of the integer are zero. -/
theorem test_integer_iff_relates (field : Field) (hkind : field.kind = .float)
    (operator : Operator) (hoperator : operator ≠ .contains) (n : Int64) :
    (∃ clause, build field operator (.number (.int n)) = .ok clause ∧
      ∀ game, ∃ x, field.value game = .number (.float x) ∧ (x.isNaN = false →
        (clause.test game = true ↔
          operator.Relates x.denote (Binary64.ofInt n.toInt).denote) ∧
        ((clause.test game = true ↔ operator.Relates x.denote (Binary64.denoteInt n)) ↔
          ¬ (x.denote = (Binary64.ofInt n.toInt).denote ∧
            operator.Misjudges (Binary64.ofInt n.toInt).denote (Binary64.denoteInt n))))) ∧
    ((Binary64.ofInt n.toInt).denote = Binary64.denoteInt n ↔
      2 ^ (n.toInt.natAbs.log2 - 52) ∣ n.toInt.natAbs) := by
  refine ⟨?_, Binary64.denote_ofInt_eq_iff n⟩
  have happlies : operator.appliesTo field.kind = true :=
    Operator.appliesTo_iff.2 fun hcontains => absurd hcontains hoperator
  have haccepted : field.kind.accepts (Value.number (.int n)).kind = true := by
    rw [hkind]
    rfl
  rcases exists_build happlies haccepted with ⟨clause, hbuild, rfl, rfl, hvalue⟩
  refine ⟨clause, hbuild, fun game => ?_⟩
  rcases Value.eq_float_of_kind ((clause.field.kind_value game).trans hkind) with ⟨x, hx⟩
  refine ⟨x, hx, fun hnumber => ?_⟩
  have htest := test_rounded_iff hx hvalue hnumber
  refine ⟨htest, ?_⟩
  rw [htest]
  exact Operator.relates_rounded_iff (Binary64.denote_le_ofInt_of_le hnumber)
    (Binary64.denote_ofInt_le_of_le hnumber) _

/-- The first integer that is no binary64 number is rounded to its predecessor, which then passes a
test of being equal and fails one of being less. -/
theorem test_integer_above_two_pow :
    let n : Int64 := 9007199254740993
    let game : Game := ⟨"Go".toList, 1, 2, 2, 30, 180, ⟨0x4340000000000000⟩, 23, ⟨0⟩, -2200⟩
    (∃ clause, build .difficulty .equal (.number (.int n)) = .ok clause ∧
      clause.test game = true) ∧
    (∃ clause, build .difficulty .less (.number (.int n)) = .ok clause ∧
      clause.test game = false) ∧
    (Binary64.ofInt n.toInt).denote ≠ Binary64.denoteInt n := by
  intro n game
  have hround : (⟨0x4340000000000000⟩ : Binary64) = .ofInt n.toInt := by
    decide +kernel
  have hnumber : (⟨0x4340000000000000⟩ : Binary64).isNaN = false := by
    decide
  rcases test_integer_iff_relates .difficulty rfl .equal (by decide) n with
    ⟨⟨equal, hequal, hequaltest⟩, hkept⟩
  rcases test_integer_iff_relates .difficulty rfl .less (by decide) n with
    ⟨⟨less, hless, hlesstest⟩, -⟩
  refine ⟨⟨equal, hequal, ?_⟩, ⟨less, hless, ?_⟩, ?_⟩
  · rcases hequaltest game with ⟨x, hx, htest⟩
    cases hx
    exact (htest hnumber).1.2 (congrArg Binary64.denote hround)
  · rcases hlesstest game with ⟨x, hx, htest⟩
    cases hx
    rw [← Bool.not_eq_true, (htest hnumber).1]
    exact (congrArg Binary64.denote hround).not_lt
  · rw [Ne, hkept]
    decide

/-- Tests with an integer on a float field are not always exact. -/
theorem test_integer_not_always_relates :
    ¬ ∀ (field : Field) (operator : Operator) (n : Int64) (clause : Clause) (game : Game)
      (x : Binary64), field.kind = .float → operator ≠ .contains →
        build field operator (.number (.int n)) = .ok clause →
        field.value game = .number (.float x) → x.isNaN = false →
        (clause.test game = true ↔ operator.Relates x.denote (Binary64.denoteInt n)) := by
  intro h
  let game : Game := ⟨"Go".toList, 1, 2, 2, 30, 180, ⟨0x4340000000000000⟩, 23, ⟨0⟩, -2200⟩
  let clause : Clause := ⟨.difficulty, .equal, .number (.int 9007199254740993), rfl, rfl⟩
  have htest : clause.test game = true := by
    decide +kernel
  have hround : (⟨0x4340000000000000⟩ : Binary64) =
      .ofInt (9007199254740993 : Int64).toInt := by
    decide +kernel
  have hequal : (⟨0x4340000000000000⟩ : Binary64).denote =
      Binary64.denoteInt 9007199254740993 :=
    (h .difficulty .equal 9007199254740993 clause game _ rfl (by decide) rfl rfl
      (by decide)).1 htest
  rw [hround, Binary64.denote_ofInt_eq_iff] at hequal
  revert hequal
  decide

end Clause

end GameShelf
