import GameShelf.Proofs.Filter.Rejection
import GameShelf.Proofs.Number
import GameShelf.Proofs.Order.Block

/-!
# Numeric tests are exact

A clause on a numeric field that was read from a text holds a number of the kind of its field, and
its operator is not containment.  So a test never rounds and never meets two values of different
kinds: it decides the relation that the operator names, between integers or between the numbers
that two bit patterns denote.  A NaN denotes none, and with one on either side inequality alone
holds.

A clause that is built from parts may hold an integer for a field of binary64 numbers.  That integer
is rounded before it is compared, so such a clause need not be exact.
-/

set_option autoImplicit false

namespace GameShelf

variable {x y : Binary64} {clause : Clause} {game : Game}

/-! ## Operators as relations -/

namespace Operator

variable {α : Type*} [LinearOrder α]

/-- The relation of a linear order that the operator names.  Containment names none. -/
def Relates (a b : α) : Operator → Prop
  | .equal => a = b
  | .notEqual => a ≠ b
  | .greater => b < a
  | .greaterEqual => b ≤ a
  | .less => a < b
  | .lessEqual => a ≤ b
  | .contains => False

/-- An operator holds of the outcome of a comparison if what was compared stands in its relation. -/
theorem holds_compare_iff (operator : Operator) (a b : α) :
    operator.holds (compare a b) = true ↔ operator.Relates a b := by
  cases operator with
  | contains => simp [holds, Relates]
  | equal => simp [holds, Relates]
  | notEqual => simp [holds, Relates]
  | greater => simp [holds, Relates, compare_gt_iff_gt]
  | greaterEqual => simp [holds, Relates, compare_lt_iff_lt]
  | less => simp [holds, Relates, compare_lt_iff_lt]
  | lessEqual => simp [holds, Relates, compare_gt_iff_gt]

theorem holdsFor_compare?_iff_relates (operator : Operator) (hx : x.isNaN = false)
    (hy : y.isNaN = false) :
    operator.holdsFor (x.compare? y) = true ↔ operator.Relates x.denote y.denote := by
  rw [Binary64.compare?_eq_compare_denote hx hy]
  exact holds_compare_iff operator _ _

theorem holdsFor_compare?_of_isNaN (operator : Operator) (h : x.isNaN = true ∨ y.isNaN = true) :
    operator.holdsFor (x.compare? y) = true ↔ operator = .notEqual := by
  rw [Binary64.compare?_eq_none_iff.2 h]
  exact beq_iff_eq

end Operator

/-! ## Clauses read from a text -/

namespace Clause

/-- The value of a clause that was read is of the kind of its field. -/
theorem kind_value_of_parse {t : Text} (h : parse t = .ok clause) :
    clause.value.kind = clause.field.kind := by
  rcases Reading.exists_fits_of_parse h with ⟨reading, hfits, hfield, -, hvalue⟩
  rw [hvalue, Value.kind_lowered, hfield]
  exact kind_of_readFieldValue hfits.valued

theorem operator_ne_contains (hkind : clause.field.kind ≠ .text) : clause.operator ≠ .contains := by
  intro hcontains
  have hname : clause.field = .name :=
    Operator.appliesTo_iff.1 clause.operator_applies hcontains
  exact hkind (congrArg Field.kind hname)

theorem test_of_numbers {m n : Number} (hfield : clause.field.value game = .number m)
    (hvalue : clause.value = .number n) :
    clause.test game = clause.operator.holdsFor (m.compare? n) := by
  simp only [test, hfield, hvalue]

theorem test_integers_iff {m : Int32} {n : Int64}
    (hfield : clause.field.value game = Field.integerValue m)
    (hvalue : clause.value = .number (.int n)) :
    clause.test game = true ↔ clause.operator.Relates m.toInt n.toInt := by
  rw [test_of_numbers hfield hvalue, ← Int32.toInt_toInt64]
  exact Operator.holds_compare_iff _ _ _

end Clause

theorem Field.exists_integerValue (field : Field) (game : Game) (hkind : field.kind = .integer) :
    ∃ m, field.value game = integerValue m := by
  cases field with
  | name | difficulty | rating => cases hkind
  | _ => exact ⟨_, rfl⟩

/-- A clause on a numeric field that was read compares exactly: integers as integers and binary64
numbers as the extended real numbers they denote.  With a NaN on either side the game passes if the
operator is inequality. -/
theorem Filter.test_iff_relates {t : Text} {filter : Filter} (hparse : parse t = .ok filter)
    (hclause : .clause clause ∈ filter) (hkind : clause.field.kind ≠ .text) (game : Game) :
    clause.operator ≠ .contains ∧
    (clause.field.kind = .integer →
      ∃ (m : Int32) (n : Int64),
        clause.field.value game = Field.integerValue m ∧ clause.value = .number (.int n) ∧
        (clause.test game = true ↔ clause.operator.Relates m.toInt n.toInt)) ∧
    (clause.field.kind = .float →
      ∃ x y : Binary64,
        clause.field.value game = .number (.float x) ∧ clause.value = .number (.float y) ∧
        (x.isNaN = false → y.isNaN = false →
          (clause.test game = true ↔ clause.operator.Relates x.denote y.denote)) ∧
        (x.isNaN = true ∨ y.isNaN = true →
          (clause.test game = true ↔ clause.operator = .notEqual))) := by
  rcases exists_clause_parse_of_mem hparse hclause with ⟨piece, -, hpiece⟩
  have hread : clause.value.kind = clause.field.kind := Clause.kind_value_of_parse hpiece
  refine ⟨Clause.operator_ne_contains hkind, fun hinteger => ?_, fun hfloat => ?_⟩
  · rcases clause.field.exists_integerValue game hinteger with ⟨m, hm⟩
    rcases Value.eq_int_of_kind (hread.trans hinteger) with ⟨n, hn⟩
    exact ⟨m, n, hm, hn, Clause.test_integers_iff hm hn⟩
  · rcases Value.eq_float_of_kind ((clause.field.kind_value game).trans hfloat) with ⟨x, hx⟩
    rcases Value.eq_float_of_kind (hread.trans hfloat) with ⟨y, hy⟩
    have htest : clause.test game = clause.operator.holdsFor (x.compare? y) := by
      simp only [Clause.test, hx, hy]
      rfl
    refine ⟨x, y, hx, hy, fun hxnum hynum => ?_, fun hnan => ?_⟩
    · rw [htest]
      exact Operator.holdsFor_compare?_iff_relates _ hxnum hynum
    · rw [htest]
      exact Operator.holdsFor_compare?_of_isNaN _ hnan

/-- The two zeros differ in their bits and denote the same number. -/
theorem Filter.test_iff_relates_signed_zeros :
    let game : Game := ⟨"Go".toList, 1, 2, 2, 30, 180, .signedZero false, 23, ⟨0⟩, -2200⟩
    ∃ clause, parse "rank > 7, difficulty == -0".toList =
        .ok [.clause ⟨.rank, .greater, .number (.int 7), rfl, rfl⟩, .clause clause] ∧
      clause.value = .number (.float (.signedZero true)) ∧ clause.test game = true := by
  intro game
  let clause : Clause := ⟨.difficulty, .equal, .number (.float (.signedZero true)), rfl, rfl⟩
  have hparse : parse "rank > 7, difficulty == -0".toList =
      .ok [.clause ⟨.rank, .greater, .number (.int 7), rfl, rfl⟩, .clause clause] := by
    decide +kernel
  have hclause : .clause clause ∈
      [Predicate.clause ⟨.rank, .greater, .number (.int 7), rfl, rfl⟩, .clause clause] := by
    simp
  rcases test_iff_relates hparse hclause (by decide) game with ⟨-, -, hfloat⟩
  rcases hfloat rfl with ⟨x, y, hx, hy, hnumbers, -⟩
  cases hx
  cases hy
  refine ⟨clause, hparse, rfl, (hnumbers (by decide) (by decide)).2 ?_⟩
  exact (Binary64.denote_signedZero false).trans (Binary64.denote_signedZero true).symm

end GameShelf
