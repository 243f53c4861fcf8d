import GameShelf.Proofs.Clause.Grammar
import GameShelf.Proofs.Number
import GameShelf.Proofs.Order.NaN

/-!
# The six comparisons side by side

Clauses on one field with one value differ in their operator only.  All of them look at the same
outcome of a comparison (`Value.outcome?`), so exactly one of less, equal and greater passes a game,
and the other three say what they should of these.  Without an outcome, that is with a NaN on either
side, inequality passes and nothing else.

So three of the clauses cut a list of games into parts that have no game in common and miss none but
those with a NaN.
-/

set_option autoImplicit false

namespace GameShelf

variable {field : Field} {operator : Operator} {value v w : Value} {clause : Clause}

/-! ## The outcome of a comparison -/

theorem Number.isNaN_toBinary64 (n : Number) :
    n.toBinary64.isNaN = (Value.number n).isNaN := by
  cases n with
  | int n => exact Binary64.isNaN_ofInt _
  | float x => rfl

namespace Value

/-- How the value of a game stands to the value of a clause, if the two can be compared. -/
def outcome? : Value → Value → Option Ordering
  | .text t, .text pattern => some (Ord.compare t.lowercase pattern)
  | .number m, .number n => m.compare? n
  | _, _ => none

theorem texts_or_numbers_of_accepts (h : v.kind.accepts w.kind = true) :
    (∃ t pattern, v = .text t ∧ w = .text pattern) ∨ ∃ m n, v = .number m ∧ w = .number n := by
  cases v with
  | text t =>
      cases w with
      | text pattern => exact Or.inl ⟨t, pattern, rfl, rfl⟩
      | number n => cases n <;> cases h
  | number m =>
      cases w with
      | text pattern => cases m <;> cases h
      | number n => exact Or.inr ⟨m, n, rfl, rfl⟩

/-- Where a clause accepts the value, there is no outcome exactly if a NaN is involved. -/
theorem outcome?_eq_none_iff (h : v.kind.accepts w.kind = true) :
    v.outcome? w = none ↔ v.isNaN = true ∨ w.isNaN = true := by
  rcases texts_or_numbers_of_accepts h with ⟨t, pattern, rfl, rfl⟩ | ⟨m, n, rfl, rfl⟩
  · simp [outcome?, isNaN]
  · rw [← Number.isNaN_toBinary64, ← Number.isNaN_toBinary64]
    exact Number.compare?_eq_none_iff

@[simp] theorem isNaN_lowered (value : Value) : value.lowered.isNaN = value.isNaN := by
  cases value with
  | text t => rfl
  | number n => rfl

end Value

/-! ## Operators on an outcome -/

namespace Operator

/-- The operators that hold for a single outcome. -/
def strict : List Operator :=
  [.less, .equal, .greater]

/-- The strict operator that holds for the outcome. -/
def strictFor : Ordering → Operator
  | .lt => .less
  | .eq => .equal
  | .gt => .greater

theorem mem_strict_and_holds_iff (operator : Operator) (outcome : Ordering) :
    operator ∈ strict ∧ operator.holds outcome = true ↔ operator = strictFor outcome := by
  cases operator <;> cases outcome <;> decide

theorem ne_contains_of_mem_strict (h : operator ∈ strict) : operator ≠ .contains := by
  rintro rfl
  revert h
  decide

end Operator

/-! ## Tests of one value -/

namespace Clause

theorem textMatches_eq_holds (hoperator : operator ≠ .contains) (t pattern : Text) :
    textMatches operator t pattern = operator.holds (compare t.lowercase pattern) := by
  cases operator with
  | contains => exact absurd rfl hoperator
  | _ => rfl

/-- The test of a clause asks its operator about the outcome. -/
theorem test_eq_holdsFor (hbuild : build field operator value = .ok clause)
    (hoperator : operator ≠ .contains) (game : Game) :
    clause.test game = operator.holdsFor ((field.value game).outcome? value.lowered) := by
  rcases build_eq_ok_iff.1 hbuild with ⟨-, haccepted, rfl, rfl, hvalue⟩
  have hkind : (clause.field.value game).kind.accepts value.lowered.kind = true := by
    rwa [clause.field.kind_value, Value.kind_lowered]
  rcases Value.texts_or_numbers_of_accepts hkind with ⟨t, pattern, hv, hw⟩ | ⟨m, n, hv, hw⟩
  · simp only [test, hvalue, hv, hw]
    exact textMatches_eq_holds hoperator t pattern
  · simp only [test, hvalue, hv, hw]
    rfl

/-- A value with which one clause can be built on a field does for all comparisons. -/
theorem exists_build_of_build (hbuild : build field operator value = .ok clause)
    {other : Operator} (hother : other ≠ .contains) :
    ∃ clause, build field other value = .ok clause := by
  rcases build_eq_ok_iff.1 hbuild with ⟨-, haccepted, -⟩
  have happlies : other.appliesTo field.kind = true :=
    Operator.appliesTo_iff.2 fun hcontains => absurd hcontains hother
  rcases exists_build happlies haccepted with ⟨built, hbuilt, -⟩
  exact ⟨built, hbuilt⟩

end Clause

/-! ## Parts of a list -/

section Parts

variable {α ι : Type*} {p q : α → Bool} {tests : ι → α → Bool} {indices : List ι} {l : List α}

/-- Two filters that pass nothing in common together pass what either passes. -/
theorem filter_append_filter_perm (h : ∀ a ∈ l, p a = true → q a = false) :
    (l.filter p ++ l.filter q).Perm (l.filter fun a => p a || q a) := by
  have hsplit := List.filter_append_perm p (l.filter fun a => p a || q a)
  -- Of what either passes, `p` passes its own and leaves the rest to `q`.
  have hleft : (l.filter fun a => p a || q a).filter p = l.filter p := by
    rw [List.filter_filter]
    refine List.filter_congr fun a _ => ?_
    cases p a <;> simp
  have hright : (l.filter fun a => p a || q a).filter (fun a => !p a) = l.filter q := by
    rw [List.filter_filter]
    refine List.filter_congr fun a ha => ?_
    cases hp : p a with
    | false => simp
    | true => simp [h a ha hp]
  rwa [hleft, hright] at hsplit

/-- The same for any number of filters. -/
theorem flatMap_filter_perm
    (h : indices.Pairwise fun i j => ∀ a ∈ l, tests i a = true → tests j a = false) :
    (indices.flatMap fun i => l.filter (tests i)).Perm
      (l.filter fun a => indices.any fun i => tests i a) := by
  induction h with
  | nil => simp
  | cons hhead _ ih =>
      simp only [List.flatMap_cons, List.any_cons]
      refine (ih.append_left _).trans (filter_append_filter_perm ?_)
      intro a ha htest
      rw [List.any_eq_false]
      intro j hj
      rw [hhead j hj a ha htest]
      decide

theorem disjoint_filter_filter (h : ∀ a ∈ l, p a = true → q a = false) :
    (l.filter p).Disjoint (l.filter q) := by
  intro a hp hq
  have hqa : q a = false := h a (List.mem_filter.1 hp).1 (List.mem_filter.1 hp).2
  rw [(List.mem_filter.1 hq).2] at hqa
  cases hqa

end Parts

/-! ## All six comparisons -/

namespace Clause

section Comparing

variable {comparing : Operator → Clause} {game : Game} {outcome : Ordering} {other : Operator}
  (hcomparing : ∀ operator, operator ≠ .contains →
    build field operator value = .ok (comparing operator))

include hcomparing

theorem outcome?_eq_none_iff (game : Game) :
    (field.value game).outcome? value.lowered = none ↔
      (field.value game).isNaN = true ∨ value.isNaN = true := by
  rcases build_eq_ok_iff.1 (hcomparing .equal (by decide)) with ⟨-, haccepted, -⟩
  rw [Value.outcome?_eq_none_iff, Value.isNaN_lowered]
  rwa [field.kind_value, Value.kind_lowered]

theorem test_of_isNaN_or (h : (field.value game).isNaN = true ∨ value.isNaN = true)
    (hoperator : operator ≠ .contains) :
    (comparing operator).test game = true ↔ operator = .notEqual := by
  rw [test_eq_holdsFor (hcomparing operator hoperator) hoperator,
    (outcome?_eq_none_iff hcomparing game).2 h]
  exact beq_iff_eq

theorem test_of_outcome (hoperator : operator ≠ .contains)
    (houtcome : (field.value game).outcome? value.lowered = some outcome) :
    (comparing operator).test game = operator.holds outcome := by
  rw [test_eq_holdsFor (hcomparing operator hoperator) hoperator, houtcome]
  rfl

/-- With an outcome one of the strict comparisons passes, the one for that outcome. -/
theorem mem_strict_and_test_iff
    (houtcome : (field.value game).outcome? value.lowered = some outcome) :
    operator ∈ Operator.strict ∧ (comparing operator).test game = true ↔
      operator = Operator.strictFor outcome := by
  rw [← Operator.mem_strict_and_holds_iff]
  refine and_congr_right fun hstrict => ?_
  rw [test_of_outcome hcomparing (Operator.ne_contains_of_mem_strict hstrict) houtcome]

/-- Without an outcome none of them does. -/
theorem test_eq_false_of_mem_strict (hstrict : operator ∈ Operator.strict)
    (houtcome : (field.value game).outcome? value.lowered = none) :
    (comparing operator).test game = false := by
  have hnan := (outcome?_eq_none_iff hcomparing game).1 houtcome
  rw [← Bool.not_eq_true,
    test_of_isNaN_or hcomparing hnan (Operator.ne_contains_of_mem_strict hstrict)]
  rintro rfl
  exact absurd hstrict (by decide)

/-- No game passes two of them. -/
theorem test_eq_false_of_strict (hstrict : operator ∈ Operator.strict)
    (hother : other ∈ Operator.strict) (hne : operator ≠ other)
    (htest : (comparing operator).test game = true) : (comparing other).test game = false := by
  cases houtcome : (field.value game).outcome? value.lowered with
  | none => exact test_eq_false_of_mem_strict hcomparing hother houtcome
  | some outcome =>
      -- Both would be the operator for the outcome.
      have hfor := (mem_strict_and_test_iff hcomparing houtcome).1 ⟨hstrict, htest⟩
      by_contra htrue
      rw [Bool.not_eq_false] at htrue
      have hotherfor := (mem_strict_and_test_iff hcomparing houtcome).1 ⟨hother, htrue⟩
      exact hne (hfor.trans hotherfor.symm)

theorem any_strict_test (game : Game) :
    (Operator.strict.any fun operator => (comparing operator).test game) =
      !((field.value game).isNaN || value.isNaN) := by
  have hnan := outcome?_eq_none_iff hcomparing game
  rw [← Bool.or_eq_true] at hnan
  cases houtcome : (field.value game).outcome? value.lowered with
  | none =>
      rw [hnan.1 houtcome, Bool.not_true, List.any_eq_false]
      intro operator hstrict
      rw [test_eq_false_of_mem_strict hcomparing hstrict houtcome]
      decide
  | some outcome =>
      have hnone : ((field.value game).isNaN || value.isNaN) = false := by
        rw [← Bool.not_eq_true, ← hnan, houtcome]
        exact Option.some_ne_none outcome
      have hfor := (mem_strict_and_test_iff hcomparing houtcome).2 rfl
      rw [hnone, Bool.not_false, List.any_eq_true]
      exact ⟨_, hfor⟩

end Comparing

/-- The six clauses that compare a field with one value cut every collection consistently.  Where
neither side is a NaN, one of less, equal and greater passes a game and the others are what their
names say of these three; where one is, inequality passes and nothing else.  So the games that pass
the strict comparisons are disjoint, and they are all games without a NaN. -/
theorem comparisons_partition (hbuild : build field operator value = .ok clause) :
    ∃ comparing : Operator → Clause,
      (∀ operator, operator ≠ .contains → build field operator value = .ok (comparing operator)) ∧
      (∀ game, (field.value game).isNaN = false → value.isNaN = false →
        (∃! operator, operator ∈ Operator.strict ∧ (comparing operator).test game = true) ∧
        (comparing .greaterEqual).test game =
          ((comparing .greater).test game || (comparing .equal).test game) ∧
        (comparing .lessEqual).test game =
          ((comparing .less).test game || (comparing .equal).test game) ∧
        (comparing .notEqual).test game = !(comparing .equal).test game) ∧
      (∀ game, (field.value game).isNaN = true ∨ value.isNaN = true →
        ∀ operator, operator ≠ .contains →
          ((comparing operator).test game = true ↔ operator = .notEqual)) ∧
      ∀ games : List Game,
        (Operator.strict.map fun operator =>
          games.filter (comparing operator).test).Pairwise List.Disjoint ∧
        (Operator.strict.flatMap fun operator => games.filter (comparing operator).test).Perm
          (games.filter fun game => !((field.value game).isNaN || value.isNaN)) := by
  have hexists : ∀ other : Operator, ∃ built, other ≠ .contains →
      build field other value = .ok built := by
    intro other
    by_cases hother : other = .contains
    · -- Nothing is said of containment, so any clause will do.
      exact ⟨clause, fun hne => absurd hother hne⟩
    · rcases exists_build_of_build hbuild hother with ⟨built, hbuilt⟩
      exact ⟨built, fun _ => hbuilt⟩
  choose comparing hcomparing using hexists
  refine ⟨comparing, hcomparing, ?_, ?_, ?_⟩
  · intro game hgame hvalue
    have hsome : (field.value game).outcome? value.lowered ≠ none := by
      rw [Ne, outcome?_eq_none_iff hcomparing, hgame, hvalue]
      simp
    rcases Option.ne_none_iff_exists'.1 hsome with ⟨outcome, houtcome⟩
    have htest : ∀ operator, operator ≠ .contains →
        (comparing operator).test game = operator.holds outcome := by
      intro operator hoperator
      exact test_of_outcome hcomparing hoperator houtcome
    refine ⟨?_, ?_⟩
    · simp only [mem_strict_and_test_iff hcomparing houtcome, existsUnique_eq]
    · rw [htest .greaterEqual (by decide), htest .lessEqual (by decide),
        htest .notEqual (by decide), htest .greater (by decide), htest .less (by decide),
        htest .equal (by decide)]
      cases outcome <;> decide
  · intro game hnan operator hoperator
    exact test_of_isNaN_or hcomparing hnan hoperator
  · intro games
    have hdistinct : Operator.strict.Pairwise (· ≠ ·) := by
      decide
    have hexclusive : Operator.strict.Pairwise fun i j => ∀ game ∈ games,
        (comparing i).test game = true → (comparing j).test game = false := by
      refine hdistinct.imp_of_mem ?_
      intro i j hi hj hne game _ htest
      exact test_eq_false_of_strict hcomparing hi hj hne htest
    constructor
    · rw [List.pairwise_map]
      exact hexclusive.imp disjoint_filter_filter
    · simpa only [any_strict_test hcomparing] using flatMap_filter_perm hexclusive

/-- An integer on a float field: one game has less, one as much, and the one with a NaN is in no
part. -/
theorem comparisons_partition_integer_value :
    let nan : Game := ⟨"Go".toList, 1, 2, 2, 30, 180, .quietNaN true, 23, ⟨0⟩, -2200⟩
    let four : Game := ⟨"Azul".toList, 3, 2, 4, 30, 45, ⟨0x4010000000000000⟩, 50, ⟨0⟩, 2017⟩
    let two : Game := ⟨"Uno".toList, 4, 2, 10, 30, 30, ⟨0x4000000000000000⟩, 99, ⟨0⟩, 1971⟩
    ∃ comparing : Operator → Clause,
      (∀ operator, operator ≠ .contains →
        build .difficulty operator (.number (.int 4)) = .ok (comparing operator)) ∧
      (Operator.strict.flatMap fun operator =>
        [nan, four, two].filter (comparing operator).test).Perm [four, two] ∧
      (comparing .greaterEqual).test nan = false := by
  intro nan four two
  let clause : Clause := ⟨.difficulty, .equal, .number (.int 4), rfl, rfl⟩
  have hbuild : build .difficulty .equal (.number (.int 4)) = .ok clause := rfl
  have hnumbers : ([nan, four, two].filter fun game =>
      !((Field.difficulty.value game).isNaN || (Value.number (.int 4)).isNaN)) = [four, two] := by
    simp only [nan, four, two]
    decide +kernel
  rcases comparisons_partition hbuild with ⟨comparing, hcomparing, -, hnan, hparts⟩
  have hperm := (hparts [nan, four, two]).2
  rw [hnumbers] at hperm
  refine ⟨comparing, hcomparing, hperm, ?_⟩
  rw [← Bool.not_eq_true, hnan nan (Or.inl (by decide)) .greaterEqual (by decide)]
  decide

end Clause

end GameShelf
