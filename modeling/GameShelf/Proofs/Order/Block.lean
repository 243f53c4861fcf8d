import GameShelf.Proofs.Clause.Grammar
import GameShelf.Proofs.Order.NaN
import Mathlib.Data.List.TakeWhile

/-!
# A clause on numbers cuts a block out of a sort

A filter compares the numbers denoted, for which the two zeros are equal and a NaN is comparable
with nothing.  A sort uses the total order of the bit patterns, which tells the zeros apart and has
NaNs at both of its ends.  The two agree where both have something to say: along the total order
the numbers denoted never fall, and no NaN stands between two numbers.

So of three games in sorted order the middle one passes a test of the field if the outer two do.
Inequality is the one exception among the operators, because it asks for both sides of its value.
What passes therefore stands together in the sorted list.
-/

set_option autoImplicit false

namespace GameShelf

variable {x y z : Binary64} {v : Value}

/-! ## Numbers in between -/

/-- An operator that holds for two integers holds for those in between. -/
theorem Operator.holds_of_between {operator : Operator} (hoperator : operator ≠ .notEqual)
    {a b c m : Int} (hab : a ≤ b) (hbc : b ≤ c) (ha : operator.holds (compare a m) = true)
    (hc : operator.holds (compare c m) = true) : operator.holds (compare b m) = true := by
  cases operator with
  | notEqual => exact absurd rfl hoperator
  | contains => cases ha
  | equal =>
      simp only [holds, beq_iff_eq, Int.compare_eq_eq] at ha hc ⊢
      omega
  | greater =>
      simp only [holds, beq_iff_eq, Int.compare_eq_gt] at ha ⊢
      omega
  | greaterEqual =>
      simp only [holds, bne_iff_ne, ne_eq, Int.compare_eq_lt] at ha ⊢
      omega
  | less =>
      simp only [holds, beq_iff_eq, Int.compare_eq_lt] at hc ⊢
      omega
  | lessEqual =>
      simp only [holds, bne_iff_ne, ne_eq, Int.compare_eq_gt] at hc ⊢
      omega

namespace Binary64

/-- Along the total order the numbers denoted do not fall. -/
theorem valueKey_mono (h : x.totalKey ≤ y.totalKey) : x.valueKey ≤ y.valueKey := by
  -- One case for each pair of signs.
  cases hx : x.isNegative <;> cases hy : y.isNegative <;>
    simp only [totalKey, valueKey, hx, hy, if_true, Bool.false_eq_true, if_false] at h ⊢ <;>
    omega

/-- No NaN is in between two numbers. -/
theorem isNaN_of_between (hxy : x.totalKey ≤ y.totalKey) (hyz : y.totalKey ≤ z.totalKey)
    (hx : x.isNaN = false) (hz : z.isNaN = false) : y.isNaN = false := by
  have hlow : x.nanSide ≤ y.nanSide := nanSide_mono hxy
  have hhigh : y.nanSide ≤ z.nanSide := nanSide_mono hyz
  rw [← Bool.not_eq_true, isNaN_iff, ne_eq, Decidable.not_not] at hx hz ⊢
  omega

end Binary64

/-- Other operators than inequality need two numbers. -/
theorem Operator.holdsFor_compare?_iff {operator : Operator} (hoperator : operator ≠ .notEqual) :
    operator.holdsFor (x.compare? y) = true ↔
      x.isNaN = false ∧ y.isNaN = false ∧
        operator.holds (compare x.valueKey y.valueKey) = true := by
  have hnone : (operator == .notEqual) = false := by
    simpa using hoperator
  cases hx : x.isNaN <;> cases hy : y.isNaN <;> simp [Binary64.compare?, holdsFor, hx, hy, hnone]

/-! ## Games in between -/

theorem Value.eq_int_of_kind (h : v.kind = .integer) : ∃ n, v = .number (.int n) := by
  match v with
  | .number (.int n) => exact ⟨n, rfl⟩

theorem Value.eq_float_of_kind (h : v.kind = .float) : ∃ x, v = .number (.float x) := by
  match v with
  | .number (.float x) => exact ⟨x, rfl⟩

namespace Clause

variable {clause : Clause} {a b c : Game}

theorem test_of_between_integers (hkind : clause.field.kind = .integer)
    (hoperator : clause.operator ≠ .notEqual)
    (hab : ((clause.field.value a).compare (clause.field.value b)).isLE = true)
    (hbc : ((clause.field.value b).compare (clause.field.value c)).isLE = true)
    (ha : clause.test a = true) (hc : clause.test c = true) : clause.test b = true := by
  have hvalue : ∀ game, ∃ n, clause.field.value game = .number (.int n) := by
    intro game
    exact Value.eq_int_of_kind ((clause.field.kind_value game).trans hkind)
  rcases hvalue a with ⟨l, hl⟩
  rcases hvalue b with ⟨n, hn⟩
  rcases hvalue c with ⟨u, hu⟩
  -- A field of integers is compared with integers only.
  have hinteger : clause.value.kind = .integer := by
    have haccepted := clause.value_accepted
    rw [hkind] at haccepted
    cases hvalueKind : clause.value.kind with
    | integer => rfl
    | text =>
        rw [hvalueKind] at haccepted
        cases haccepted
    | float =>
        rw [hvalueKind] at haccepted
        cases haccepted
  rcases Value.eq_int_of_kind hinteger with ⟨m, hm⟩
  rw [hl, hn] at hab
  rw [hn, hu] at hbc
  simp only [test, hl, hn, hu, hm] at ha hc ⊢
  have hln : l.toInt ≤ n.toInt := Std.isLE_compare.1 hab
  have hnu : n.toInt ≤ u.toInt := Std.isLE_compare.1 hbc
  exact Operator.holds_of_between hoperator hln hnu ha hc

theorem test_of_between_floats (hkind : clause.field.kind = .float)
    (hoperator : clause.operator ≠ .notEqual)
    (hab : ((clause.field.value a).compare (clause.field.value b)).isLE = true)
    (hbc : ((clause.field.value b).compare (clause.field.value c)).isLE = true)
    (ha : clause.test a = true) (hc : clause.test c = true) : clause.test b = true := by
  have hvalue : ∀ game, ∃ x, clause.field.value game = .number (.float x) := by
    intro game
    exact Value.eq_float_of_kind ((clause.field.kind_value game).trans hkind)
  rcases hvalue a with ⟨x, hx⟩
  rcases hvalue b with ⟨y, hy⟩
  rcases hvalue c with ⟨z, hz⟩
  rw [hx, hy] at hab
  rw [hy, hz] at hbc
  have hxy : x.totalKey ≤ y.totalKey := Std.isLE_compare.1 hab
  have hyz : y.totalKey ≤ z.totalKey := Std.isLE_compare.1 hbc
  cases hm : clause.value with
  | text pattern =>
      simp only [test, hx, hm] at ha
      cases ha
  | number m =>
      -- An integer is rounded first, so the value is a binary64 number in any case.
      have htest : ∀ game w, clause.field.value game = .number (.float w) →
          clause.test game = clause.operator.holdsFor (w.compare? m.toBinary64) := by
        intro game w hw
        simp only [test, hw, hm]
        rfl
      rw [htest a x hx, Operator.holdsFor_compare?_iff hoperator] at ha
      rw [htest c z hz, Operator.holdsFor_compare?_iff hoperator] at hc
      rw [htest b y hy, Operator.holdsFor_compare?_iff hoperator]
      exact ⟨Binary64.isNaN_of_between hxy hyz ha.1 hc.1, ha.2.1,
        Operator.holds_of_between hoperator (Binary64.valueKey_mono hxy)
          (Binary64.valueKey_mono hyz) ha.2.2 hc.2.2⟩

/-- A game between two that pass a clause on numbers passes it, too. -/
theorem test_of_between (hkind : clause.field.kind ≠ .text)
    (hoperator : clause.operator ≠ .notEqual)
    (hab : ((clause.field.value a).compare (clause.field.value b)).isLE = true)
    (hbc : ((clause.field.value b).compare (clause.field.value c)).isLE = true)
    (ha : clause.test a = true) (hc : clause.test c = true) : clause.test b = true := by
  cases hfield : clause.field.kind with
  | text => exact absurd hfield hkind
  | integer => exact test_of_between_integers hfield hoperator hab hbc ha hc
  | float => exact test_of_between_floats hfield hoperator hab hbc ha hc

end Clause

/-! ## Blocks -/

variable {α : Type} {p : α → Bool} {xs : List α}

/-- If everything in front of an element that passes passes as well, then nothing passes behind the
first element that does not. -/
theorem eq_false_of_mem_dropWhile (h : ∀ b c, [b, c].Sublist xs → p c = true → p b = true) {a : α}
    (ha : a ∈ xs.dropWhile p) : p a = false := by
  cases hrest : xs.dropWhile p with
  | nil =>
      rw [hrest] at ha
      cases ha
  | cons stop later =>
      have hstop : p stop = false := by
        have hhead := List.head?_dropWhile_not p xs
        rw [hrest] at hhead
        simpa using hhead
      rw [hrest] at ha
      rcases List.mem_cons.1 ha with rfl | hlater
      · exact hstop
      · have hpair : [stop, a].Sublist (xs.dropWhile p) := by
          rw [hrest]
          exact (List.singleton_sublist.2 hlater).cons_cons stop
        by_contra hpass
        have hboth := h stop a (hpair.trans (List.dropWhile_sublist p))
          (Bool.not_eq_false _ ▸ hpass)
        rw [hstop] at hboth
        cases hboth

/-- The elements that pass a test stand together if every one between two of them passes. -/
theorem exists_block
    (h : ∀ a b c, [a, b, c].Sublist xs → p a = true → p c = true → p b = true) :
    ∃ before block after, xs = before ++ block ++ after ∧ (∀ a ∈ block, p a = true) ∧
      ∀ a ∈ before ++ after, p a = false := by
  induction xs with
  | nil => exact ⟨[], [], [], rfl, by simp, by simp⟩
  | cons first rest ih =>
      cases hfirst : p first with
      | false =>
          rcases ih fun a b c hsub => h a b c (hsub.cons first) with
            ⟨before, block, after, rfl, hblock, hothers⟩
          refine ⟨first :: before, block, after, by simp, hblock, ?_⟩
          intro a ha
          rcases List.mem_cons.1 ha with rfl | hmem
          · exact hfirst
          · exact hothers a hmem
      | true =>
          -- The block begins here and lasts as long as the test is passed.
          refine ⟨[], first :: rest.takeWhile p, rest.dropWhile p, ?_, ?_, ?_⟩
          · simp [List.takeWhile_append_dropWhile]
          · intro a ha
            rcases List.mem_cons.1 ha with rfl | hmem
            · exact hfirst
            · exact List.mem_takeWhile_imp hmem
          · intro a ha
            exact eq_false_of_mem_dropWhile
              (fun b c hsub => h first b c (hsub.cons_cons first) hfirst) ha

namespace Order

variable {field : Field} {operator : Operator} {value : Value} {clause : Clause}

/-- In a list sorted by a field of numbers, the games that pass a clause on the field with any
operator but inequality form one block.  The block is what sorting these games alone gives. -/
theorem sortGames_eq_append_block (games : List Game) (direction : Direction)
    (hkind : field.kind ≠ .text) (hoperator : operator ≠ .notEqual)
    (hbuild : Clause.build field operator value = .ok clause) :
    ∃ before block after,
      sortGames games (some field) direction = .ok (before ++ block ++ after) ∧
      (∀ game ∈ block, clause.test game = true) ∧
      (∀ game ∈ before ++ after, clause.test game = false) ∧
      sortGames (games.filter clause.test) (some field) direction = .ok block := by
  rcases Clause.build_eq_ok_iff.1 hbuild with ⟨-, -, rfl, rfl, -⟩
  let order : Order := ⟨clause.field, direction⟩
  have hsorted : (order.sort games).Pairwise fun a b => order.le a b = true :=
    List.pairwise_mergeSort order.le_trans order.le_total games
  have hbetween : ∀ a b c, [a, b, c].Sublist (order.sort games) →
      clause.test a = true → clause.test c = true → clause.test b = true := by
    intro a b c hsub ha hc
    have hthree := hsorted.sublist hsub
    have hab : order.le a b = true := List.rel_of_pairwise_cons hthree (by simp)
    have hbc : order.le b c = true := List.rel_of_pairwise_cons hthree.tail (by simp)
    cases direction with
    | ascending => exact Clause.test_of_between hkind hoperator hab hbc ha hc
    | descending =>
        -- Descending, the three come in the opposite order.
        rw [le, compare_descending] at hab hbc
        exact Clause.test_of_between hkind hoperator hbc hab hc ha
  rcases exists_block hbetween with ⟨before, block, after, hsplit, hblock, hothers⟩
  refine ⟨before, block, after, congrArg Except.ok hsplit, hblock, hothers, ?_⟩
  have hfilter : (before ++ block ++ after).filter clause.test = block := by
    have hnone : ∀ part ⊆ before ++ after, part.filter clause.test = [] := by
      intro part hpart
      rw [List.filter_eq_nil_iff]
      intro game hgame
      simp [hothers game (hpart hgame)]
    rw [List.filter_append, List.filter_append, List.filter_eq_self.2 hblock,
      hnone before (List.subset_append_left _ _), hnone after (List.subset_append_right _ _)]
    simp
  refine congrArg Except.ok ?_
  calc
    order.sort (games.filter clause.test)
        = (order.sort games).filter clause.test := (order.filter_sort clause.test games).symm
    _ = block := by rw [hsplit, hfilter]

/-- Both zeros are equal to the integer zero.  A sort has them side by side, though not as a tie,
and the NaNs at its ends. -/
theorem sortGames_eq_append_block_zeros :
    let zero : Game := ⟨"Ra".toList, 1, 2, 5, 45, 60, ⟨0⟩, 1, ⟨0⟩, 1999⟩
    let minusZero : Game := ⟨"Hex".toList, 2, 2, 2, 20, 60, .signedZero true, 2, ⟨0⟩, 1942⟩
    let nan : Game := ⟨"Catan".toList, 3, 3, 4, 60, 120, .quietNaN false, 3, ⟨0⟩, 1995⟩
    let minusNaN : Game := ⟨"Tikal".toList, 4, 2, 4, 90, 120, .quietNaN true, 4, ⟨0⟩, 1999⟩
    let endless : Game := ⟨"Go".toList, 5, 2, 2, 30, 180, .infinity false, 5, ⟨0⟩, -2200⟩
    let games := [minusZero, nan, endless, minusNaN, zero]
    ∃ clause, Clause.build .difficulty .equal (.number (.int 0)) = .ok clause ∧
      games.filter clause.test = [minusZero, zero] ∧
      ∃ before block after,
        sortGames games (some .difficulty) .descending = .ok (before ++ block ++ after) ∧
        block.Perm [minusZero, zero] ∧
        ∀ game ∈ before ++ after, clause.test game = false := by
  intro zero minusZero nan minusNaN endless games
  let clause : Clause := ⟨.difficulty, .equal, .number (.int 0), rfl, rfl⟩
  have hbuild : Clause.build .difficulty .equal (.number (.int 0)) = .ok clause := rfl
  have hfilter : games.filter clause.test = [minusZero, zero] := by decide +kernel
  rcases sortGames_eq_append_block games .descending (by decide) (by decide) hbuild with
    ⟨before, block, after, hsorted, -, hothers, hblock⟩
  refine ⟨clause, hbuild, hfilter, before, block, after, hsorted, ?_, hothers⟩
  rw [hfilter] at hblock
  rw [← Except.ok.inj hblock]
  exact sort_perm ⟨.difficulty, .descending⟩ [minusZero, zero]

end Order
end GameShelf
