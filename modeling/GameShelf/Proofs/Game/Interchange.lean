import GameShelf.Plan.Basic
import GameShelf.Proofs.Filter.Query
import GameShelf.Proofs.Game.Distinct
import GameShelf.Proofs.Number
import GameShelf.Proofs.Order.NaN
import Mathlib.Data.List.Forall2

/-!
# Telling duplicates apart

Records that count as the same game agree in every bit, except that a NaN of the one may be any
other NaN of the other.  Which duplicate a collection keeps matters only if something can tell such
NaNs apart.

* A clause cannot: a NaN passes a test of inequality and no other (`Clause.test_of_isNaN`).
* A sort order can, namely whenever the two NaNs of its field have different bits.  Against games
  that have a number there it can only if the NaNs differ in sign, for then they stand at the two
  ends of the order (`Value.compare_of_isNaN`).

So filters and the names of a plan do not depend on which duplicates were kept, and sorts by a field
do not where the duplicates have the same bits in it.
-/

set_option autoImplicit false

namespace GameShelf

variable {a b game : Game} {x y : Binary64} {v w : Value}

/-! ## What duplicates have in common -/

theorem Value.eq_float_of_isNaN (h : v.isNaN = true) :
    ∃ x, v = .number (.float x) ∧ x.isNaN = true := by
  match v with
  | .text _ => cases h
  | .number (.int _) => cases h
  | .number (.float x) => exact ⟨x, rfl, h⟩

/-- Duplicates have the same value in a field, or two NaNs. -/
theorem Field.value_of_same (h : a.same b = true) (field : Field) :
    field.value a = field.value b ∨
      (field.value a).isNaN = true ∧ (field.value b).isNaN = true := by
  rcases Game.same_iff.1 h with ⟨heq, hdifficulty, hrating⟩
  -- Only the two fields that hold binary64 numbers leave a choice.
  cases field with
  | difficulty =>
      rcases Binary64.same_iff.1 hdifficulty with hnans | hbits
      · exact Or.inr hnans
      · exact Or.inl (congrArg (fun x => Value.number (.float x)) hbits)
  | rating =>
      rcases Binary64.same_iff.1 hrating with hnans | hbits
      · exact Or.inr hnans
      · exact Or.inl (congrArg (fun x => Value.number (.float x)) hbits)
  | _ =>
      left
      rw [heq]
      rfl

/-! ## Tests -/

/-- Of all tests of a field, a NaN passes the inequalities. -/
theorem Clause.test_of_isNaN (clause : Clause) (h : (clause.field.value game).isNaN = true) :
    clause.test game = (clause.operator == .notEqual) := by
  rcases Value.eq_float_of_isNaN h with ⟨x, hx, hnan⟩
  cases hvalue : clause.value with
  | text pattern =>
      -- No clause compares a field of numbers with a text.
      have hkind : clause.field.kind = .float := by
        rw [← clause.field.kind_value game, hx]
        rfl
      have haccepted := clause.value_accepted
      rw [hkind, hvalue] at haccepted
      cases haccepted
  | number m =>
      have hnone : (Number.float x).compare? m = none := Number.compare?_eq_none_iff.2 (Or.inl hnan)
      simp only [test, hx, hvalue, hnone]
      rfl

theorem Clause.test_eq_of_same (h : a.same b = true) (clause : Clause) :
    clause.test a = clause.test b := by
  rcases clause.field.value_of_same h with heq | ⟨ha, hb⟩
  · simp only [test, heq]
  · rw [clause.test_of_isNaN ha, clause.test_of_isNaN hb]

theorem Filter.accepts_eq_of_same (h : a.same b = true) (filter : Filter) :
    filter.accepts a = filter.accepts b := by
  have htest : ∀ predicate : Predicate, predicate.test a = predicate.test b := by
    intro predicate
    cases predicate with
    | always => rfl
    | clause c => exact c.test_eq_of_same h
  simp only [accepts, htest]

/-! ## Comparisons -/

theorem Binary64.totalKey_inj : x.totalKey = y.totalKey ↔ x = y := by
  constructor
  · intro h
    -- A key gives back the sign and the magnitude.
    have hparts : x.isNegative = y.isNegative ∧ x.magnitude = y.magnitude := by
      cases hx : x.isNegative <;> cases hy : y.isNegative <;>
        simp only [totalKey, hx, hy, if_true, if_false, eq_self, reduceCtorEq, true_and,
          false_and] at h ⊢ <;>
        omega
    exact eq_of_isNegative_of_magnitude hparts.1 hparts.2
  · rintro rfl
    rfl

/-- A NaN stands before or behind everything of its kind that is none. -/
theorem Value.compare_of_isNaN (hkind : v.kind = w.kind) (hv : v.isNaN = true)
    (hw : w.isNaN = false) : v.compare w = if v.nanSide < 0 then .lt else .gt := by
  have hside : v.nanSide ≠ 0 := Value.isNaN_iff.1 hv
  have hzero : w.nanSide = 0 := Value.isNaN_eq_false_iff.1 hw
  have hle := Value.nanSide_le_of_isLE hkind
  have hge := Value.nanSide_le_of_isLE hkind.symm
  rw [Value.compare_eq_swap w v] at hge
  -- Any other outcome would have the values at the wrong ends.
  cases hcompare : v.compare w with
  | lt =>
      have hsign : v.nanSide ≤ w.nanSide := hle (by rw [hcompare]; rfl)
      rw [if_pos (by omega)]
  | eq =>
      have hsign : v.nanSide ≤ w.nanSide := hle (by rw [hcompare]; rfl)
      have hsign' : w.nanSide ≤ v.nanSide := hge (by rw [hcompare]; rfl)
      omega
  | gt =>
      have hsign : w.nanSide ≤ v.nanSide := hge (by rw [hcompare]; rfl)
      rw [if_neg (by omega)]

theorem Value.nanSide_of_isNaN (h : v.isNaN = true) : v.nanSide = -1 ∨ v.nanSide = 1 := by
  rcases Value.eq_float_of_isNaN h with ⟨x, rfl, hnan⟩
  change x.nanSide = -1 ∨ x.nanSide = 1
  cases hneg : x.isNegative with
  | false => simp [Binary64.nanSide, hnan, hneg]
  | true => simp [Binary64.nanSide, hnan, hneg]

theorem Direction.apply_inj {direction : Direction} {outcome other : Ordering} :
    direction.apply outcome = direction.apply other ↔ outcome = other := by
  cases direction with
  | ascending => exact Iff.rfl
  | descending => exact Ordering.swap_inj

namespace Order

variable {order : Order}

theorem compare_congr_left (h : order.field.value a = order.field.value b) (c : Game) :
    order.compare a c = order.compare b c := by
  rw [compare, compare, h]

theorem compare_eq_eq_iff_of_same (h : a.same b = true) :
    order.compare a b = .eq ↔ order.field.value a = order.field.value b := by
  constructor
  · intro htie
    rcases order.field.value_of_same h with heq | ⟨ha, hb⟩
    · exact heq
    · -- Two NaNs that tie have the same key.
      rcases Value.eq_float_of_isNaN ha with ⟨x, hx, -⟩
      rcases Value.eq_float_of_isNaN hb with ⟨y, hy, -⟩
      have hkeys : Ord.compare x.totalKey y.totalKey = .eq := by
        have heq : order.direction.apply .eq = .eq := by
          cases order.direction <;> rfl
        rw [compare, hx, hy, ← heq, Direction.apply_inj] at htie
        exact htie
      rw [hx, hy, Binary64.totalKey_inj.1 (Std.LawfulEqOrd.eq_of_compare hkeys)]
  · intro heq
    rw [compare_congr_left heq, compare_self]

theorem compare_eq_iff_of_same (h : a.same b = true) :
    (∀ c, order.compare a c = order.compare b c) ↔
      order.field.value a = order.field.value b := by
  constructor
  · intro hall
    -- The one that compares like `b` with every game does so with `b` itself.
    have htie : order.compare a b = .eq := by
      rw [hall b, compare_self]
    exact (compare_eq_eq_iff_of_same h).1 htie
  · intro heq c
    exact compare_congr_left heq c

/-- With the games that have no NaN in the field, duplicates compare alike exactly if they are at
the same end of the order, if at any. -/
theorem compare_number_eq_iff_of_same (h : a.same b = true) :
    (∀ c, (order.field.value c).isNaN = false → order.compare a c = order.compare b c) ↔
      (order.field.value a).nanSide = (order.field.value b).nanSide := by
  rcases order.field.value_of_same h with heq | ⟨ha, hb⟩
  · constructor
    · intro _
      rw [heq]
    · intro _ c _
      exact compare_congr_left heq c
  · have hcompare : ∀ c, (order.field.value c).isNaN = false →
        (order.compare a c = order.compare b c ↔
          ((order.field.value a).nanSide < 0 ↔ (order.field.value b).nanSide < 0)) := by
      intro c hc
      rw [compare, compare, Direction.apply_inj,
        Value.compare_of_isNaN (order.field.kind_value_eq a c) ha hc,
        Value.compare_of_isNaN (order.field.kind_value_eq b c) hb hc]
      by_cases hA : (order.field.value a).nanSide < 0 <;>
        by_cases hB : (order.field.value b).nanSide < 0 <;> simp [hA, hB]
    have hsideA := Value.nanSide_of_isNaN ha
    have hsideB := Value.nanSide_of_isNaN hb
    constructor
    · intro hall
      -- Some game has a number in the field, so that the sides show.
      let zero : Game := ⟨[], 0, 0, 0, 0, 0, ⟨0⟩, 0, ⟨0⟩, 0⟩
      have hzero : (order.field.value zero).isNaN = false := by
        cases order.field <;> decide
      have hsides := (hcompare zero hzero).1 (hall zero hzero)
      omega
    · intro hside c hc
      exact (hcompare c hc).2 (by rw [hside])

end Order

/-! ## Lists with other duplicates -/

/-- The lists hold the same games in the same places, each by a record of its own. -/
def Game.Twins (xs ys : List Game) : Prop :=
  List.Forall₂ (fun a b => a.same b = true) xs ys

namespace Game.Twins

variable {xs ys : List Game}

theorem among_eq (h : Twins xs ys) (hab : a.same b = true) : a.among xs = b.among ys := by
  induction h with
  | nil => rfl
  | @cons c d xs ys hcd _ ih =>
      -- Being the same is passed on along the two pairs of duplicates.
      have hsame : a.same c = b.same d := by
        rw [Bool.eq_iff_iff]
        constructor
        · intro hac
          exact same_trans (same_trans (same_comm a b ▸ hab) hac) hcd
        · intro hbd
          exact same_trans (same_trans hab hbd) (same_comm c d ▸ hcd)
      have hrest : xs.any a.same = ys.any b.same := ih
      simp only [among, List.any_cons, hsame, hrest]

theorem filter (h : Twins xs ys) (filter : Filter) :
    Twins (xs.filter filter.accepts) (ys.filter filter.accepts) := by
  refine List.rel_filter ?_ h
  intro a b hab
  simp only [filter.accepts_eq_of_same hab]

/-- Where the values of the field have the same bits, both lists are sorted in the same way. -/
theorem sort {order : Order} (h : Twins xs ys)
    (hvalues : xs.map (order.field.value ·) = ys.map (order.field.value ·)) :
    Twins (order.sort xs) (order.sort ys) := by
  rcases List.forall₂_iff_zip.1 h with ⟨hlength, hsame⟩
  -- Sorting the pairs by their first parts is sorting them by their second parts.
  have hvalue : ∀ p ∈ xs.zip ys, order.field.value p.1 = order.field.value p.2 := by
    intro p hp
    rcases List.mem_iff_getElem.1 hp with ⟨i, hi, rfl⟩
    have heq := congrArg (fun values => values[i]?) hvalues
    simp only [List.length_zip] at hi
    have hx : i < xs.length := by omega
    have hy : i < ys.length := by omega
    simpa [List.getElem?_eq_getElem hx, List.getElem?_eq_getElem hy] using heq
  let sorted := (xs.zip ys).mergeSort fun p q => order.le p.1 q.1
  have hfirst : sorted.map Prod.fst = order.sort xs := by
    have hmap : (xs.zip ys).map Prod.fst = xs := List.map_fst_zip hlength.le
    rw [List.map_mergeSort (s := order.le) fun _ _ _ _ => rfl, hmap]
    rfl
  have hsecond : sorted.map Prod.snd = order.sort ys := by
    have hmap : (xs.zip ys).map Prod.snd = ys := List.map_snd_zip hlength.ge
    have hle : ∀ p ∈ xs.zip ys, ∀ q ∈ xs.zip ys, order.le p.1 q.1 = order.le p.2 q.2 := by
      intro p hp q hq
      simp only [Order.le, Order.compare, hvalue p hp, hvalue q hq]
    rw [List.map_mergeSort hle, hmap]
    rfl
  rw [Twins, ← hfirst, ← hsecond, List.forall₂_map_left_iff, List.forall₂_map_right_iff,
    List.forall₂_same]
  intro p hp
  exact hsame ((List.mergeSort_perm _ _).mem_iff.1 hp)

theorem fresh {known known' : List Game} (hknown : Twins known known') (h : Twins xs ys) :
    Twins (Game.fresh known xs) (Game.fresh known' ys) := by
  induction h generalizing known known' with
  | nil => exact List.Forall₂.nil
  | @cons a b xs ys hab _ ih =>
      simp only [Game.fresh, hknown.among_eq hab]
      -- Either both are dropped or both become known.
      split
      · exact ih hknown
      · exact List.Forall₂.cons hab (ih (List.Forall₂.cons hab hknown))

theorem map_name (h : Twins xs ys) : xs.map (·.name) = ys.map (·.name) := by
  have hnames : List.Forall₂ Eq (xs.map (·.name)) (ys.map (·.name)) := by
    rw [List.forall₂_map_left_iff, List.forall₂_map_right_iff]
    refine List.Forall₂.imp ?_ h
    intro a b hab
    rw [(Game.same_iff.1 hab).1]
  exact List.forall₂_eq_eq_eq ▸ hnames

theorem names {plan other : Plan} (h : Twins plan.games other.games) :
    plan.names = other.names := by
  rw [Plan.names, Plan.names, h.map_name]

/-- What a query gives for a collection, it gives for one that keeps other duplicates. -/
theorem query {collection other : Collection} (h : Twins collection.games other.games)
    (text : Text) :
    (∀ e, collection.filter text = .error e → other.filter text = .error e) ∧
    ∀ xs, collection.filter text = .ok xs → ∃ ys, other.filter text = .ok ys ∧ Twins xs ys := by
  refine ⟨?_, ?_⟩
  · intro e he
    exact Collection.filter_eq_error_iff.2 (Collection.filter_eq_error_iff.1 he)
  · intro xs hxs
    rcases Collection.filter_eq_ok_iff.1 hxs with ⟨filter, hparse, rfl⟩
    exact ⟨_, Collection.filter_eq_ok_iff.2 ⟨filter, hparse, rfl⟩, h.filter filter⟩

theorem query_sorted {collection other : Collection} (h : Twins collection.games other.games)
    {text : Text} (hxs : collection.filter text = .ok xs) (hys : other.filter text = .ok ys)
    (order : Order) (hvalues : xs.map (order.field.value ·) = ys.map (order.field.value ·)) :
    ∃ sorted sorted',
      collection.filterAndSort text (some order.field) order.direction = .ok sorted ∧
      other.filterAndSort text (some order.field) order.direction = .ok sorted' ∧
      Twins sorted sorted' := by
  rcases (h.query text).2 xs hxs with ⟨ys', hys', htwins⟩
  cases hys.symm.trans hys'
  refine ⟨order.sort xs, order.sort ys, ?_, ?_, htwins.sort hvalues⟩
  · exact Collection.filterAndSort_of_ok hxs (some order.field) order.direction
  · exact Collection.filterAndSort_of_ok hys (some order.field) order.direction

end Game.Twins

/-! ## Who can tell duplicates apart -/

/-- Duplicates pass the same tests.  They compare alike in a sort order, and then tie, exactly if
they have the same bits in its field; with the games that have a number there they compare alike
exactly if their NaNs have the same sign.  So it makes no difference to the filters of a collection,
nor to the names of a plan, which duplicates were there first and were kept, and none to a sort of
games that have the same bits in its field. -/
theorem Game.same_interchangeable (a b : Game) (xs ys : List Game) :
    (a.same b = true →
      (∀ clause : Clause, clause.test a = clause.test b) ∧
      ∀ order : Order,
        ((∀ c, order.compare a c = order.compare b c) ↔
          order.field.value a = order.field.value b) ∧
        (order.compare a b = .eq ↔ order.field.value a = order.field.value b) ∧
        (order.field.value a = order.field.value b ∨
          (order.field.value a).isNaN = true ∧ (order.field.value b).isNaN = true) ∧
        ((∀ c, (order.field.value c).isNaN = false → order.compare a c = order.compare b c) ↔
          (order.field.value a).nanSide = (order.field.value b).nanSide)) ∧
    (Twins xs ys →
      Twins (Collection.ofList xs).games (Collection.ofList ys).games ∧
      (∀ plan other : Plan, Twins plan.games other.games →
        plan.names = other.names ∧ Twins (plan.append xs).plan.games (other.append ys).plan.games) ∧
      ∀ text,
        (∀ e, (Collection.ofList xs).filter text = .error e →
          (Collection.ofList ys).filter text = .error e) ∧
        ∀ selected, (Collection.ofList xs).filter text = .ok selected →
          ∃ selected', (Collection.ofList ys).filter text = .ok selected' ∧
            Twins selected selected' ∧
            ∀ order : Order,
              selected.map (order.field.value ·) = selected'.map (order.field.value ·) →
              ∃ sorted sorted',
                (Collection.ofList xs).filterAndSort text (some order.field) order.direction =
                  .ok sorted ∧
                (Collection.ofList ys).filterAndSort text (some order.field) order.direction =
                  .ok sorted' ∧
                Twins sorted sorted') := by
  refine ⟨?_, ?_⟩
  · intro h
    refine ⟨Clause.test_eq_of_same h, ?_⟩
    intro order
    exact ⟨Order.compare_eq_iff_of_same h, Order.compare_eq_eq_iff_of_same h,
      order.field.value_of_same h, Order.compare_number_eq_iff_of_same h⟩
  · intro h
    have hkept : Twins (Collection.ofList xs).games (Collection.ofList ys).games :=
      Twins.fresh List.Forall₂.nil h
    refine ⟨hkept, ?_, ?_⟩
    · intro plan other hplans
      exact ⟨hplans.names, List.rel_append hplans (Twins.fresh hplans h)⟩
    · intro text
      refine ⟨(hkept.query text).1, ?_⟩
      intro selected hselected
      rcases (hkept.query text).2 selected hselected with ⟨selected', hselected', htwins⟩
      exact ⟨selected', hselected', htwins,
        fun order hvalues => hkept.query_sorted hselected hselected' order hvalues⟩

/-- The difficulties are NaNs of either sign and the ratings the same NaN, so the duplicates tie by
rating and not by difficulty, where a number tells them apart. -/
theorem Game.same_interchangeable_opposite_nans :
    let a : Game := ⟨"Go".toList, 1, 2, 2, 30, 180, .quietNaN false, 23, .quietNaN true, -2200⟩
    let b : Game := { a with difficulty := .quietNaN true }
    a.same b = true ∧ (∀ clause : Clause, clause.test a = clause.test b) ∧
      Order.compare ⟨.rating, .descending⟩ a b = .eq ∧
      ¬ (∀ c, (Field.value c .difficulty).isNaN = false →
        Order.compare ⟨.difficulty, .ascending⟩ a c = Order.compare ⟨.difficulty, .ascending⟩ b c) ∧
      (Collection.ofList [a, b]).games = [a] ∧
      Twins (Collection.ofList [a, b]).games (Collection.ofList [b, a]).games := by
  intro a b
  have h : a.same b = true := by decide +kernel
  have htwins : Twins [a, b] [b, a] :=
    List.Forall₂.cons h (List.Forall₂.cons (by rwa [same_comm]) List.Forall₂.nil)
  rcases same_interchangeable a b [a, b] [b, a] with ⟨hrecords, hlists⟩
  rcases hrecords h with ⟨htest, horder⟩
  refine ⟨h, htest, ?_, ?_, by decide +kernel, (hlists htwins).1⟩
  · exact (horder ⟨.rating, .descending⟩).2.1.2 rfl
  · intro hall
    have hsides := (horder ⟨.difficulty, .ascending⟩).2.2.2.1 hall
    revert hsides
    decide +kernel

/-- Duplicates need not compare alike: here their NaNs differ in sign. -/
theorem Game.same_not_always_interchangeable :
    ¬ ∀ a b : Game, a.same b = true → ∀ (order : Order) (c : Game),
      order.compare a c = order.compare b c := by
  intro h
  let a : Game := ⟨"Go".toList, 1, 2, 2, 30, 180, .quietNaN false, 23, ⟨0⟩, -2200⟩
  let b : Game := { a with difficulty := .quietNaN true }
  have heq := h a b (by decide +kernel) ⟨.difficulty, .ascending⟩ b
  revert heq
  decide +kernel

end GameShelf
