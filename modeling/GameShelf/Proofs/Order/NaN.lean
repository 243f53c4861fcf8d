import GameShelf.Proofs.Order.StableSort
import Mathlib.Data.List.Pairwise

/-!
# Where a sort puts the NaNs

The total order of binary64 numbers has NaNs at both of its ends: those with the sign set before
all other numbers and those without it after them.  So an ascending sort puts the NaNs last only if
none of them has the sign set, or if there is nothing but NaNs.

The same holds of a descending sort that is read from its end.
-/

set_option autoImplicit false

namespace GameShelf

variable {x y : Binary64} {v w : Value}

/-! ## The end of the order at which a NaN is -/

/-- The end of the total order at which a NaN is; zero for all other numbers. -/
def Binary64.nanSide (x : Binary64) : Int :=
  if x.isNaN then if x.isNegative then -1 else 1 else 0

/-- The NaNs are what lies beyond the two infinities. -/
theorem Binary64.nanSide_eq (x : Binary64) :
    x.nanSide =
      if (infinityMagnitude : Int) < x.totalKey then 1
      else if x.totalKey < -(infinityMagnitude : Int) - 1 then -1
      else 0 := by
  have hnan : x.isNaN = true ↔ infinityMagnitude < x.magnitude := by
    simp [isNaN]
  cases hneg : x.isNegative with
  | false =>
      have hkey : x.totalKey = (x.magnitude : Int) := by
        simp [totalKey, hneg]
      simp only [nanSide, hkey, hnan, hneg, Bool.false_eq_true, if_false]
      omega
  | true =>
      have hkey : x.totalKey = -(x.magnitude : Int) - 1 := by
        simp [totalKey, hneg]
      simp only [nanSide, hkey, hnan, hneg, if_true]
      omega

theorem Binary64.nanSide_mono (h : x.totalKey ≤ y.totalKey) : x.nanSide ≤ y.nanSide := by
  rw [nanSide_eq, nanSide_eq]
  omega

theorem Binary64.isNaN_iff : x.isNaN = true ↔ x.nanSide ≠ 0 := by
  cases hnan : x.isNaN with
  | false => simp [nanSide, hnan]
  | true => cases hneg : x.isNegative <;> simp [nanSide, hnan, hneg]

theorem Binary64.isNaN_and_isNegative_iff :
    (x.isNaN && x.isNegative) = true ↔ x.nanSide < 0 := by
  cases hnan : x.isNaN with
  | false => simp [nanSide, hnan]
  | true => cases hneg : x.isNegative <;> simp [nanSide, hnan, hneg]

namespace Value

/-- Whether the value is a NaN, of whatever sign and payload. -/
def isNaN : Value → Bool
  | .number (.float x) => x.isNaN
  | _ => false

/-- Whether the value is a NaN with the sign set. -/
def isNegativeNaN : Value → Bool
  | .number (.float x) => x.isNaN && x.isNegative
  | _ => false

/-- The end of the order at which a NaN is; zero for all other values. -/
def nanSide : Value → Int
  | .number (.float x) => x.nanSide
  | _ => 0

theorem isNaN_iff : v.isNaN = true ↔ v.nanSide ≠ 0 := by
  match v with
  | .text _ => simp [isNaN, nanSide]
  | .number (.int _) => simp [isNaN, nanSide]
  | .number (.float _) => exact Binary64.isNaN_iff

theorem isNegativeNaN_iff : v.isNegativeNaN = true ↔ v.nanSide < 0 := by
  match v with
  | .text _ => simp [isNegativeNaN, nanSide]
  | .number (.int _) => simp [isNegativeNaN, nanSide]
  | .number (.float _) => exact Binary64.isNaN_and_isNegative_iff

theorem isNaN_eq_false_iff : v.isNaN = false ↔ v.nanSide = 0 := by
  rw [← Bool.not_eq_true, isNaN_iff, ne_eq, Decidable.not_not]

/-- Among values of one kind the order goes from one end to the other. -/
theorem nanSide_le_of_isLE (hkind : v.kind = w.kind) (h : (v.compare w).isLE = true) :
    v.nanSide ≤ w.nanSide := by
  match v, w, hkind with
  | .text _, .text _, _ => exact Int.le_refl 0
  | .number (.int _), .number (.int _), _ => exact Int.le_refl 0
  | .number (.float x), .number (.float y), _ =>
      have hkey : x.totalKey ≤ y.totalKey := by
        change (Ord.compare x.totalKey y.totalKey).isLE = true at h
        rwa [← Std.isLE_compare]
      exact Binary64.nanSide_mono hkey

end Value

/-! ## Reading a list in a direction -/

/-- A relation of two games as a sort in this direction reads it: descending, from the end. -/
def Direction.Reads (direction : Direction) (r : Game → Game → Prop) (a b : Game) : Prop :=
  match direction with
  | .ascending => r a b
  | .descending => r b a

/-- Of two different games of a list one is read first. -/
theorem Direction.rel_or_rel_of_pairwise {direction : Direction} {r : Game → Game → Prop}
    {games : List Game} (h : games.Pairwise (direction.Reads r)) {a b : Game} (ha : a ∈ games)
    (hb : b ∈ games) (hne : a ≠ b) : r a b ∨ r b a := by
  have hsymm : Std.Symm fun a b => r a b ∨ r b a := ⟨fun _ _ => Or.symm⟩
  have heither : games.Pairwise fun a b => r a b ∨ r b a := by
    refine List.Pairwise.imp ?_ h
    intro a b hab
    cases direction with
    | ascending => exact Or.inl hab
    | descending => exact Or.inr hab
  exact heither.forall ha hb hne

/-! ## The NaNs of a sorted list -/

namespace Order

variable {field : Field} {direction : Direction} {games : List Game}

/-- No NaN of the field comes before a value that is none. -/
def NansLast (field : Field) (direction : Direction) (games : List Game) : Prop :=
  games.Pairwise (direction.Reads fun a b =>
    (field.value a).isNaN = true → (field.value b).isNaN = true)

/-- The NaNs with the sign set come first, then all that are none, then the NaNs without it. -/
def NansAtBothEnds (field : Field) (direction : Direction) (games : List Game) : Prop :=
  games.Pairwise (direction.Reads fun a b => (field.value a).nanSide ≤ (field.value b).nanSide)

theorem nansAtBothEnds_sort (field : Field) (direction : Direction) (games : List Game) :
    NansAtBothEnds field direction (sort ⟨field, direction⟩ games) := by
  have hsorted : (sort ⟨field, direction⟩ games).Pairwise
      fun a b => le ⟨field, direction⟩ a b = true :=
    pairwise_le_sort _ games
  refine List.Pairwise.imp ?_ hsorted
  intro a b hle
  cases direction with
  | ascending => exact Value.nanSide_le_of_isLE (field.kind_value_eq a b) hle
  | descending =>
      rw [le, compare_descending] at hle
      exact Value.nanSide_le_of_isLE (field.kind_value_eq b a) hle

/-- With NaNs at both ends, they are last only if the front end has none, or if there is nothing
else. -/
theorem nansLast_iff_of_nansAtBothEnds (h : NansAtBothEnds field direction games) :
    NansLast field direction games ↔
      ¬ ((∃ a ∈ games, (field.value a).isNegativeNaN = true) ∧
        ∃ b ∈ games, (field.value b).isNaN = false) := by
  constructor
  · rintro hlast ⟨⟨a, ha, hnegative⟩, b, hb, hnumber⟩
    have hfront : (field.value a).nanSide < 0 := Value.isNegativeNaN_iff.1 hnegative
    have hbetween : (field.value b).nanSide = 0 := Value.isNaN_eq_false_iff.1 hnumber
    have hnan : (field.value a).isNaN = true := Value.isNaN_iff.2 (by omega)
    have hne : a ≠ b := by
      rintro rfl
      omega
    have hboth : games.Pairwise (direction.Reads fun a b =>
        (field.value a).nanSide ≤ (field.value b).nanSide ∧
          ((field.value a).isNaN = true → (field.value b).isNaN = true)) := by
      cases direction with
      | ascending => exact h.and hlast
      | descending => exact h.and hlast
    -- Neither of the two may be read first.
    rcases Direction.rel_or_rel_of_pairwise hboth ha hb hne with ⟨-, hnans⟩ | ⟨hends, -⟩
    · rw [hnans hnan] at hnumber
      cases hnumber
    · omega
  · intro hnone
    have hlast : ∀ a ∈ games, ∀ b ∈ games, (field.value a).nanSide ≤ (field.value b).nanSide →
        (field.value a).isNaN = true → (field.value b).isNaN = true := by
      intro a ha b hb hends hnan
      by_contra hnumber
      have hbetween : (field.value b).nanSide = 0 :=
        Value.isNaN_eq_false_iff.1 (Bool.not_eq_true _ ▸ hnumber)
      have hside : (field.value a).nanSide ≠ 0 := Value.isNaN_iff.1 hnan
      refine hnone ⟨⟨a, ha, Value.isNegativeNaN_iff.2 (by omega)⟩, b, hb, ?_⟩
      exact Value.isNaN_eq_false_iff.2 hbetween
    refine List.Pairwise.imp_of_mem ?_ h
    intro a b ha hb hends
    cases direction with
    | ascending => exact hlast a ha b hb hends
    | descending => exact hlast b hb a ha hends

/-- A sort puts NaNs without sign last and those with the sign set first.  So the NaNs of the field
all come last exactly when none has the sign set or there is nothing but NaNs. -/
theorem nansLast_sortGames_iff (field : Field) (direction : Direction) (games : List Game) :
    ∃ sorted, sortGames games (some field) direction = .ok sorted ∧
      NansAtBothEnds field direction sorted ∧
      (NansLast field direction sorted ↔
        ¬ ((∃ a ∈ games, (field.value a).isNegativeNaN = true) ∧
          ∃ b ∈ games, (field.value b).isNaN = false)) := by
  have hends := nansAtBothEnds_sort field direction games
  refine ⟨sort ⟨field, direction⟩ games, rfl, hends, ?_⟩
  rw [nansLast_iff_of_nansAtBothEnds hends]
  -- The sorted list has the same games.
  have hmem : ∀ game, game ∈ sort ⟨field, direction⟩ games ↔ game ∈ games := by
    intro game
    exact (sort_perm ⟨field, direction⟩ games).mem_iff
  simp only [hmem]

/-- The NaNs of a float field are not always last: with the sign set they come first. -/
theorem nansLast_sortGames_not_always :
    ¬ ∀ (field : Field) (direction : Direction) (games sorted : List Game), field.kind = .float →
      sortGames games (some field) direction = .ok sorted → NansLast field direction sorted := by
  intro h
  let rated : Game := ⟨"Go".toList, 1, 2, 2, 30, 180, ⟨0x4000000000000000⟩, 23, ⟨0⟩, -2200⟩
  let unrated : Game := ⟨"Azul".toList, 3, 2, 4, 30, 45, .quietNaN true, 50, ⟨0⟩, 2017⟩
  have hends := nansAtBothEnds_sort .difficulty .ascending [rated, unrated]
  have hlast := h .difficulty .ascending [rated, unrated] _ rfl rfl
  have hmem : ∀ game ∈ [rated, unrated], game ∈ sort ⟨.difficulty, .ascending⟩ [rated, unrated] := by
    intro game hgame
    exact (sort_perm ⟨.difficulty, .ascending⟩ [rated, unrated]).mem_iff.2 hgame
  refine (nansLast_iff_of_nansAtBothEnds hends).1 hlast ⟨⟨unrated, ?_, ?_⟩, rated, ?_, ?_⟩
  · exact hmem unrated (by simp)
  · decide +kernel
  · exact hmem rated (by simp)
  · decide +kernel

end Order
end GameShelf
