import GameShelf.Order

/-!
# Sort orders are total preorders

A stable sort is only worth its name when the comparison behind it is oriented and transitive.
Orientation holds for any two values.  Transitivity needs values of one kind: between an integer and
a binary64 number the integer is rounded first, and a chain through such a number can lose the
difference between two integers.  A field holds values of one kind, so every sort order is
transitive.

Numbers compare as integers do: whole numbers by their value, binary64 numbers by their place in the
total order, which tells all bit patterns apart.  Names compare as lists of characters.
-/

set_option autoImplicit false

namespace GameShelf

/-! ## Values -/

theorem Number.totalCompare_eq_swap (m n : Number) :
    m.totalCompare n = (n.totalCompare m).swap := by
  cases m with
  | int m =>
      cases n with
      | int n =>
          change compare m.toInt n.toInt = (compare n.toInt m.toInt).swap
          exact Std.OrientedOrd.eq_swap
      | float y =>
          change compare (Binary64.ofInt m.toInt).totalKey y.totalKey =
            (compare y.totalKey (Binary64.ofInt m.toInt).totalKey).swap
          exact Std.OrientedOrd.eq_swap
  | float x =>
      change compare x.totalKey n.toBinary64.totalKey =
        (n.totalCompare (.float x)).swap
      have hswap : n.totalCompare (.float x) = compare n.toBinary64.totalKey x.totalKey := by
        cases n with
        | int n => rfl
        | float y => rfl
      rw [hswap]
      exact Std.OrientedOrd.eq_swap

theorem Value.compare_eq_swap (v w : Value) : v.compare w = (w.compare v).swap := by
  cases v with
  | text a =>
      cases w with
      | text b =>
          change Ord.compare a.foldCase b.foldCase = (Ord.compare b.foldCase a.foldCase).swap
          exact Std.OrientedOrd.eq_swap
      | number n => rfl
  | number m =>
      cases w with
      | text b => rfl
      | number n => exact m.totalCompare_eq_swap n

/-- Among values of one kind the order is transitive. -/
theorem Value.isLE_compare_trans {u v w : Value} (huv : u.kind = v.kind) (hvw : v.kind = w.kind)
    (h : (u.compare v).isLE = true) (h' : (v.compare w).isLE = true) :
    (u.compare w).isLE = true := by
  match u, v, w, huv, hvw with
  | .text a, .text b, .text c, _, _ =>
      exact Std.TransOrd.isLE_trans (a := a.foldCase) (b := b.foldCase) (c := c.foldCase) h h'
  | .number (.int l), .number (.int m), .number (.int n), _, _ =>
      exact Std.TransOrd.isLE_trans (a := l.toInt) (b := m.toInt) (c := n.toInt) h h'
  | .number (.float x), .number (.float y), .number (.float z), _, _ =>
      exact Std.TransOrd.isLE_trans (a := x.totalKey) (b := y.totalKey) (c := z.totalKey) h h'

theorem Field.kind_value_eq (field : Field) (a b : Game) :
    (field.value a).kind = (field.value b).kind := by
  rw [kind_value, kind_value]

/-! ## Directions -/

theorem Direction.apply_swap (direction : Direction) (outcome : Ordering) :
    direction.apply outcome.swap = (direction.apply outcome).swap := by
  cases direction with
  | ascending => rfl
  | descending => rfl

/-! ## Sort orders -/

namespace Order

theorem compare_eq_swap (order : Order) (a b : Game) :
    order.compare a b = (order.compare b a).swap := by
  rw [compare, compare, Value.compare_eq_swap, Direction.apply_swap]

/-- The descending order is the ascending one with its two games exchanged. -/
theorem compare_descending (field : Field) (a b : Game) :
    compare ⟨field, .descending⟩ a b = compare ⟨field, .ascending⟩ b a := by
  change ((field.value a).compare (field.value b)).swap = (field.value b).compare (field.value a)
  exact (Value.compare_eq_swap _ _).symm

theorem isLE_compare_trans (order : Order) {a b c : Game} (hab : (order.compare a b).isLE = true)
    (hbc : (order.compare b c).isLE = true) : (order.compare a c).isLE = true := by
  rcases order with ⟨field, direction⟩
  have hkind : ∀ a b : Game, (field.value a).kind = (field.value b).kind := field.kind_value_eq
  cases direction with
  | ascending => exact Value.isLE_compare_trans (hkind a b) (hkind b c) hab hbc
  | descending =>
      rw [compare_descending] at hab hbc ⊢
      exact Value.isLE_compare_trans (hkind c b) (hkind b a) hbc hab

instance (order : Order) : Std.TransCmp order.compare where
  eq_swap := order.compare_eq_swap _ _
  isLE_trans := order.isLE_compare_trans

theorem compare_self (order : Order) (game : Game) : order.compare game game = .eq :=
  Std.ReflCmp.compare_self

end Order
end GameShelf
