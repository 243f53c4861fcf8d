import GameShelf.Proofs.Game.Interchange
import GameShelf.Proofs.Number
import GameShelf.Proofs.Order.Preorder

/-!
# How far the order of values is transitive

Fields hold values of one kind, and there the order is transitive.  Among all values it is not: an
integer is rounded before it meets a binary64 number, so that number can tie with two integers of
which one is greater (`Value.Merges`).

Nothing else goes wrong.  Every number has a place in the total order of binary64 numbers, rounding
keeps the order of integers, and so a chain goes up in its places.  Only between two integers of one
place does that say too little.
-/

set_option autoImplicit false

namespace GameShelf

variable {a b c : Number} {u v w : Value}

/-- Two integers, the greater one in front, and between them the number to which both are
rounded. -/
inductive Value.Merges : Value → Value → Value → Prop where
  | intro {m n : Int64} {x : Binary64} (hlt : n.toInt < m.toInt)
      (hm : Binary64.ofInt m.toInt = x) (hn : Binary64.ofInt n.toInt = x) :
      Merges (.number (.int m)) (.number (.float x)) (.number (.int n))

/-! ## Numbers -/

namespace Number

/-- The place of a number in the total order of binary64 numbers. -/
def place (n : Number) : Int :=
  n.toBinary64.totalKey

theorem totalCompare_float_left (x : Binary64) (b : Number) :
    (Number.float x).totalCompare b = compare (Number.float x).place b.place := by
  cases b with
  | int n => rfl
  | float y => rfl

theorem totalCompare_float_right (a : Number) (y : Binary64) :
    a.totalCompare (.float y) = compare a.place (Number.float y).place := by
  cases a with
  | int m => rfl
  | float x => rfl

theorem place_le_of_isLE (h : (a.totalCompare b).isLE = true) : a.place ≤ b.place := by
  cases a with
  | int m =>
      cases b with
      | int n => exact Binary64.totalKey_ofInt_mono (Std.isLE_compare.1 h)
      | float y =>
          rw [totalCompare_float_right] at h
          exact Std.isLE_compare.1 h
  | float x =>
      rw [totalCompare_float_left] at h
      exact Std.isLE_compare.1 h

theorem isLE_totalCompare_trans_iff (hab : (a.totalCompare b).isLE = true)
    (hbc : (b.totalCompare c).isLE = true) :
    (a.totalCompare c).isLE = true ↔ ¬ Value.Merges (.number a) (.number b) (.number c) := by
  have hfront : a.place ≤ b.place := place_le_of_isLE hab
  have hback : b.place ≤ c.place := place_le_of_isLE hbc
  -- The places decide, except between two integers that met a binary64 number in the middle.
  cases a with
  | float x =>
      rw [totalCompare_float_left]
      exact iff_of_true (Std.isLE_compare.2 (hfront.trans hback)) nofun
  | int l =>
      cases c with
      | float z =>
          rw [totalCompare_float_right]
          exact iff_of_true (Std.isLE_compare.2 (hfront.trans hback)) nofun
      | int n =>
          cases b with
          | int m => exact iff_of_true (Std.TransOrd.isLE_trans hab hbc) nofun
          | float y =>
              change (compare l.toInt n.toInt).isLE = true ↔ _
              rw [Std.isLE_compare]
              constructor
              · rintro hle ⟨hlt, -, -⟩
                exact hlt.not_ge hle
              · intro hmerges
                by_contra hgt
                -- Rounded, the two integers are also in the order in which they are not given.
                have hround : (Number.int n).place ≤ (Number.int l).place :=
                  Binary64.totalKey_ofInt_mono (le_of_not_ge hgt)
                refine hmerges (.intro (not_le.1 hgt) ?_ ?_)
                · exact Binary64.totalKey_inj.1 (le_antisymm hfront (hback.trans hround))
                · exact Binary64.totalKey_inj.1 (le_antisymm (hround.trans hfront) hback)

end Number

/-! ## Values -/

namespace Value

/-- One of the two integers is not a binary64 number. -/
theorem Merges.exists_large (h : Merges u v w) :
    ∃ n : Int64, (u = .number (.int n) ∨ w = .number (.int n)) ∧ 2 ^ 53 < n.toInt.natAbs := by
  rcases h with @⟨m, n, x, hlt, hm, hn⟩
  by_cases hlarge : 2 ^ 53 < m.toInt.natAbs
  · exact ⟨m, Or.inl rfl, hlarge⟩
  · refine ⟨n, Or.inr rfl, ?_⟩
    by_contra hsmall
    have hmkept := Binary64.denote_ofInt_of_natAbs_le (not_lt.1 hlarge)
    have hnkept := Binary64.denote_ofInt_of_natAbs_le (not_lt.1 hsmall)
    rw [hm] at hmkept
    rw [hn, hmkept, Binary64.denoteInt_inj] at hnkept
    exact hlt.ne hnkept.symm

theorem isLE_compare_trans_iff (huv : (u.compare v).isLE = true)
    (hvw : (v.compare w).isLE = true) : (u.compare w).isLE = true ↔ ¬ Merges u v w := by
  cases u with
  | text a =>
      -- Nothing but texts comes behind a text.
      cases v with
      | number m => cases huv
      | text b =>
          cases w with
          | number n => cases hvw
          | text c => exact iff_of_true (isLE_compare_trans (v := .text b) rfl rfl huv hvw) nofun
  | number l =>
      cases w with
      | text c => exact iff_of_true rfl nofun
      | number n =>
          cases v with
          | text b => cases hvw
          | number m => exact Number.isLE_totalCompare_trans_iff huv hvw

theorem compare_eq_eq_iff :
    u.compare w = .eq ↔ (u.compare w).isLE = true ∧ (w.compare u).isLE = true := by
  rw [compare_eq_swap w u]
  cases u.compare w <;> decide

theorem compare_eq_trans_iff (huv : u.compare v = .eq) (hvw : v.compare w = .eq) :
    u.compare w = .eq ↔ ¬ (Merges u v w ∨ Merges w v u) := by
  rcases compare_eq_eq_iff.1 huv with ⟨huv, hvu⟩
  rcases compare_eq_eq_iff.1 hvw with ⟨hvw, hwv⟩
  rw [compare_eq_eq_iff, isLE_compare_trans_iff huv hvw, isLE_compare_trans_iff hwv hvu, not_or]

/-- Comparing values is oriented.  A chain of three values is transitive, and so is a chain of ties,
except where two integers are rounded to the number between them; one of these is then beyond
`2 ^ 53`. -/
theorem compare_transitive_iff (u v w : Value) :
    v.compare u = (u.compare v).swap ∧
    ((u.compare v).isLE = true → (v.compare w).isLE = true →
      ((u.compare w).isLE = true ↔ ¬ Merges u v w)) ∧
    (u.compare v = .eq → v.compare w = .eq →
      (u.compare w = .eq ↔ ¬ (Merges u v w ∨ Merges w v u))) ∧
    (Merges u v w →
      ∃ n : Int64, (u = .number (.int n) ∨ w = .number (.int n)) ∧ 2 ^ 53 < n.toInt.natAbs) :=
  ⟨compare_eq_swap v u, isLE_compare_trans_iff, compare_eq_trans_iff, Merges.exists_large⟩

/-- The number `2 ^ 53` ties with the integers `2 ^ 53` and `2 ^ 53 + 1`. -/
theorem compare_transitive_above_two_pow :
    let u : Value := .number (.int 9007199254740993)
    let v : Value := .number (.float ⟨0x4340000000000000⟩)
    let w : Value := .number (.int 9007199254740992)
    u.compare v = .eq ∧ v.compare w = .eq ∧ (u.compare w).isLE = false ∧ u.compare w ≠ .eq := by
  intro u v w
  have hmerges : Merges u v w :=
    .intro (by decide) (by decide +kernel) (by decide +kernel)
  have huv : u.compare v = .eq := by
    decide +kernel
  have hvw : v.compare w = .eq := by
    decide +kernel
  rcases compare_transitive_iff u v w with ⟨-, hle, heq, -⟩
  refine ⟨huv, hvw, ?_, ?_⟩
  · rw [← Bool.not_eq_true, hle (by rw [huv]; rfl) (by rw [hvw]; rfl)]
    exact not_not_intro hmerges
  · rw [Ne, heq huv hvw]
    exact not_not_intro (Or.inl hmerges)

/-- Comparing values is not always transitive. -/
theorem compare_not_always_transitive :
    ¬ ∀ u v w : Value,
      v.compare u = (u.compare v).swap ∧
      ((u.compare v).isLE = true → (v.compare w).isLE = true → (u.compare w).isLE = true) ∧
      (u.compare v = .eq → v.compare w = .eq → u.compare w = .eq) := by
  intro h
  have hequal := (h (.number (.int 9007199254740993)) (.number (.float ⟨0x4340000000000000⟩))
    (.number (.int 9007199254740992))).2.2 (by decide +kernel) (by decide +kernel)
  revert hequal
  decide +kernel

end Value

end GameShelf
