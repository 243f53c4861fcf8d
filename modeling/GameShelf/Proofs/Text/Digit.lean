import GameShelf.Proofs.Text.AsciiCase
import Mathlib.Data.List.Basic

/-!
# Runs of digits

A run of digits is one or more decimal digits, of one script or of several.  Read in base ten it
stands for a number.  The digits of ASCII are among them, with the values that reading them as
ASCII gives, and neither letters of ASCII nor the hyphen are.
-/

set_option autoImplicit false

namespace GameShelf.Text

variable {t : Text} {c : Char}

/-- One or more decimal digits of whatever scripts. -/
def DigitRun (t : Text) : Prop :=
  t ≠ [] ∧ ∀ c ∈ t, isDecimalDigit c = true

/-- One or more decimal digits of ASCII. -/
def AsciiDigitRun (t : Text) : Prop :=
  t ≠ [] ∧ ∀ c ∈ t, c.isDigit = true

instance (t : Text) : Decidable t.DigitRun :=
  decidable_of_iff (t ≠ [] ∧ t.all isDecimalDigit = true) (by rw [DigitRun, List.all_eq_true])

instance (t : Text) : Decidable t.AsciiDigitRun :=
  decidable_of_iff (t ≠ [] ∧ t.all Char.isDigit = true) (by rw [AsciiDigitRun, List.all_eq_true])

/-- The number that digits stand for in base ten, each with the value it has in its script. -/
def decimalValue (t : Text) : Nat :=
  t.foldl (fun value c => 10 * value + (digitValue? c).getD 0) 0

/-! ## Digits -/

theorem digitValue?_of_isDigit (hc : c.isDigit = true) :
    digitValue? c = some (c.toNat - '0'.toNat) := by
  simp only [Char.isDigit, Bool.and_eq_true, decide_eq_true_eq] at hc
  have hlow : '0'.toNat ≤ c.toNat := hc.1
  have hhigh : c.toNat < '0'.toNat + 10 := Nat.lt_succ_of_le hc.2
  -- The zero of ASCII is the first of the table.
  have hzero : digitZeros.find? (fun start => start ≤ c.toNat && c.toNat < start + 10) =
      some '0'.toNat :=
    List.find?_cons_of_pos (by
      rw [Bool.and_eq_true, decide_eq_true_eq, decide_eq_true_eq]
      exact ⟨hlow, hhigh⟩)
  rw [digitValue?, hzero]
  rfl

theorem isDecimalDigit_of_isDigit (hc : c.isDigit = true) : isDecimalDigit c = true := by
  rw [isDecimalDigit, digitValue?_of_isDigit hc]
  rfl

/-- The digits of every script keep clear of the letters of ASCII. -/
theorem isAlpha_of_isDecimalDigit (hc : isDecimalDigit c = true) : c.isAlpha = false := by
  by_contra hletter
  rw [Bool.not_eq_false] at hletter
  have hbounds := toNat_of_isAlpha hletter
  have hzeros : ∀ start ∈ digitZeros, start + 10 ≤ 'A'.toNat ∨ 'z'.toNat < start := by
    decide
  have horder : 'A'.toNat ≤ 'a'.toNat ∧ 'Z'.toNat ≤ 'z'.toNat := by decide
  rw [isDecimalDigit, digitValue?, Option.isSome_map, List.find?_isSome] at hc
  rcases hc with ⟨start, hmem, hstart⟩
  rw [Bool.and_eq_true, decide_eq_true_eq, decide_eq_true_eq] at hstart
  rcases hzeros start hmem with hbelow | habove
  · omega
  · omega

/-! ## Runs -/

theorem AsciiDigitRun.all_isDigit (h : t.AsciiDigitRun) : t.all Char.isDigit = true :=
  List.all_eq_true.2 h.2

theorem AsciiDigitRun.digitRun (h : t.AsciiDigitRun) : t.DigitRun :=
  ⟨h.1, fun c hc => isDecimalDigit_of_isDigit (h.2 c hc)⟩

theorem DigitRun.hyphen_not_mem (h : t.DigitRun) : '-' ∉ t := by
  intro hmem
  have hdigit := h.2 '-' hmem
  revert hdigit
  decide +kernel

/-- Digits of ASCII stand for the number that they are in ASCII. -/
theorem decimalValue_of_all_isDigit (h : t.all Char.isDigit = true) :
    t.decimalValue = Nat.ofDigitChars 10 t 0 := by
  refine List.foldl_ext _ _ 0 ?_
  intro value c hc
  rw [digitValue?_of_isDigit (List.all_eq_true.1 h c hc)]
  rfl

end GameShelf.Text
