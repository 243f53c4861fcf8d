import GameShelf.Proofs.Numeral.Decimal
import GameShelf.Proofs.Outcome
import Mathlib.Data.List.Forall2
import Mathlib.Data.Nat.Digits.Defs

/-!
# Which texts are whole numbers

The texts that denote a whole number are defined by what is written, digit by digit, and without a
limit; the reader accepts those of them whose number is within its range, and reads that number
(`readSigned_eq_ok_iff`).  It checks the range with each digit.  That is no stricter than to check
the whole number, as a number only grows with the digits that follow.
-/

set_option autoImplicit false

namespace GameShelf.Numeral

variable {base limit value n : Nat} {overflow : Fault} {t : Text} {c : Char} {i : Int}

/-! ## What is written -/

/-- The digits of all bases, in the order of their values. -/
def digitLetters : Text :=
  "0123456789abcdefghijklmnopqrstuvwxyz".toList

/-- The character is the digit with this value, as a letter of either case. -/
def IsDigit (base : Nat) (c : Char) (value : Nat) : Prop :=
  value < base ∧ digitLetters.idxOf? c.toLower = some value

/-- The text is a number written in digits, at least one. -/
def DenotesNat (base : Nat) (t : Text) (n : Nat) : Prop :=
  t ≠ [] ∧ ∃ digits, List.Forall₂ (IsDigit base) t digits ∧ n = Nat.ofDigits base digits.reverse

/-- The text is a whole number: digits behind an optional sign. -/
inductive DenotesInt (base : Nat) : Text → Int → Prop where
  | plain {t : Text} {n : Nat} (h : DenotesNat base t n) : DenotesInt base t n
  | plus {t : Text} {n : Nat} (h : DenotesNat base t n) : DenotesInt base ('+' :: t) n
  | minus {t : Text} {n : Nat} (h : DenotesNat base t n) : DenotesInt base ('-' :: t) (-(n : Int))

/-- The text is a number of 32 bits, in decimal or behind `0x` in hexadecimal. -/
def DenotesInt32 (t : Text) (n : Int32) : Prop :=
  DenotesInt 10 t n.toInt ∨ ∃ digits, t = '0' :: 'x' :: digits ∧ DenotesInt 16 digits n.toInt

/-! ## Digits -/

/-- A smaller base has the same digits, only fewer of them. -/
theorem digitIn?_eq_some_iff_lt (hbase : base ≤ 36) :
    digitIn? base c = some value ↔ value < base ∧ digitIn? 36 c = some value := by
  simp only [digitIn?, Option.ite_none_right_eq_some, Option.some.injEq]
  split
  · omega
  · split
    · omega
    · split <;> omega

theorem digitIn?_of_lt :
    ∀ n < 128, digitIn? 36 (Char.ofNat n) = digitLetters.idxOf? (Char.ofNat n).toLower := by
  decide +kernel

/-- Only ASCII characters are digits. -/
theorem digitIn?_of_le (hc : 128 ≤ c.toNat) : digitIn? 36 c = digitLetters.idxOf? c.toLower := by
  have hbeyond : ∀ bound : Char, bound.toNat < 128 → ¬ c ≤ bound := by
    intro bound hbound hle
    have hnat : c.toNat ≤ bound.toNat := hle
    omega
  have hkept : c.toLower = c := dif_neg fun h => hbeyond 'Z' (by decide) h.2
  have hletters : digitLetters.all (·.toNat < 128) = true := by decide
  have hnone : digitLetters.idxOf? c = none := by
    rw [List.idxOf?_eq_none_iff]
    intro hmem
    have hlt := List.all_eq_true.1 hletters c hmem
    rw [decide_eq_true_eq] at hlt
    omega
  rw [hkept, hnone]
  simp [digitIn?, hbeyond '9' (by decide), hbeyond 'z' (by decide), hbeyond 'Z' (by decide)]

theorem digitIn?_eq_some_iff (hbase : base ≤ 36) :
    digitIn? base c = some value ↔ IsDigit base c value := by
  have hvalue : digitIn? 36 c = digitLetters.idxOf? c.toLower := by
    rcases Nat.lt_or_ge c.toNat 128 with hascii | hbeyond
    · have hchar := digitIn?_of_lt c.toNat hascii
      rwa [Char.ofNat_toNat] at hchar
    · exact digitIn?_of_le hbeyond
  rw [digitIn?_eq_some_iff_lt hbase, hvalue, IsDigit]

/-! ## Magnitudes -/

/-- The number that is read when digits follow the magnitude read so far. -/
def appendDigits (base magnitude : Nat) (digits : List Nat) : Nat :=
  digits.foldl (fun magnitude digit => base * magnitude + digit) magnitude

@[simp] theorem appendDigits_nil (base magnitude : Nat) :
    appendDigits base magnitude [] = magnitude :=
  rfl

theorem appendDigits_zero (base : Nat) (digits : List Nat) :
    appendDigits base 0 digits = Nat.ofDigits base digits.reverse := by
  rw [Nat.ofDigits_eq_foldr, List.foldr_reverse]
  simp only [appendDigits, Nat.cast_id, Nat.add_comm]

theorem le_appendDigits (hbase : 0 < base) (magnitude : Nat) (digits : List Nat) :
    magnitude ≤ appendDigits base magnitude digits := by
  induction digits generalizing magnitude with
  | nil => exact Nat.le_refl magnitude
  | cons digit rest ih =>
      calc
        magnitude ≤ base * magnitude := Nat.le_mul_of_pos_left magnitude hbase
        _ ≤ base * magnitude + digit := Nat.le_add_right _ _
        _ ≤ appendDigits base magnitude (digit :: rest) := ih _

/-- Digits are read behind a magnitude if the whole number is within the limit. -/
theorem readMagnitude_eq_ok_iff_append (hpos : 0 < base) (hbase : base ≤ 36) {magnitude : Nat}
    (hmagnitude : magnitude ≤ limit) :
    readMagnitude base limit overflow magnitude t = .ok n ↔
      n ≤ limit ∧ ∃ digits, List.Forall₂ (IsDigit base) t digits ∧
        n = appendDigits base magnitude digits := by
  -- On the text, with the magnitude of the digits that have been read.
  induction t generalizing magnitude with
  | nil =>
      simp only [readMagnitude, Except.ok.injEq, List.forall₂_nil_left_iff, exists_eq_left,
        appendDigits_nil]
      omega
  | cons c rest ih =>
      simp only [List.forall₂_cons_left_iff]
      rw [readMagnitude]
      cases hdigit : digitIn? base c with
      | none =>
          refine iff_of_false (by simp) ?_
          rintro ⟨-, _, ⟨value, _, hvalue, -, -⟩, -⟩
          rw [(digitIn?_eq_some_iff hbase).2 hvalue] at hdigit
          cases hdigit
      | some digit =>
          have hthis := (digitIn?_eq_some_iff hbase).1 hdigit
          have honly : ∀ value, IsDigit base c value → value = digit := by
            intro value hvalue
            rw [(digitIn?_eq_some_iff hbase).2 hvalue] at hdigit
            exact Option.some.inj hdigit
          simp only
          split
          next hwithin =>
              rw [ih hwithin]
              refine and_congr_right fun _ => ?_
              constructor
              · rintro ⟨digits, hdigits, rfl⟩
                exact ⟨digit :: digits, ⟨digit, digits, hthis, hdigits, rfl⟩, rfl⟩
              · rintro ⟨_, ⟨value, digits, hvalue, hdigits, rfl⟩, rfl⟩
                cases honly value hvalue
                exact ⟨digits, hdigits, rfl⟩
          next hbeyond =>
              -- The number only grows with the digits that follow.
              refine iff_of_false (by simp) ?_
              rintro ⟨hle, _, ⟨value, digits, hvalue, -, rfl⟩, rfl⟩
              cases honly value hvalue
              exact hbeyond (Nat.le_trans (le_appendDigits hpos _ digits) hle)

theorem readMagnitude_eq_ok_iff (hpos : 0 < base) (hbase : base ≤ 36) (ht : t ≠ []) :
    readMagnitude base limit overflow 0 t = .ok n ↔ n ≤ limit ∧ DenotesNat base t n := by
  simp only [readMagnitude_eq_ok_iff_append hpos hbase (Nat.zero_le limit), DenotesNat,
    appendDigits_zero, ne_eq, ht, not_false_eq_true, true_and]

/-! ## Signs -/

theorem not_isDigit_of_sign (hc : c = '+' ∨ c = '-') : ¬ IsDigit base c value := by
  have hnone : digitLetters.idxOf? c.toLower = none := by
    rcases hc with rfl | rfl <;> decide
  rintro ⟨-, hletter⟩
  rw [hnone] at hletter
  cases hletter

theorem not_denotesNat_of_sign (hc : c = '+' ∨ c = '-') : ¬ DenotesNat base (c :: t) n := by
  rintro ⟨-, _, hdigits, -⟩
  rcases List.forall₂_cons_left_iff.1 hdigits with ⟨value, _, hvalue, -, -⟩
  exact not_isDigit_of_sign hc hvalue

theorem denotesInt_minus_iff :
    DenotesInt base ('-' :: t) i ↔ ∃ n : Nat, DenotesNat base t n ∧ i = -(n : Int) := by
  constructor
  · intro h
    cases h with
    | plain h => exact absurd h (not_denotesNat_of_sign (Or.inr rfl))
    | minus h => exact ⟨_, h, rfl⟩
  · rintro ⟨n, h, rfl⟩
    exact .minus h

theorem denotesInt_plus_iff :
    DenotesInt base ('+' :: t) i ↔ ∃ n : Nat, DenotesNat base t n ∧ i = n := by
  constructor
  · intro h
    cases h with
    | plain h => exact absurd h (not_denotesNat_of_sign (Or.inl rfl))
    | plus h => exact ⟨_, h, rfl⟩
  · rintro ⟨n, h, rfl⟩
    exact .plus h

theorem denotesInt_cons_iff (hminus : c ≠ '-') (hplus : c ≠ '+') :
    DenotesInt base (c :: t) i ↔ ∃ n : Nat, DenotesNat base (c :: t) n ∧ i = n := by
  constructor
  · intro h
    cases h with
    | plain h => exact ⟨_, h, rfl⟩
    | plus h => exact absurd rfl hplus
    | minus h => exact absurd rfl hminus
  · rintro ⟨n, h, rfl⟩
    exact .plain h

theorem not_denotesInt_nil : ¬ DenotesInt base [] i := by
  rintro ⟨⟨hne, -⟩⟩
  exact hne rfl

/-! ## Reading whole numbers -/

theorem readSigned_minus (ht : t ≠ []) :
    readSigned base limit ('-' :: t) =
      (readMagnitude base limit .tooSmall 0 t).map fun n : Nat => -(n : Int) := by
  rw [readSigned]
  · cases readMagnitude base limit .tooSmall 0 t <;> rfl
  · exact ht

theorem readSigned_plus (ht : t ≠ []) :
    readSigned base limit ('+' :: t) =
      (readMagnitude base (limit - 1) .tooLarge 0 t).map Int.ofNat := by
  rw [readSigned]
  · cases readMagnitude base (limit - 1) .tooLarge 0 t <;> rfl
  · exact ht

section Range

variable (hpos : 0 < base) (hbase : base ≤ 36) (hlimit : 0 < limit)

include hpos hbase hlimit

theorem readMagnitude_below_eq_ok_iff (ht : t ≠ []) :
    (readMagnitude base limit overflow 0 t).map (fun n : Nat => -(n : Int)) = .ok i ↔
      (∃ n : Nat, DenotesNat base t n ∧ i = -(n : Int)) ∧ -(limit : Int) ≤ i ∧ i < limit := by
  simp only [map_eq_ok_iff, readMagnitude_eq_ok_iff hpos hbase ht]
  constructor
  · rintro ⟨n, ⟨hle, hn⟩, rfl⟩
    exact ⟨⟨n, hn, rfl⟩, by omega, by omega⟩
  · rintro ⟨⟨n, hn, rfl⟩, hlow, -⟩
    exact ⟨n, ⟨by omega, hn⟩, rfl⟩

theorem readMagnitude_above_eq_ok_iff (ht : t ≠ []) :
    (readMagnitude base (limit - 1) overflow 0 t).map Int.ofNat = .ok i ↔
      (∃ n : Nat, DenotesNat base t n ∧ i = n) ∧ -(limit : Int) ≤ i ∧ i < limit := by
  simp only [map_eq_ok_iff, readMagnitude_eq_ok_iff hpos hbase ht, Int.ofNat_eq_natCast]
  constructor
  · rintro ⟨n, ⟨hle, hn⟩, rfl⟩
    exact ⟨⟨n, hn, rfl⟩, by omega, by omega⟩
  · rintro ⟨⟨n, hn, rfl⟩, -, hhigh⟩
    exact ⟨n, ⟨by omega, hn⟩, rfl⟩

/-- The texts that are read are those of the numbers from `-limit` to `limit - 1`. -/
theorem readSigned_eq_ok_iff :
    readSigned base limit t = .ok i ↔ DenotesInt base t i ∧ -(limit : Int) ≤ i ∧ i < limit := by
  have hempty : ∀ n, ¬ DenotesNat base [] n := fun n h => h.1 rfl
  cases t with
  | nil => exact iff_of_false (by simp [readSigned]) fun h => not_denotesInt_nil h.1
  | cons c rest =>
      by_cases hminus : c = '-'
      · subst hminus
        rw [denotesInt_minus_iff]
        rcases eq_or_ne rest [] with rfl | hrest
        · -- A sign with nothing behind it is no number.
          refine iff_of_false (by simp [readSigned]) ?_
          rintro ⟨⟨n, hn, -⟩, -⟩
          exact hempty n hn
        · rw [readSigned_minus hrest]
          exact readMagnitude_below_eq_ok_iff hpos hbase hlimit hrest
      · by_cases hplus : c = '+'
        · subst hplus
          rw [denotesInt_plus_iff]
          rcases eq_or_ne rest [] with rfl | hrest
          · refine iff_of_false (by simp [readSigned]) ?_
            rintro ⟨⟨n, hn, -⟩, -⟩
            exact hempty n hn
          · rw [readSigned_plus hrest]
            exact readMagnitude_above_eq_ok_iff hpos hbase hlimit hrest
        · rw [denotesInt_cons_iff hminus hplus, readSigned_cons_of_ne hminus hplus]
          exact readMagnitude_above_eq_ok_iff hpos hbase hlimit (List.cons_ne_nil c rest)

end Range

/-! ## Numbers of 32 bits -/

/-- A number that is read within the range is not wrapped. -/
theorem readSigned_limit32_eq_ok_iff {n : Int32} (hpos : 0 < base) (hbase : base ≤ 36) :
    (readSigned base limit32 t).map Int32.ofInt = .ok n ↔ DenotesInt base t n.toInt := by
  have hleast : -(limit32 : Int) ≤ n.toInt := n.le_toInt
  have hmost : n.toInt < (limit32 : Int) := n.toInt_lt
  simp only [map_eq_ok_iff, readSigned_eq_ok_iff hpos hbase (show 0 < limit32 by decide)]
  constructor
  · rintro ⟨i, ⟨hi, hlow, hhigh⟩, rfl⟩
    rwa [Int32.toInt_ofInt_of_le hlow hhigh]
  · intro hn
    exact ⟨n.toInt, ⟨hn, hleast, hmost⟩, n.ofInt_toInt⟩

/-- No number in decimal begins with `0x`, as `x` is no decimal digit. -/
theorem not_denotesInt_zero_x : ¬ DenotesInt 10 ('0' :: 'x' :: t) i := by
  have hx : ∀ value, ¬ IsDigit 10 'x' value := by
    rintro value ⟨hlt, hletter⟩
    have hplace : digitLetters.idxOf? ('x').toLower = some 33 := by decide
    rw [hplace] at hletter
    cases hletter
    omega
  intro h
  rcases (denotesInt_cons_iff (by decide) (by decide)).1 h with ⟨n, ⟨-, _, hdigits, -⟩, -⟩
  rcases List.forall₂_cons_left_iff.1 hdigits with ⟨_, _, -, hrest, -⟩
  rcases List.forall₂_cons_left_iff.1 hrest with ⟨value, _, hvalue, -, -⟩
  exact hx value hvalue

/-- The texts that are read as a number are those that denote it. -/
theorem readInt32_eq_ok_iff {n : Int32} : readInt32 t = .ok n ↔ DenotesInt32 t n := by
  rw [readInt32.eq_def, DenotesInt32]
  split
  next digits =>
      rw [readSigned_limit32_eq_ok_iff (by decide) (by decide)]
      constructor
      · intro h
        exact Or.inr ⟨digits, rfl, h⟩
      · rintro (h | ⟨_, heq, h⟩)
        · exact absurd h not_denotesInt_zero_x
        · cases heq
          exact h
  next hplain =>
      rw [readSigned_limit32_eq_ok_iff (by decide) (by decide)]
      refine (or_iff_left ?_).symm
      rintro ⟨digits, rfl, -⟩
      exact hplain digits rfl

end GameShelf.Numeral
