import GameShelf.Proofs.Numeral.Decimal
import GameShelf.Proofs.Text.AsciiCase

/-!
# The case of ASCII letters in a numeral

A decimal whole number has no letters, so a letter in its place is the same fault in either case.
A binary64 number may be one of three words, which are read in any case, or have an exponent, whose
mark may be of either case.
-/

set_option autoImplicit false

namespace GameShelf.Numeral

open Text (lowerAscii lowerAscii_cons toLower_eq_iff apply_toLower)

variable {t : Text} {c : Char}

/-! ## Signs -/

theorem toLower_eq_minus_iff : c.toLower = '-' ↔ c = '-' :=
  toLower_eq_iff (by decide)

theorem toLower_eq_plus_iff : c.toLower = '+' ↔ c = '+' :=
  toLower_eq_iff (by decide)

/-- What is no sign is none in lower case either. -/
theorem toLower_ne_signs (hc : ¬(c = '-' ∨ c = '+')) : c.toLower ≠ '-' ∧ c.toLower ≠ '+' := by
  rw [not_or] at hc
  exact ⟨toLower_eq_minus_iff.not.2 hc.1, toLower_eq_plus_iff.not.2 hc.2⟩

/-! ## Whole numbers -/

theorem digitIn?_toLower (c : Char) : digitIn? 10 c.toLower = digitIn? 10 c :=
  apply_toLower (digitIn? 10) (by decide) c

theorem readMagnitude_lowerAscii (limit : Nat) (overflow : Fault) (magnitude : Nat) (t : Text) :
    readMagnitude 10 limit overflow magnitude t.lowerAscii =
      readMagnitude 10 limit overflow magnitude t := by
  induction t generalizing magnitude with
  | nil => rfl
  | cons c rest ih =>
      simp only [lowerAscii_cons, readMagnitude, digitIn?_toLower, ih]

theorem readSigned_lowerAscii (limit : Nat) (t : Text) :
    readSigned 10 limit t.lowerAscii = readSigned 10 limit t := by
  cases t with
  | nil => rfl
  | cons c rest =>
      by_cases hc : c = '-' ∨ c = '+'
      · -- A sign stays, and the digits behind it read as before.
        cases rest with
        | nil => rcases hc with rfl | rfl <;> rfl
        | cons d rest =>
            have hread := fun limit overflow =>
              readMagnitude_lowerAscii limit overflow 0 (d :: rest)
            rw [lowerAscii_cons] at hread
            rcases hc with rfl | rfl
            · simp [readSigned, hread]
            · simp [readSigned, hread]
      · have hlowered := toLower_ne_signs hc
        have hread := readMagnitude_lowerAscii (limit - 1) .tooLarge 0 (c :: rest)
        rw [not_or] at hc
        rw [lowerAscii_cons] at hread ⊢
        rw [readSigned_cons_of_ne hc.1 hc.2, readSigned_cons_of_ne hlowered.1 hlowered.2, hread]

theorem readInt64_lowerAscii (t : Text) : readInt64 t.lowerAscii = readInt64 t := by
  rw [readInt64, readSigned_lowerAscii, readInt64]

/-! ## Decimals -/

theorem isDigit_toLower (c : Char) : c.toLower.isDigit = c.isDigit :=
  apply_toLower Char.isDigit (by decide) c

theorem toLower_of_isDigit (hc : c.isDigit = true) : c.toLower = c := by
  refine Text.toLower_of_not_isAlpha ?_
  simp only [Char.isDigit, Bool.and_eq_true, decide_eq_true_eq] at hc
  have hall : ∀ n ≤ '9'.toNat, '0'.toNat ≤ n → (Char.ofNat n).isAlpha = false := by
    decide
  have halpha := hall c.toNat hc.2 hc.1
  rwa [Char.ofNat_toNat] at halpha

theorem lowerAscii_of_all_isDigit (h : t.all Char.isDigit = true) : t.lowerAscii = t := by
  have hkept : ∀ c ∈ t, c.toLower = c :=
    fun c hc => toLower_of_isDigit (List.all_eq_true.1 h c hc)
  rw [lowerAscii, List.map_congr_left hkept, List.map_id']

theorem takeWhile_isDigit_lowerAscii (t : Text) :
    t.lowerAscii.takeWhile Char.isDigit = t.takeWhile Char.isDigit := by
  have hdigits := lowerAscii_of_all_isDigit (t := t.takeWhile Char.isDigit) List.all_takeWhile
  rw [lowerAscii] at hdigits ⊢
  simpa [List.takeWhile_map, Function.comp_def, isDigit_toLower] using hdigits

theorem dropWhile_isDigit_lowerAscii (t : Text) :
    t.lowerAscii.dropWhile Char.isDigit = Text.lowerAscii (t.dropWhile Char.isDigit) := by
  simp [lowerAscii, List.dropWhile_map, Function.comp_def, isDigit_toLower]

theorem readExponentDigits_lowerAscii (t : Text) :
    readExponentDigits t.lowerAscii = readExponentDigits t := by
  by_cases hdigits : t.all Char.isDigit = true
  · rw [lowerAscii_of_all_isDigit hdigits]
  · -- Where there is another character, there is one afterwards.
    have hlowered : ¬ t.lowerAscii.all Char.isDigit = true := by
      simpa [lowerAscii, isDigit_toLower] using hdigits
    rw [readExponentDigits, readExponentDigits, if_neg fun h => hlowered h.2,
      if_neg fun h => hdigits h.2]

/-- The mark of an exponent is a letter of either case; behind it stand a sign and digits. -/
theorem readExponent_lowerAscii (t : Text) : readExponent t.lowerAscii = readExponent t := by
  cases t with
  | nil => rfl
  | cons mark rest =>
      have hmark : (mark.toLower = 'e' ∨ mark.toLower = 'E') = (mark = 'e' ∨ mark = 'E') :=
        apply_toLower (fun c => c = 'e' ∨ c = 'E') (by decide) mark
      simp only [lowerAscii_cons, readExponent, hmark]
      split
      · cases rest with
        | nil => rfl
        | cons c rest =>
            have hdigits := readExponentDigits_lowerAscii rest
            have hall := readExponentDigits_lowerAscii (c :: rest)
            simp only [lowerAscii_cons] at hall ⊢
            by_cases hc : c = '-' ∨ c = '+'
            · rcases hc with rfl | rfl
              · simp [hdigits]
              · simp [hdigits]
            · have hlowered := toLower_ne_signs hc
              rw [not_or] at hc
              simp [hc, hlowered, hall]
      · rfl

theorem splitFraction_lowerAscii (t : Text) :
    splitFraction t.lowerAscii = ((splitFraction t).1, (splitFraction t).2.lowerAscii) := by
  have hpoint : ∀ c : Char, c.toLower = '.' ↔ c = '.' := fun c => toLower_eq_iff (by decide)
  cases t with
  | nil => rfl
  | cons c rest =>
      by_cases hc : c = '.'
      · subst hc
        have htake := takeWhile_isDigit_lowerAscii rest
        have hdrop := dropWhile_isDigit_lowerAscii rest
        simp [splitFraction, htake, hdrop]
      · have hlowered := (hpoint c).not.2 hc
        simp [splitFraction, hc, hlowered]

theorem readScientific_lowerAscii (t : Text) : readScientific t.lowerAscii = readScientific t := by
  simp only [readScientific, takeWhile_isDigit_lowerAscii, dropWhile_isDigit_lowerAscii,
    splitFraction_lowerAscii, readExponent_lowerAscii]

theorem readWord_lowerAscii (negative : Bool) (t : Text) :
    readWord negative t.lowerAscii = readWord negative t := by
  simp only [readWord, lowerAscii, List.map_map, Function.comp_def, Text.toLower_toLower]

theorem readUnsigned_lowerAscii (negative : Bool) (t : Text) :
    readUnsigned negative t.lowerAscii = readUnsigned negative t := by
  rw [readUnsigned, readUnsigned, readScientific_lowerAscii, readWord_lowerAscii]

theorem readBinary64_lowerAscii (t : Text) : readBinary64 t.lowerAscii = readBinary64 t := by
  cases t with
  | nil => rfl
  | cons c rest =>
      have hrest := fun negative => readUnsigned_lowerAscii negative rest
      have hall := readUnsigned_lowerAscii false (c :: rest)
      simp only [lowerAscii_cons] at hall ⊢
      by_cases hc : c = '-' ∨ c = '+'
      · rcases hc with rfl | rfl
        · simp [readBinary64, hrest]
        · simp [readBinary64, hrest]
      · have hlowered := toLower_ne_signs hc
        rw [not_or] at hc
        simp [readBinary64, hc, hlowered, hall]

end GameShelf.Numeral
