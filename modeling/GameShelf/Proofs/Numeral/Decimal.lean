import GameShelf.Numeral.Decimal
import Mathlib.Tactic.ByContra

/-!
# Numerals and white space

Digits are read as the number that they stand for, as long as it is within the limit; so a whole
number written in decimal reads as itself.  Neither such a text nor any text that reads as a
binary64 number has white space in it, so trimming leaves them as they are.
-/

set_option autoImplicit false

namespace GameShelf.Numeral

variable {n limit : Nat} {overflow : Fault} {t : Text} {c : Char}

/-! ## Reading digits -/

theorem isDigit_iff : c.isDigit = true ↔ '0' ≤ c ∧ c ≤ '9' := by
  simp only [Char.isDigit, Bool.and_eq_true, decide_eq_true_eq]
  exact Iff.rfl

theorem digitIn?_of_isDigit (hc : c.isDigit = true) :
    digitIn? 10 c = some (c.toNat - '0'.toNat) := by
  have hbounds := isDigit_iff.1 hc
  have hhigh : c.toNat ≤ '9'.toNat := hbounds.2
  have hvalue : c.toNat - '0'.toNat < 10 := Nat.lt_succ_of_le (Nat.sub_le_of_le_add hhigh)
  rw [digitIn?, if_pos hbounds]
  exact if_pos hvalue

/-- In base ten the letters are no digits. -/
theorem digitIn?_of_not_isDigit (hc : c.isDigit = false) : digitIn? 10 c = none := by
  have hnot : ¬ ('0' ≤ c ∧ c ≤ '9') := by
    rw [← isDigit_iff, hc]
    exact Bool.false_ne_true
  rw [digitIn?, if_neg hnot]
  refine if_neg ?_
  split
  next => omega
  next => split <;> omega

theorem le_ofDigitChars (magnitude : Nat) (t : Text) :
    magnitude ≤ Nat.ofDigitChars 10 t magnitude := by
  induction t generalizing magnitude with
  | nil => exact Nat.le_refl magnitude
  | cons c rest ih =>
      rw [Nat.ofDigitChars_cons]
      exact Nat.le_trans (by omega) (ih _)

/-- Digits whose number is within the limit are read as the number. -/
theorem readMagnitude_of_all_isDigit {magnitude : Nat} (h : t.all Char.isDigit = true)
    (hlimit : Nat.ofDigitChars 10 t magnitude ≤ limit) :
    readMagnitude 10 limit overflow magnitude t = .ok (Nat.ofDigitChars 10 t magnitude) := by
  induction t generalizing magnitude with
  | nil => rfl
  | cons c rest ih =>
      rw [List.all_cons, Bool.and_eq_true] at h
      rw [Nat.ofDigitChars_cons] at hlimit ⊢
      -- The number only grows with the digits that follow.
      have hwithin := Nat.le_trans (le_ofDigitChars _ rest) hlimit
      simp only [readMagnitude, digitIn?_of_isDigit h.1, if_pos hwithin]
      exact ih h.2 hlimit

/-- What holds another character is no number. -/
theorem readMagnitude_of_not_all_isDigit (limit : Nat) (overflow : Fault) (magnitude : Nat)
    (h : t.all Char.isDigit = false) :
    ∃ fault, readMagnitude 10 limit overflow magnitude t = .error fault := by
  induction t generalizing magnitude with
  | nil => cases h
  | cons c rest ih =>
      rw [readMagnitude]
      cases hc : c.isDigit with
      | false =>
          rw [digitIn?_of_not_isDigit hc]
          exact ⟨_, rfl⟩
      | true =>
          rw [List.all_cons, hc, Bool.true_and] at h
          rw [digitIn?_of_isDigit hc]
          simp only
          split
          next => exact ih _ h
          next => exact ⟨_, rfl⟩

/-- Digits whose number is beyond the limit are refused for that. -/
theorem readMagnitude_of_limit_lt {base limit' magnitude : Nat} {overflow' : Fault}
    (h : readMagnitude base limit' overflow' magnitude t = .ok n) (hmagnitude : magnitude ≤ limit)
    (hlimit : limit < n) : readMagnitude base limit overflow magnitude t = .error overflow := by
  induction t generalizing magnitude with
  | nil =>
      cases h
      omega
  | cons c rest ih =>
      rw [readMagnitude] at h ⊢
      cases hdigit : digitIn? base c with
      | none =>
          simp [hdigit] at h
      | some digit =>
          simp only [hdigit] at h ⊢
          -- The number leaves the range with this digit or with a later one.
          by_cases hwithin : base * magnitude + digit ≤ limit
          · split at h
            · rw [if_pos hwithin]
              exact ih h hwithin
            · cases h
          · rw [if_neg hwithin]

/-! ## Reading whole numbers -/

theorem isDigit_of_mem_natDecimal (hc : c ∈ natDecimal n) : c.isDigit = true :=
  Nat.isDigit_of_mem_toDigits (by decide) (by decide) hc

theorem all_isDigit_natDecimal (n : Nat) : (natDecimal n).all Char.isDigit = true :=
  List.all_eq_true.2 fun _ => isDigit_of_mem_natDecimal

theorem ofDigitChars_natDecimal (n : Nat) : Nat.ofDigitChars 10 (natDecimal n) 0 = n :=
  Nat.ofDigitChars_toDigits (by decide) (by decide)

/-- The decimal digits of a number within the limit read as the number. -/
theorem readMagnitude_natDecimal (h : n ≤ limit) :
    readMagnitude 10 limit overflow 0 (natDecimal n) = .ok n := by
  have hvalue := ofDigitChars_natDecimal n
  rw [readMagnitude_of_all_isDigit (all_isDigit_natDecimal n) (by rwa [hvalue]), hvalue]

/-- A decimal number begins with a digit, so it has no sign. -/
theorem exists_natDecimal_eq_cons (n : Nat) :
    ∃ c rest, natDecimal n = c :: rest ∧ c.isDigit = true := by
  rcases List.exists_cons_of_ne_nil (Nat.toDigits_ne_nil (n := n) (b := 10)) with ⟨c, rest, heq⟩
  have hmem : c ∈ natDecimal n := by
    rw [natDecimal, heq]
    exact List.mem_cons_self
  exact ⟨c, rest, heq, isDigit_of_mem_natDecimal hmem⟩

/-- What does not begin with a sign is read as digits. -/
theorem readSigned_cons_of_ne {base limit : Nat} {c : Char} (hminus : c ≠ '-') (hplus : c ≠ '+')
    {rest : Text} :
    readSigned base limit (c :: rest) =
      (readMagnitude base (limit - 1) .tooLarge 0 (c :: rest)).map Int.ofNat := by
  rw [readSigned.eq_def]
  split
  next heq => cases heq
  next heq => cases heq; contradiction
  next heq => cases heq; contradiction
  next heq => cases heq; contradiction
  next heq => cases heq; contradiction
  next => cases readMagnitude base (limit - 1) .tooLarge 0 (c :: rest) <;> rfl

theorem readSigned_cons_of_isDigit (base limit : Nat) {c : Char} (hc : c.isDigit = true)
    (rest : Text) :
    readSigned base limit (c :: rest) =
      (readMagnitude base (limit - 1) .tooLarge 0 (c :: rest)).map Int.ofNat := by
  have hminus : c ≠ '-' := by
    rintro rfl
    exact absurd hc (by decide)
  have hplus : c ≠ '+' := by
    rintro rfl
    exact absurd hc (by decide)
  exact readSigned_cons_of_ne hminus hplus

theorem readSigned_natDecimal (h : n < limit) :
    readSigned 10 limit (natDecimal n) = .ok (n : Int) := by
  rcases exists_natDecimal_eq_cons n with ⟨c, rest, heq, hc⟩
  have hread : readMagnitude 10 (limit - 1) .tooLarge 0 (c :: rest) = .ok n := by
    rw [← heq]
    exact readMagnitude_natDecimal (by omega)
  rw [heq, readSigned_cons_of_isDigit _ _ hc, hread]
  rfl

theorem readSigned_minus_natDecimal (h : n ≤ limit) :
    readSigned 10 limit ('-' :: natDecimal n) = .ok (-(n : Int)) := by
  rcases exists_natDecimal_eq_cons n with ⟨c, rest, heq, hc⟩
  have hread : readMagnitude 10 limit .tooSmall 0 (c :: rest) = .ok n := by
    rw [← heq]
    exact readMagnitude_natDecimal h
  rw [heq, readSigned]
  · rw [hread]
    rfl
  · simp

/-- A whole number of the range reads as itself. -/
theorem readSigned_decimal {i : Int} (hlow : -(limit : Int) ≤ i) (hhigh : i < limit) :
    readSigned 10 limit (decimal i) = .ok i := by
  cases i with
  | ofNat n =>
      have hn : n < limit := Int.ofNat_lt.1 hhigh
      exact readSigned_natDecimal hn
  | negSucc n =>
      exact readSigned_minus_natDecimal (n := n + 1) (by omega)

theorem isDigit_of_mem_decimal {i : Int} (hc : c ∈ decimal i) : c.isDigit = true ∨ c = '-' := by
  cases i with
  | ofNat n =>
      exact Or.inl (isDigit_of_mem_natDecimal hc)
  | negSucc n =>
      rcases List.mem_cons.1 hc with rfl | hc
      · exact Or.inr rfl
      · exact Or.inl (isDigit_of_mem_natDecimal hc)

/-- A number of 32 bits reads as itself. -/
theorem readInt32_decimal (n : Int32) : readInt32 (decimal n.toInt) = .ok n := by
  have hsigned : readSigned 10 limit32 (decimal n.toInt) = .ok n.toInt :=
    readSigned_decimal n.le_toInt n.toInt_lt
  rw [readInt32.eq_def]
  split
  next digits heq =>
      -- There is no letter in a decimal number.
      have hmem : 'x' ∈ decimal n.toInt := by
        rw [heq]
        simp
      exact absurd (isDigit_of_mem_decimal hmem) (by decide)
  next =>
      rw [hsigned]
      exact congrArg Except.ok (Int32.ofInt_toInt n)

/-- A number of 64 bits reads as itself. -/
theorem readInt64_decimal (n : Int64) : readInt64 (decimal n.toInt) = .ok n := by
  have hsigned : readSigned 10 limit64 (decimal n.toInt) = .ok n.toInt :=
    readSigned_decimal n.le_toInt n.toInt_lt
  rw [readInt64, hsigned]
  exact congrArg Except.ok (Int64.ofInt_toInt n)

/-! ## White space -/

/-- The text has no white space in it. -/
def Unbroken (t : Text) : Prop :=
  ∀ c ∈ t, Text.isBlank c = false

theorem Unbroken.cons (hc : Text.isBlank c = false) (h : Unbroken t) : Unbroken (c :: t) :=
  List.forall_mem_cons.2 ⟨hc, h⟩

theorem Unbroken.append {u : Text} (h : Unbroken t) (h' : Unbroken u) : Unbroken (t ++ u) :=
  List.forall_mem_append.2 ⟨h, h'⟩

theorem Unbroken.dropWhile_eq (h : Unbroken t) : t.dropWhile Text.isBlank = t := by
  cases t with
  | nil => rfl
  | cons c rest => simp [h c List.mem_cons_self]

/-- Without white space there is nothing to trim. -/
theorem Unbroken.trim_eq (h : Unbroken t) : t.trim = t := by
  have hreverse : Unbroken t.reverse := by
    intro c hc
    exact h c (List.mem_reverse.1 hc)
  rw [Text.trim, Text.trimStart, h.dropWhile_eq, Text.trimEnd, hreverse.dropWhile_eq,
    List.reverse_reverse]

theorem isBlank_of_isDigit (hc : c.isDigit = true) : Text.isBlank c = false := by
  have hbounds := isDigit_iff.1 hc
  have hall : ∀ n ≤ '9'.toNat, '0'.toNat ≤ n → Text.inRanges Text.blankRanges n = false := by
    decide
  exact hall c.toNat hbounds.2 hbounds.1

theorem unbroken_of_all_isDigit (h : t.all Char.isDigit = true) : Unbroken t := by
  intro c hc
  exact isBlank_of_isDigit (List.all_eq_true.1 h c hc)

theorem unbroken_decimal (i : Int) : Unbroken (decimal i) := by
  intro c hc
  rcases isDigit_of_mem_decimal hc with hdigit | rfl
  · exact isBlank_of_isDigit hdigit
  · decide

/-! ## Decimals -/

/-- A text is unbroken if what follows its leading digits is. -/
theorem unbroken_of_dropWhile (h : Unbroken (t.dropWhile Char.isDigit)) : Unbroken t := by
  have hdigits : Unbroken (t.takeWhile Char.isDigit) := unbroken_of_all_isDigit List.all_takeWhile
  rw [← List.takeWhile_append_dropWhile (p := Char.isDigit) (l := t)]
  exact hdigits.append h

theorem unbroken_of_readExponentDigits (h : readExponentDigits t ≠ none) : Unbroken t := by
  rw [readExponentDigits] at h
  split at h
  next hdigits => exact unbroken_of_all_isDigit hdigits.2
  next => exact absurd rfl h

theorem unbroken_of_readExponent (h : readExponent t ≠ none) : Unbroken t := by
  rw [readExponent.eq_def] at h
  split at h
  next =>
      intro c hc
      cases hc
  next mark rest =>
      split at h
      next hmark =>
          have hrest : Unbroken rest := by
            split at h
            next digits =>
                refine Unbroken.cons (by decide) (unbroken_of_readExponentDigits ?_)
                intro hnone
                exact h (by rw [hnone]; rfl)
            next digits =>
                refine Unbroken.cons (by decide) (unbroken_of_readExponentDigits ?_)
                intro hnone
                exact h (by rw [hnone]; rfl)
            next =>
                apply unbroken_of_readExponentDigits
                intro hnone
                exact h (by rw [hnone]; rfl)
          refine Unbroken.cons ?_ hrest
          rcases hmark with rfl | rfl <;> decide
      next => exact absurd rfl h

theorem unbroken_of_splitFraction (h : Unbroken (splitFraction t).2) : Unbroken t := by
  rw [splitFraction.eq_def] at h
  split at h
  next rest => exact Unbroken.cons (by decide) (unbroken_of_dropWhile h)
  next => exact h

theorem unbroken_of_readScientific (h : readScientific t ≠ none) : Unbroken t := by
  apply unbroken_of_dropWhile
  apply unbroken_of_splitFraction
  apply unbroken_of_readExponent
  intro hnone
  apply h
  rw [readScientific]
  simp [hnone]

/-- White space has no letter case. -/
theorem toLower_of_isBlank (hc : Text.isBlank c = true) : c.toLower = c := by
  have hupper : ¬ (c.val ≥ 'A'.val ∧ c.val ≤ 'Z'.val) := by
    rintro ⟨hlow, hhigh⟩
    have hall : ∀ n ≤ 'Z'.toNat, 'A'.toNat ≤ n → Text.inRanges Text.blankRanges n = false := by
      decide
    have hkept : Text.isBlank c = false := hall c.toNat hhigh hlow
    rw [hkept] at hc
    cases hc
  exact dif_neg hupper

theorem unbroken_of_readWord {negative : Bool} (h : readWord negative t ≠ none) : Unbroken t := by
  have hword : t.map Char.toLower ∈ ["inf".toList, "infinity".toList, "nan".toList] := by
    rw [readWord] at h
    split at h
    next hinfinity =>
        rcases hinfinity with heq | heq <;> simp [heq]
    next =>
        split at h
        next heq => simp [heq]
        next => exact absurd rfl h
  have hwords : ∀ word ∈ ["inf".toList, "infinity".toList, "nan".toList],
      word.any Text.isBlank = false := by
    decide
  intro c hc
  by_contra hblank
  rw [Bool.not_eq_false] at hblank
  -- White space would still be there in the lowered word.
  have hmem : c ∈ t.map Char.toLower :=
    List.mem_map.2 ⟨c, hc, toLower_of_isBlank hblank⟩
  exact List.any_eq_false.1 (hwords _ hword) c hmem hblank

theorem unbroken_of_readUnsigned {negative : Bool} {x : Binary64}
    (h : readUnsigned negative t = .ok x) : Unbroken t := by
  rw [readUnsigned] at h
  split at h
  next hnumber =>
      apply unbroken_of_readScientific
      simp [hnumber]
  next =>
      split at h
      next hword =>
          apply unbroken_of_readWord
          rw [hword]
          exact Option.some_ne_none _
      next => cases h

theorem unbroken_of_readBinary64 {x : Binary64} (h : readBinary64 t = .ok x) : Unbroken t := by
  rw [readBinary64.eq_def] at h
  split at h
  next => cases h
  next => exact Unbroken.cons (by decide) (unbroken_of_readUnsigned h)
  next => exact Unbroken.cons (by decide) (unbroken_of_readUnsigned h)
  next => exact unbroken_of_readUnsigned h

end GameShelf.Numeral
