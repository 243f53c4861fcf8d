import GameShelf.Proofs.Numeral.Decimal
import GameShelf.Proofs.Selector.Grammar

/-!
# Reading selectors back

Digits of ASCII are read as the position that they stand for, except that a position too large to be
held becomes the largest one.  So every position written in decimal, and every range written as two
positions with a hyphen between them, is read as what it is if it can be held.  In a list that can
be held the limit makes no difference for the end of a range, which is clamped to the list anyway.

Together with the grammar this says what `parse` does with each text and with each selector
(`parse_grammar`).
-/

set_option autoImplicit false

namespace GameShelf

open Numeral (natDecimal Unbroken)

namespace Selector

variable {t front rear : Text} {start stop length : Nat}

/-! ## Reading digits -/

/-- Digits of ASCII are read as their number, or as the largest position if it is larger. -/
theorem readPosition_of_all_isDigit (h : t.all Char.isDigit = true) :
    readPosition t = min (Nat.ofDigitChars 10 t 0) maxPosition := by
  by_cases hheld : Nat.ofDigitChars 10 t 0 ≤ maxPosition
  · rw [readPosition, Numeral.readMagnitude_of_all_isDigit h hheld, Nat.min_eq_left hheld]
  · -- With the number itself as the limit it is read, so only the limit stops the reading.
    have hread : Numeral.readMagnitude 10 (Nat.ofDigitChars 10 t 0) .tooLarge 0 t =
        .ok (Nat.ofDigitChars 10 t 0) :=
      Numeral.readMagnitude_of_all_isDigit h (Nat.le_refl _)
    have hlimit : maxPosition < Nat.ofDigitChars 10 t 0 := Nat.lt_of_not_le hheld
    rw [readPosition, Numeral.readMagnitude_of_limit_lt hread (Nat.zero_le _) hlimit,
      Nat.min_eq_right hlimit.le]

/-- With any other character it is the largest position, whatever the digits. -/
theorem readPosition_of_not_all_isDigit (h : t.all Char.isDigit = false) :
    readPosition t = maxPosition := by
  rcases Numeral.readMagnitude_of_not_all_isDigit maxPosition .tooLarge 0 h with ⟨fault, hread⟩
  rw [readPosition, hread]

theorem parse_of_asciiDigitRun (h : t.AsciiDigitRun) :
    parse t = .index (min (Nat.ofDigitChars 10 t 0) maxPosition) := by
  have htrim : t.trim = t := (Numeral.unbroken_of_all_isDigit h.all_isDigit).trim_eq
  rw [parse_index_iff, htrim, readPosition_of_all_isDigit h.all_isDigit]
  exact ⟨h.digitRun, rfl⟩

theorem parse_of_asciiDigitRuns (hfront : front.AsciiDigitRun) (hrear : rear.AsciiDigitRun) :
    parse (front ++ '-' :: rear) =
      .range (min (Nat.ofDigitChars 10 front 0) maxPosition)
        (min (Nat.ofDigitChars 10 rear 0) maxPosition) := by
  have hunbroken : Unbroken (front ++ '-' :: rear) :=
    (Numeral.unbroken_of_all_isDigit hfront.all_isDigit).append
      ((Numeral.unbroken_of_all_isDigit hrear.all_isDigit).cons (by decide))
  rw [parse_range_iff, hunbroken.trim_eq, ← readPosition_of_all_isDigit hfront.all_isDigit,
    ← readPosition_of_all_isDigit hrear.all_isDigit]
  exact ⟨front, rear, rfl, hfront.digitRun, hrear.digitRun, rfl, rfl⟩

/-! ## Reading back what is written -/

theorem asciiDigitRun_natDecimal (n : Nat) : (natDecimal n).AsciiDigitRun :=
  ⟨Nat.toDigits_ne_nil, fun _ hc => Numeral.isDigit_of_mem_natDecimal hc⟩

theorem parse_natDecimal (n : Nat) : parse (natDecimal n) = .index (min n maxPosition) := by
  rw [parse_of_asciiDigitRun (asciiDigitRun_natDecimal n), Numeral.ofDigitChars_natDecimal]

/-- The text of a range. -/
def writeRange (start stop : Nat) : Text :=
  natDecimal start ++ '-' :: natDecimal stop

theorem unbroken_writeRange (start stop : Nat) : Unbroken (writeRange start stop) := by
  have hstart : Unbroken (natDecimal start) := Numeral.unbroken_decimal start
  have hstop : Unbroken (natDecimal stop) := Numeral.unbroken_decimal stop
  exact hstart.append (hstop.cons (by decide))

theorem parse_writeRange (start stop : Nat) :
    parse (writeRange start stop) = .range (min start maxPosition) (min stop maxPosition) := by
  rw [writeRange, parse_of_asciiDigitRuns (asciiDigitRun_natDecimal start)
    (asciiDigitRun_natDecimal stop), Numeral.ofDigitChars_natDecimal,
    Numeral.ofDigitChars_natDecimal]

/-- In a list that can be held, a range that begins in it resolves to its part of the list. -/
theorem resolve_parse_writeRange (hstart : 1 ≤ start) (hlength : start ≤ length)
    (hheld : length ≤ maxPosition) (hstop : start ≤ stop) :
    (parse (writeRange start stop)).resolve length =
      .ok (some ⟨start - 1, min stop length - 1⟩) := by
  -- The start is a position of the list and so it can be held; the end need not be.
  have hexact : min start maxPosition = start := Nat.min_eq_left (hlength.trans hheld)
  have hforward : start ≤ min stop maxPosition := by omega
  have hclamp : min (min stop maxPosition) length = min stop length := by omega
  rw [parse_writeRange, hexact, resolve_range_of_inside ⟨hstart, hlength, hforward⟩, hclamp]

/-- In a list that can be held, each position of it resolves to its place. -/
theorem resolve_parse_natDecimal {place : Nat} (hplace : place < length)
    (hheld : length ≤ maxPosition) :
    (parse (natDecimal (place + 1))).resolve length = .ok (some ⟨place, place⟩) := by
  have hexact : min (place + 1) maxPosition = place + 1 :=
    Nat.min_eq_left (Nat.le_trans hplace hheld)
  rw [parse_natDecimal, hexact, resolve_index_of_inside ⟨Nat.le_add_left 1 place, hplace⟩]
  rfl

/-! ## Texts and selectors -/

/-- A text is read as `all`, as a position, as a range or as a name exactly if, trimmed, it has that
form, and a name is the trimmed text.  A name is read as itself again, and so are every position and
every range that can be held, whatever their order. -/
theorem parse_grammar (text : Text) :
    (parse text = .all ↔ text.trim.sameIgnoringAsciiCase "all".toList = true) ∧
    ((∃ position, parse text = .index position) ↔ text.trim.DigitRun) ∧
    ((∃ start stop, parse text = .range start stop) ↔ text.trim.DigitRange) ∧
    (∀ name, parse text = .text name ↔ name = text.trim ∧
      text.trim.sameIgnoringAsciiCase "all".toList = false ∧ ¬ text.trim.DigitRun ∧
        ¬ text.trim.DigitRange) ∧
    (∀ name, parse text = .text name → parse name = .text name) ∧
    (∀ n ≤ maxPosition, parse (natDecimal n) = .index n) ∧
    (∀ start ≤ maxPosition, ∀ stop ≤ maxPosition,
      parse (natDecimal start ++ '-' :: natDecimal stop) = .range start stop) := by
  refine ⟨parse_eq_all_iff, ?_, ?_, fun _ => parse_text_iff, ?_, ?_, ?_⟩
  · constructor
    · rintro ⟨position, h⟩
      exact (parse_index_iff.1 h).1
    · intro hrun
      exact ⟨_, parse_index_iff.2 ⟨hrun, rfl⟩⟩
  · constructor
    · rintro ⟨start, stop, h⟩
      rcases parse_range_iff.1 h with ⟨front, rear, heq, hfront, hrear, -⟩
      exact ⟨front, rear, heq, hfront, hrear⟩
    · rintro ⟨front, rear, heq, hfront, hrear⟩
      exact ⟨_, _, parse_range_iff.2 ⟨front, rear, heq, hfront, hrear, rfl, rfl⟩⟩
  · intro name h
    -- The name is the trimmed text, and white space does not count.
    rw [(parse_text_iff.1 h).1, parse_trim, h, (parse_text_iff.1 h).1]
  · intro n hn
    rw [parse_natDecimal, Nat.min_eq_left hn]
  · intro start hstart stop hstop
    have hread := parse_writeRange start stop
    rwa [Nat.min_eq_left hstart, Nat.min_eq_left hstop] at hread

/-- With a second hyphen a text is a name, and digits of two scripts are a position.  The largest
position and a range that ends before it are read back. -/
theorem parse_grammar_hyphens :
    parse " 1-2-3 ".toList = .text "1-2-3".toList ∧ parse "1-2-3".toList = .text "1-2-3".toList ∧
      (∃ position, parse "1٣".toList = .index position) ∧
      parse (natDecimal 18446744073709551615) = .index 18446744073709551615 ∧
      parse (natDecimal 18446744073709551615 ++ '-' :: natDecimal 0) =
        .range 18446744073709551615 0 := by
  have hmax : 18446744073709551615 ≤ maxPosition := by decide
  have hname : parse " 1-2-3 ".toList = .text "1-2-3".toList := by decide +kernel
  have hmixed : Text.DigitRun (Text.trim "1٣".toList) := by decide +kernel
  rcases parse_grammar " 1-2-3 ".toList with ⟨-, -, -, -, hagain, hposition, hrange⟩
  exact ⟨hname, hagain _ hname, (parse_grammar "1٣".toList).2.1.2 hmixed, hposition _ hmax,
    hrange _ hmax 0 (Nat.zero_le _)⟩

end Selector
end GameShelf
