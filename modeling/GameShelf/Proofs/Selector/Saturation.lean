import GameShelf.Proofs.Selector.Reading

/-!
# Positions that cannot be held

The digits of a position may be of any script, but only those of ASCII are read.  So there are two
ways to the largest position: a number that is at least that large, and a digit of another script,
whatever the number.  Only in the second way does a number get lost that could have been held.
-/

set_option autoImplicit false

namespace GameShelf.Selector

variable {digits : Text}

/-- A number that could be held, with a digit of another script than ASCII in it. -/
def Overlooked (digits : Text) : Prop :=
  digits.all Char.isDigit = false ∧ digits.decimalValue < maxPosition

/-- Digits are read as their number, or as the largest position if it is larger, unless a digit of
another script is among them. -/
theorem readPosition_eq (digits : Text) :
    readPosition digits =
      if digits.all Char.isDigit then min maxPosition digits.decimalValue else maxPosition := by
  cases hascii : digits.all Char.isDigit with
  | true =>
      rw [readPosition_of_all_isDigit hascii, Text.decimalValue_of_all_isDigit hascii, Nat.min_comm]
      rfl
  | false => exact readPosition_of_not_all_isDigit hascii

theorem readPosition_eq_min_iff :
    readPosition digits = min maxPosition digits.decimalValue ↔ ¬ Overlooked digits := by
  rw [readPosition_eq, Overlooked]
  cases digits.all Char.isDigit with
  | true => exact iff_of_true (if_pos rfl) nofun
  | false =>
      rw [if_neg Bool.false_ne_true, and_iff_right rfl]
      omega

/-- What is overlooked is read as the largest position, which is not its number. -/
theorem readPosition_of_overlooked (h : Overlooked digits) : readPosition digits = maxPosition :=
  readPosition_of_not_all_isDigit h.1

/-- A position, and the start and the end of a range, is the smaller one of the largest position and
the number of its digits, exactly if it is not overlooked.  If it is, it is the largest position. -/
theorem parse_position_iff (text : Text) :
    (∀ position, parse text = .index position →
      (position = min maxPosition text.trim.decimalValue ↔ ¬ Overlooked text.trim) ∧
      (Overlooked text.trim → position = maxPosition)) ∧
    (∀ start stop, parse text = .range start stop → ∃ front rear : Text,
      text.trim = front ++ '-' :: rear ∧ front.DigitRun ∧ rear.DigitRun ∧
      (start = min maxPosition front.decimalValue ↔ ¬ Overlooked front) ∧
      (Overlooked front → start = maxPosition) ∧
      (stop = min maxPosition rear.decimalValue ↔ ¬ Overlooked rear) ∧
      (Overlooked rear → stop = maxPosition)) := by
  refine ⟨?_, ?_⟩
  · intro position h
    rcases parse_index_iff.1 h with ⟨-, rfl⟩
    exact ⟨readPosition_eq_min_iff, readPosition_of_overlooked⟩
  · intro start stop h
    rcases parse_range_iff.1 h with ⟨front, rear, heq, hfront, hrear, rfl, rfl⟩
    exact ⟨front, rear, heq, hfront, hrear, readPosition_eq_min_iff, readPosition_of_overlooked,
      readPosition_eq_min_iff, readPosition_of_overlooked⟩

/-- A three of ASCII is read as three; an Arabic one is overlooked. -/
theorem parse_position_arabic_three :
    (parse "3".toList = .index 3 ∧ 3 = min maxPosition (Text.trim "3".toList).decimalValue) ∧
      parse "٣".toList = .index maxPosition ∧ Overlooked (Text.trim "٣".toList) ∧
      maxPosition ≠ min maxPosition (Text.trim "٣".toList).decimalValue := by
  have hascii : parse "3".toList = .index 3 := by decide +kernel
  have harabic : parse "٣".toList = .index maxPosition := by decide +kernel
  have hheld : ¬ Overlooked (Text.trim "3".toList) := by
    rintro ⟨hother, -⟩
    revert hother
    decide +kernel
  have hoverlooked : Overlooked (Text.trim "٣".toList) := ⟨by decide +kernel, by decide +kernel⟩
  have hthree := (parse_position_iff "3".toList).1 3 hascii
  have hlost := (parse_position_iff "٣".toList).1 maxPosition harabic
  exact ⟨⟨hascii, hthree.1.2 hheld⟩, harabic, hoverlooked,
    fun hequal => hlost.1.1 hequal hoverlooked⟩

/-- The position is not always the smaller one: an Arabic three is read as the largest position. -/
theorem parse_position_not_always :
    ¬ ∀ text : Text,
      (∀ position, parse text = .index position →
        position = min maxPosition text.trim.decimalValue) ∧
      (∀ start stop, parse text = .range start stop → ∃ front rear : Text,
        text.trim = front ++ '-' :: rear ∧ front.DigitRun ∧ rear.DigitRun ∧
        start = min maxPosition front.decimalValue ∧
        stop = min maxPosition rear.decimalValue) := by
  intro h
  have hread : parse "٣".toList = .index maxPosition := by decide +kernel
  have hvalue : min maxPosition (Text.trim "٣".toList).decimalValue = 3 := by decide +kernel
  have hthree := (h "٣".toList).1 maxPosition hread
  rw [hvalue] at hthree
  revert hthree
  decide

end GameShelf.Selector
