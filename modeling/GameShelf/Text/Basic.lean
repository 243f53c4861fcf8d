/-!
# Text

Names, filters and selectors are lists of characters, so that every statement about them is a
statement about lists.  Characters are Unicode scalar values and compare by code point.

This file fixes what counts as white space and as a decimal digit, and the operations that only
look at single characters: trimming, splitting at commas, and equality up to ASCII letter case.
-/

set_option autoImplicit false

namespace GameShelf

/-- A text is the list of its characters. -/
abbrev Text := List Char

namespace Text

/-- Whether one of the closed ranges holds the code point. -/
def inRanges (ranges : List (Nat × Nat)) (n : Nat) : Bool :=
  ranges.any fun range => range.1 ≤ n && n ≤ range.2

/-! ## White space -/

/-- The code points with the property White_Space. -/
def blankRanges : List (Nat × Nat) := [
  (0x0009, 0x000D), (0x0020, 0x0020), (0x0085, 0x0085), (0x00A0, 0x00A0), (0x1680, 0x1680),
  (0x2000, 0x200A), (0x2028, 0x2029), (0x202F, 0x202F), (0x205F, 0x205F), (0x3000, 0x3000)]

/-- Whether the character is white space. -/
def isBlank (c : Char) : Bool :=
  inRanges blankRanges c.toNat

/-- The text without its leading white space. -/
def trimStart (t : Text) : Text :=
  t.dropWhile isBlank

/-- The text without its trailing white space. -/
def trimEnd (t : Text) : Text :=
  (t.reverse.dropWhile isBlank).reverse

/-- The text without white space at either end. -/
def trim (t : Text) : Text :=
  t.trimStart.trimEnd

@[simp] theorem trim_nil : trim [] = [] := rfl

/-! ## Decimal digits of every script

The characters of general category Nd in Unicode 16.0.  Each script has its ten digits in a row, so
the table needs their zeros only, and a digit's value is its distance from its zero.

The edition is fixed here and is not that of the case tables, which are of Unicode 17.0: a text in
digits that 17.0 was the first to assign is a name and not a position.
-/

/-- The code points of the digits zero. -/
def digitZeros : List Nat := [
  0x0030, 0x0660, 0x06F0, 0x07C0, 0x0966, 0x09E6, 0x0A66, 0x0AE6, 0x0B66, 0x0BE6, 0x0C66, 0x0CE6,
  0x0D66, 0x0DE6, 0x0E50, 0x0ED0, 0x0F20, 0x1040, 0x1090, 0x17E0, 0x1810, 0x1946, 0x19D0, 0x1A80,
  0x1A90, 0x1B50, 0x1BB0, 0x1C40, 0x1C50, 0xA620, 0xA8D0, 0xA900, 0xA9D0, 0xA9F0, 0xAA50, 0xABF0,
  0xFF10, 0x104A0, 0x10D30, 0x10D40, 0x11066, 0x110F0, 0x11136, 0x111D0, 0x112F0, 0x11450,
  0x114D0, 0x11650, 0x116C0, 0x116D0, 0x116DA, 0x11730, 0x118E0, 0x11950, 0x11BF0, 0x11C50,
  0x11D50, 0x11DA0, 0x11F50, 0x16130, 0x16A60, 0x16AC0, 0x16B50, 0x16D70, 0x1CCF0, 0x1D7CE,
  0x1D7D8, 0x1D7E2, 0x1D7EC, 0x1D7F6, 0x1E140, 0x1E2F0, 0x1E4F0, 0x1E5F1, 0x1E950, 0x1FBF0]

/-- The value of a decimal digit of any script. -/
def digitValue? (c : Char) : Option Nat :=
  (digitZeros.find? fun start => start ≤ c.toNat && c.toNat < start + 10).map (c.toNat - ·)

/-- Whether the character is a decimal digit of some script. -/
def isDecimalDigit (c : Char) : Bool :=
  (digitValue? c).isSome

/-! ## Pieces and ASCII case -/

/-- The pieces between the commas; there is one more piece than there are commas. -/
def pieces (t : Text) : List Text :=
  t.splitOn ','

/-- Equality up to the case of ASCII letters. -/
def sameIgnoringAsciiCase (a b : Text) : Bool :=
  a.map Char.toLower == b.map Char.toLower

end Text
end GameShelf
