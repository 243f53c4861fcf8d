import GameShelf.Binary64.Rounding
import GameShelf.Numeral.Integer

/-!
# Decimals as text

A decimal is an optional sign and then a number with an optional point and an optional exponent, or
one of the words `inf`, `infinity` and `nan` in any case.  At least one digit stands before the
exponent, on either side of the point, and an exponent has at least one digit of its own.

The text is read into its exact digits and exponent first and rounded once.
-/

set_option autoImplicit false

namespace GameShelf.Numeral

/-- The number that a run of ASCII digits denotes. -/
def ofDigits (digits : Text) : Nat :=
  digits.foldl (fun n c => 10 * n + (c.toNat - '0'.toNat)) 0

/-- Reads the digits of an exponent, which must fill the text. -/
def readExponentDigits (t : Text) : Option Nat :=
  if t ≠ [] ∧ t.all Char.isDigit then some (ofDigits t) else none

/-- Reads an exponent: nothing at all, or `e` with an optional sign and digits. -/
def readExponent : Text → Option Int
  | [] => some 0
  | mark :: rest =>
    if mark = 'e' ∨ mark = 'E' then
      match rest with
      | '-' :: digits => (readExponentDigits digits).map fun n => -(n : Int)
      | '+' :: digits => (readExponentDigits digits).map fun n => (n : Int)
      | digits => (readExponentDigits digits).map fun n => (n : Int)
    else none

/-- The digits behind a point, and what follows them. -/
def splitFraction : Text → Text × Text
  | '.' :: rest => (rest.takeWhile Char.isDigit, rest.dropWhile Char.isDigit)
  | rest => ([], rest)

/-- Reads a number without sign into `digits * 10 ^ exponent`. -/
def readScientific (t : Text) : Option (Nat × Int) :=
  let whole := t.takeWhile Char.isDigit
  let (fraction, rest) := splitFraction (t.dropWhile Char.isDigit)
  if whole ++ fraction = [] then none
  else (readExponent rest).map fun exponent =>
    (ofDigits (whole ++ fraction), exponent - fraction.length)

/-- Reads one of the words for infinity and NaN. -/
def readWord (negative : Bool) (t : Text) : Option Binary64 :=
  let word := t.map Char.toLower
  if word = "inf".toList ∨ word = "infinity".toList then some (.infinity negative)
  else if word = "nan".toList then some (.quietNaN negative)
  else none

/-- Reads what follows the sign of a decimal. -/
def readUnsigned (negative : Bool) (t : Text) : Except Fault Binary64 :=
  match readScientific t with
  | some (digits, exponent) => .ok (.ofDecimal negative digits exponent)
  | none =>
    match readWord negative t with
    | some x => .ok x
    | none => .error .invalidDecimal

/-- Reads a decimal as the nearest binary64 number. -/
def readBinary64 : Text → Except Fault Binary64
  | [] => .error .emptyDecimal
  | '-' :: rest => readUnsigned true rest
  | '+' :: rest => readUnsigned false rest
  | t => readUnsigned false t

end GameShelf.Numeral
