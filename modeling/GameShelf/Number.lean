import GameShelf.Binary64.Rounding

/-!
# Numbers

A number is a 64-bit integer or a binary64 number.  Two integers compare as integers; as soon as
one side is a binary64 number, the other is rounded to one.

`equals` is narrower than comparing as equal: it never holds between an integer and a binary64
number, and it holds between binary64 numbers when they are equal as numbers.
-/

set_option autoImplicit false

namespace GameShelf

/-- An integer or a binary64 number. -/
inductive Number where
  | int (n : Int64)
  | float (x : Binary64)
  deriving DecidableEq, Repr

namespace Number

/-- The number as a binary64 number, rounded if need be. -/
def toBinary64 : Number → Binary64
  | .int n => .ofInt n.toInt
  | .float x => x

/-- Compares the numbers denoted; there is no answer when either side is a NaN. -/
def compare? : Number → Number → Option Ordering
  | .int m, .int n => some (compare m.toInt n.toInt)
  | a, b => a.toBinary64.compare? b.toBinary64

/-- Compares in the order used for sorting, which places NaNs too. -/
def totalCompare : Number → Number → Ordering
  | .int m, .int n => compare m.toInt n.toInt
  | a, b => a.toBinary64.totalCompare b.toBinary64

/-- Equality within one of the two kinds of number. -/
def equals : Number → Number → Bool
  | .int m, .int n => m == n
  | .float x, .float y => x.equals y
  | _, _ => false

end Number
end GameShelf
