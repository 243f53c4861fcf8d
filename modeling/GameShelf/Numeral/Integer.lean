import GameShelf.Text.Basic

/-!
# Whole numbers as text

A whole number is an optional sign and at least one digit.  Reading goes from left to right and
stops at the first thing that is wrong: a character that is no digit, or a digit with which the
number leaves its range.  So in a numeral that is both too long and malformed, the fault that comes
first is the one reported.

`decimal` writes whole numbers, with no sign for those that are not negative.

The faults are those of decimals too.  Whole numbers and decimals have their own wordings, so the
same empty text is two different faults.
-/

set_option autoImplicit false

namespace GameShelf.Numeral

/-! ## Faults -/

/-- Why a text is not the number that was asked for. -/
inductive Fault where
  | emptyInteger
  | invalidDigit
  | tooLarge
  | tooSmall
  | emptyDecimal
  | invalidDecimal
  deriving DecidableEq, Repr

/-- The wording of a fault. -/
def Fault.message : Fault → String
  | .emptyInteger => "cannot parse integer from empty string"
  | .invalidDigit => "invalid digit found in string"
  | .tooLarge => "number too large to fit in target type"
  | .tooSmall => "number too small to fit in target type"
  | .emptyDecimal => "cannot parse float from empty string"
  | .invalidDecimal => "invalid float literal"

/-! ## Reading -/

/-- The value of a digit in the given base; letters of either case are the digits from ten on. -/
def digitIn? (base : Nat) (c : Char) : Option Nat :=
  let value :=
    if '0' ≤ c ∧ c ≤ '9' then c.toNat - '0'.toNat
    else if 'a' ≤ c ∧ c ≤ 'z' then c.toNat - 'a'.toNat + 10
    else if 'A' ≤ c ∧ c ≤ 'Z' then c.toNat - 'A'.toNat + 10
    else base
  if value < base then some value else none

/-- Appends digits to the magnitude read so far, up to the largest one allowed. -/
def readMagnitude (base limit : Nat) (overflow : Fault) : Nat → Text → Except Fault Nat
  | magnitude, [] => .ok magnitude
  | magnitude, c :: rest =>
    match digitIn? base c with
    | none => .error .invalidDigit
    | some digit =>
      if base * magnitude + digit ≤ limit then
        readMagnitude base limit overflow (base * magnitude + digit) rest
      else .error overflow

/-- Reads a signed number from `-limit` to `limit - 1`. -/
def readSigned (base limit : Nat) : Text → Except Fault Int
  | [] => .error .emptyInteger
  | ['+'] | ['-'] => .error .invalidDigit
  | '-' :: digits => do
    let magnitude ← readMagnitude base limit .tooSmall 0 digits
    return -(magnitude : Int)
  | '+' :: digits => do
    let magnitude ← readMagnitude base (limit - 1) .tooLarge 0 digits
    return (magnitude : Int)
  | digits => do
    let magnitude ← readMagnitude base (limit - 1) .tooLarge 0 digits
    return (magnitude : Int)

/-- The limit of the numbers of 32 bits, `2 ^ 31`. -/
def limit32 : Nat := 0x80000000

/-- The limit of the numbers of 64 bits, `2 ^ 63`. -/
def limit64 : Nat := 0x8000000000000000

/-- Reads a decimal number of 64 bits. -/
def readInt64 (t : Text) : Except Fault Int64 :=
  (readSigned 10 limit64 t).map Int64.ofInt

/-- Reads a number of 32 bits: hexadecimal after `0x`, decimal otherwise.  The sign of a
hexadecimal number follows the `0x`. -/
def readInt32 : Text → Except Fault Int32
  | '0' :: 'x' :: digits => (readSigned 16 limit32 digits).map Int32.ofInt
  | t => (readSigned 10 limit32 t).map Int32.ofInt

/-! ## Writing -/

/-- The decimal digits of a natural number. -/
def natDecimal (n : Nat) : Text :=
  Nat.toDigits 10 n

/-- The decimal text of an integer. -/
def decimal : Int → Text
  | .ofNat n => natDecimal n
  | .negSucc n => '-' :: natDecimal (n + 1)

end GameShelf.Numeral
