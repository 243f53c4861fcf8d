/-!
# Double-precision numbers as bit patterns

A number of the IEEE 754 format binary64 is its 64 bits.  Difficulty and rating are such numbers,
and duplicates, sort order and printing all look at bits, the sign of a zero and of a NaN included.
So the type keeps every pattern apart, and everything about it is arithmetic on natural numbers
that a proof can follow.

The lower 63 bits are called the magnitude: eleven bits of exponent above 52 bits of fraction.
Among numbers of one sign the magnitude grows with the absolute value, up to infinity; the patterns
above infinity are the NaNs.

There are two orders, and each is the order of integers under a key.

* `compare?` orders the numbers denoted.  The two zeros are equal and a NaN is comparable with
  nothing, itself included.  Filters use it.
* `totalCompare` is the total order of IEEE 754.  It tells the zeros apart and places every NaN:
  those with the sign set before all other numbers, those without it after them.  Sorting uses it.
-/

set_option autoImplicit false

namespace GameShelf

/-- A binary64 number, by its bits. -/
structure Binary64 where
  bits : UInt64
  deriving DecidableEq, Repr

namespace Binary64

/-- The weight of the sign bit, `2 ^ 63`. -/
def signWeight : Nat := 0x8000000000000000

/-- The weight of the lowest exponent bit, `2 ^ 52`. -/
def fractionSize : Nat := 0x10000000000000

/-- The magnitude of infinity: all exponent bits and no fraction. -/
def infinityMagnitude : Nat := 2047 * fractionSize

/-- The bits below the sign. -/
def magnitude (x : Binary64) : Nat :=
  x.bits.toNat % signWeight

/-- Whether the sign bit is set. -/
def isNegative (x : Binary64) : Bool :=
  signWeight ≤ x.bits.toNat

/-- The sign and the magnitude are all the bits. -/
theorem eq_of_isNegative_of_magnitude {x y : Binary64} (hsign : x.isNegative = y.isNegative)
    (hmagnitude : x.magnitude = y.magnitude) : x = y := by
  have hx : x.bits.toNat < 2 * signWeight := x.bits.toNat_lt
  have hy : y.bits.toNat < 2 * signWeight := y.bits.toNat_lt
  have hbits : x.bits.toNat = y.bits.toNat := by
    simp only [isNegative, decide_eq_decide] at hsign
    simp only [magnitude] at hmagnitude
    simp only [signWeight] at hsign hmagnitude hx hy
    omega
  cases x
  cases y
  exact congrArg Binary64.mk (UInt64.toNat_inj.1 hbits)

/-- The number with the given sign and magnitude. -/
def ofParts (negative : Bool) (magnitude : Nat) : Binary64 :=
  ⟨UInt64.ofNat (if negative then signWeight + magnitude else magnitude)⟩

/-- Zero, which has two signs. -/
def signedZero (negative : Bool) : Binary64 :=
  ofParts negative 0

/-- Infinity of the given sign. -/
def infinity (negative : Bool) : Binary64 :=
  ofParts negative infinityMagnitude

/-- The weight of the highest fraction bit, which a quiet NaN has set. -/
def quietBit : Nat := 0x8000000000000

/-- The quiet NaN of the given sign that has no other payload bit. -/
def quietNaN (negative : Bool) : Binary64 :=
  ofParts negative (infinityMagnitude + quietBit)

/-- Whether the pattern is none of the numbers and neither infinity. -/
def isNaN (x : Binary64) : Bool :=
  infinityMagnitude < x.magnitude

/-- Identity of stored values: the same bits, or two NaNs of whatever bits. -/
def same (x y : Binary64) : Bool :=
  x.isNaN && y.isNaN || x.bits == y.bits

theorem same_comm (x y : Binary64) : x.same y = y.same x := by
  simp only [same, Bool.and_comm x.isNaN, Bool.beq_comm (a := x.bits)]

/-! ## The number denoted -/

/-- The exponent field. -/
def exponentField (x : Binary64) : Nat :=
  x.magnitude / fractionSize

/-- The fraction field. -/
def fractionField (x : Binary64) : Nat :=
  x.magnitude % fractionSize

/-- The absolute value of a finite number in units of `2 ^ -1074`, the smallest positive one. -/
def units (x : Binary64) : Nat :=
  if x.exponentField = 0 then x.fractionField
  else (fractionSize + x.fractionField) * Nat.pow 2 (x.exponentField - 1)

/-- The exact value of a finite number in units of `2 ^ -1074`. -/
def signedUnits (x : Binary64) : Int :=
  if x.isNegative then -(x.units : Int) else x.units

/-! ## Orders -/

/-- The magnitude with the sign of the number; both zeros have key zero. -/
def valueKey (x : Binary64) : Int :=
  if x.isNegative then -(x.magnitude : Int) else x.magnitude

/-- The place of the pattern in the total order. -/
def totalKey (x : Binary64) : Int :=
  if x.isNegative then -(x.magnitude : Int) - 1 else x.magnitude

/-- Compares the numbers denoted; there is no answer when either side is a NaN. -/
def compare? (x y : Binary64) : Option Ordering :=
  if x.isNaN || y.isNaN then none else some (compare x.valueKey y.valueKey)

/-- Compares two patterns in the total order. -/
def totalCompare (x y : Binary64) : Ordering :=
  compare x.totalKey y.totalKey

/-- Whether two numbers are equal as numbers: neither is a NaN, and they have the same bits or are
two zeros. -/
def equals (x y : Binary64) : Bool :=
  !x.isNaN && !y.isNaN && (x.bits == y.bits || x.magnitude == 0 && y.magnitude == 0)

end Binary64
end GameShelf
