import GameShelf.Binary64.Basic

/-!
# Rounding to binary64

The nearest binary64 number to a fraction of natural numbers, a tie going to the even neighbour.

The fraction is first expressed in units of `2 ^ -1074`, where every finite number is a whole
number `m * 2 ^ s` with `m` below `2 ^ 53`.  The step `s` is read off the size of the fraction; the
rounded `m` and `s` together are the magnitude `s * 2 ^ 52 + m`, because the exponent field of such a
number is `s + 1` once `m` has its top bit.  A carry out of `m` moves into the exponent by itself,
and what is too large ends at infinity.
-/

set_option autoImplicit false

namespace GameShelf.Binary64

/-- The whole number nearest to `num / den`, the even one of two. -/
def roundHalfEven (num den : Nat) : Nat :=
  let quotient := num / den
  let twice := 2 * (num % den)
  if twice < den then quotient
  else if den < twice then quotient + 1
  else if quotient % 2 = 0 then quotient else quotient + 1

/-- How many low bits the format cannot keep of a number of `units` units. -/
def stepExponent (units : Nat) : Nat :=
  if units < 2 * fractionSize then 0 else units.log2 - 52

/-- The magnitude nearest to `num / den`. -/
def nearestMagnitude (num den : Nat) : Nat :=
  let scaled := num * Nat.pow 2 1074
  let step := stepExponent (scaled / den)
  min (step * fractionSize + roundHalfEven scaled (den * Nat.pow 2 step)) infinityMagnitude

/-- The number nearest to `num / den`, with the given sign. -/
def ofRatio (negative : Bool) (num den : Nat) : Binary64 :=
  ofParts negative (nearestMagnitude num den)

/-- The number nearest to an integer. -/
def ofInt (n : Int) : Binary64 :=
  ofRatio (n < 0) n.natAbs 1

/-- The number nearest to `digits * 10 ^ exponent`.

A power of ten is computed only where it matters: above `10 ^ 310` everything is infinite, and below
`10 ^ -330` everything rounds to zero, however many digits there are. -/
def ofDecimal (negative : Bool) (digits : Nat) (exponent : Int) : Binary64 :=
  if digits = 0 then signedZero negative
  else if 310 < exponent then infinity negative
  else if exponent + digits.log2 < -330 then signedZero negative
  else if 0 ≤ exponent then ofRatio negative (digits * Nat.pow 10 exponent.toNat) 1
  else ofRatio negative digits (Nat.pow 10 (-exponent).toNat)

end GameShelf.Binary64
