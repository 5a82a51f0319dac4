/-
  ChangeFeed.Number.Digits — which decimal digits stand for a binary number.

  There are two choices.  `shortest` takes the fewest digits that read back
  to the same number, of several such decimals the nearest, and on a tie the
  even one.  `toPlaces` takes a given number of digits, rounding the exact
  value to nearest, a tie to the even digit.  Both work on the exact quotient
  of naturals that the number is.
-/

import ChangeFeed.Number.Double

namespace ChangeFeed

/-- The number `digits · 10 ^ exponent`. -/
structure Decimal where
  /-- All digits, as one natural. -/
  digits : Nat
  /-- The place of the last digit. -/
  exponent : Int
deriving DecidableEq, Repr

namespace Decimal

/-! ## §1. Places. -/

/-- How many decimal digits a natural has; zero has one. -/
def width (n : Nat) : Nat := (Nat.toDigits 10 n).length

/-- The least `k` with `num / den < 10 ^ k`, for positive `num` and `den`. -/
def leadingPlace (num den : Nat) : Int :=
  if den ≤ num then width (num / den) else 1 - (width (den / num) : Int)

/-- `num / den` in units of `10 ^ place`, as a quotient of naturals. -/
def inPlaces (num den : Nat) (place : Int) : Nat × Nat :=
  (num * Nat.pow 10 (-place).toNat, den * Nat.pow 10 place.toNat)

/-- Drops the zeros at the end; `fuel` bounds how many. -/
def stripZeros (d : Decimal) : Nat → Decimal
  | 0 => d
  | fuel + 1 =>
    if d.digits % 10 = 0 ∧ d.digits ≠ 0 then
      stripZeros ⟨d.digits / 10, d.exponent + 1⟩ fuel
    else d

/-! ## §2. The fewest digits that read back. -/

/-- Compares a decimal with `n · 2 ^ j`, exactly. -/
def compareBinary (d : Decimal) (n : Nat) (j : Int) : Ordering :=
  compare (d.digits * Nat.pow 10 d.exponent.toNat * Nat.pow 2 (-j).toNat)
    (n * Nat.pow 2 j.toNat * Nat.pow 10 (-d.exponent).toNat)

/-- Does the decimal lie among the reals that round to
    `mantissa · 2 ^ exponent`?  The ends of that interval belong to it when
    the mantissa is even; below a power of two it is half as wide. -/
def readsBack (mantissa : Nat) (exponent : Int) (d : Decimal) : Bool :=
  let narrow := mantissa = Nat.pow 2 (Double.precision - 1) ∧ Double.minExponent < exponent
  let low := if narrow then 4 * mantissa - 1 else 4 * mantissa - 2
  let even := mantissa % 2 == 0
  let atLow := d.compareBinary low (exponent - 2)
  let atHigh := d.compareBinary (4 * mantissa + 2) (exponent - 2)
  (atLow == .gt || (even && atLow == .eq)) && (atHigh == .lt || (even && atHigh == .eq))

/-- The better of the two neighbours of `num / den` at one place, if one of
    them reads back. -/
def neighbour? (mantissa : Nat) (exponent : Int) (num den : Nat) (place : Int) :
    Option Decimal :=
  let (n, d) := inPlaces num den place
  let below : Decimal := ⟨n / d, place⟩
  let above : Decimal := ⟨n / d + 1, place⟩
  match readsBack mantissa exponent below, readsBack mantissa exponent above with
  | true, true => some ⟨Double.roundQuotient n d, place⟩
  | true, false => some below
  | false, true => some above
  | false, false => none

/-- The fewest digits that read back to `mantissa · 2 ^ exponent`, which is
    not zero.  Seventeen digits always do; the exact value stands behind
    them. -/
def shortest (mantissa : Nat) (exponent : Int) : Decimal :=
  let (num, den) := Double.magnitude mantissa exponent
  let lead := leadingPlace num den
  let found := (List.range 17).findSome? fun n =>
    neighbour? mantissa exponent num den (lead - (n + 1 : Nat))
  let exact : Decimal :=
    ⟨mantissa * Nat.pow 5 (-exponent).toNat * Nat.pow 2 exponent.toNat, min exponent 0⟩
  let d := found.getD exact
  stripZeros d (width d.digits)

/-! ## §3. A given number of digits. -/

/-- The first `count` digits of `num / den`, rounded; `count` and the
    quotient are positive. -/
def toPlaces (num den count : Nat) : Decimal :=
  let place := leadingPlace num den - count
  let (n, d) := inPlaces num den place
  let r := Double.roundQuotient n d
  if r = Nat.pow 10 count then ⟨r / 10, place + 1⟩ else ⟨r, place⟩

end Decimal

end ChangeFeed
