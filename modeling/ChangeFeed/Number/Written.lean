/-
  ChangeFeed.Number.Written — how numbers are laid out as text.

  `Double.text` writes the fewest digits that read back: positionally while
  the leading digit stands between the fourth place after the point and the
  sixteenth before it, with a signed exponent of two digits otherwise.
  `Double.general` writes a given number of digits in the same manner but
  drops what is not needed; `Double.fixed` writes a given number of places
  and `Double.scientific` always writes an exponent.
-/

import ChangeFeed.Number.Digits

namespace ChangeFeed

namespace Double

/-! ## §1. Pieces. -/

/-- The sign in front of a number. -/
def signText (negative : Bool) : List Char := if negative then ['-'] else []

/-- A signed exponent of at least two digits. -/
def exponentText (e : Int) : List Char :=
  let ds := Nat.toDigits 10 e.natAbs
  ['e', if e < 0 then '-' else '+'] ++ (if ds.length < 2 then '0' :: ds else ds)

/-- Digits with a point before the one at `point`; a point at or before the
    first digit, or behind the last one, brings zeros. -/
def positional (ds : List Char) (point : Int) : List Char × List Char :=
  if point ≤ 0 then (['0'], List.replicate (-point).toNat '0' ++ ds)
  else
    let p := point.toNat
    (ds.take p ++ List.replicate (p - ds.length) '0', ds.drop p)

/-- Both parts around a point, or the first alone when there is no second. -/
def pointed (parts : List Char × List Char) : List Char :=
  if parts.2.isEmpty then parts.1 else parts.1 ++ '.' :: parts.2

/-- Digits in exponent form. -/
def exponentForm (ds : List Char) (e : Int) : List Char :=
  pointed (ds.take 1, ds.drop 1) ++ exponentText e

/-! ## §2. The fewest digits. -/

/-- The text of a finite number by the fewest digits that read back. -/
def finiteText (mantissa : Nat) (exponent : Int) : List Char :=
  if mantissa = 0 then ['0', '.', '0']
  else
    let d := Decimal.shortest mantissa exponent
    let ds := Nat.toDigits 10 d.digits
    let point : Int := ds.length + d.exponent
    if -4 < point ∧ point ≤ 16 then
      let (whole, rest) := positional ds point
      whole ++ '.' :: (if rest.isEmpty then ['0'] else rest)
    else exponentForm ds (point - 1)

/-- The text of a number that reads back to it. -/
def text : Double → String
  | .nan => "nan"
  | .infinite s => if s then "-inf" else "inf"
  | .finite s m e => String.ofList (signText s ++ finiteText m e)

/-! ## §3. A given number of digits. -/

/-- The digits and the exponent of the leading one, for `count` digits. -/
def leadingDigits (mantissa : Nat) (exponent : Int) (count : Nat) : List Char × Int :=
  if mantissa = 0 then (List.replicate count '0', 0)
  else
    let (num, den) := magnitude mantissa exponent
    let d := Decimal.toPlaces num den count
    let ds := Nat.toDigits 10 d.digits
    (ds, ds.length + d.exponent - 1)

/-- Digits without the zeros at their end. -/
def withoutTrailingZeros (ds : List Char) : List Char :=
  (ds.reverse.dropWhile (· == '0')).reverse

/-- A written number.  The zeros between both parts may be many, so they are
    counted. -/
structure Numeral where
  front : List Char
  zeros : Nat
  back : List Char

/-- The characters of a written number. -/
def Numeral.toList (n : Numeral) : List Char := n.front ++ List.replicate n.zeros '0' ++ n.back

/-- No number has more digits than this, be it in all or behind the point;
    whatever follows is zeros. -/
def mostDigits : Nat := 1074

/-- A finite number with `places` digits behind the point. -/
def fixed (mantissa : Nat) (exponent : Int) (places : Nat) : Numeral :=
  let exact := min places mostDigits
  let (num, den) := magnitude mantissa exponent
  let ds := Nat.toDigits 10 (roundQuotient (num * Nat.pow 10 exact) den)
  let ds := List.replicate (exact + 1 - ds.length) '0' ++ ds
  ⟨pointed (ds.take (ds.length - exact), ds.drop (ds.length - exact)), places - exact, []⟩

/-- A finite number in exponent form with `places` digits behind the point. -/
def scientific (mantissa : Nat) (exponent : Int) (places : Nat) : Numeral :=
  let exact := min places mostDigits
  let (ds, e) := leadingDigits mantissa exponent (exact + 1)
  ⟨pointed (ds.take 1, ds.drop 1), places - exact, exponentText e⟩

/-- A finite number with `count` digits, in exponent form when the leading
    digit lies outside them or beyond the fourth place.  Unless `keepZeros`,
    zeros at the end of the fraction go. -/
def general (mantissa : Nat) (exponent : Int) (count : Nat) (keepZeros : Bool) : Numeral :=
  let count := max count 1
  let exact := min count mostDigits
  let (ds, e) := leadingDigits mantissa exponent exact
  let strip (part : List Char) := if keepZeros then part else withoutTrailingZeros part
  let zeros := if keepZeros then count - exact else 0
  if -4 ≤ e ∧ e < count then
    let (whole, rest) := positional ds (e + 1)
    ⟨pointed (whole, strip rest), zeros, []⟩
  else ⟨pointed (ds.take 1, strip (ds.drop 1)), zeros, exponentText e⟩

/-- The text of a number by at most six digits. -/
def brief : Double → String
  | .nan => "nan"
  | .infinite s => if s then "-inf" else "inf"
  | .finite s m e => String.ofList (signText s ++ (general m e 6 false).toList)

/-- The largest number below one needs sixteen digits, and rounds to one in
    six. -/
example : (round false (2 ^ 53 - 1) (2 ^ 53)).text = "0.9999999999999999" ∧
    (round false (2 ^ 53 - 1) (2 ^ 53)).brief = "1" := by decide +kernel

end Double

end ChangeFeed
