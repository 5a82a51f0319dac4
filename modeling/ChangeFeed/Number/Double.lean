/-
  ChangeFeed.Number.Double — binary floating-point numbers of 64 bits, held
  exactly.

  A finite number is `± mantissa · 2 ^ exponent`.  `round` brings any
  quotient of naturals to the nearest such number, a tie to the even
  mantissa, and is the only way that a finite number arises; so the mantissa
  stays below 2 ^ 53 and is at least 2 ^ 52 unless the exponent is the least
  one.  Zero keeps its sign.  Everything else about these numbers is exact
  arithmetic on naturals and integers.
-/

namespace ChangeFeed

/-- A binary floating-point number of 64 bits. -/
inductive Double where
  /-- No number at all. -/
  | nan
  /-- Beyond every finite number, on one side. -/
  | infinite (negative : Bool)
  /-- `± mantissa · 2 ^ exponent`. -/
  | finite (negative : Bool) (mantissa : Nat) (exponent : Int)
deriving DecidableEq, Repr, Inhabited

namespace Double

/-! ## §1. The format. -/

/-- How many binary digits a mantissa has room for. -/
def precision : Nat := 53

/-- The least exponent; smaller numbers lose digits instead. -/
def minExponent : Int := -1074

/-- The largest exponent. -/
def maxExponent : Int := 971

/-! ## §2. Rounding. -/

/-- The integer nearest to `num / den`, a tie to the even one. -/
def roundQuotient (num den : Nat) : Nat :=
  let q := num / den
  match compare (2 * (num % den)) den with
  | .lt => q
  | .gt => q + 1
  | .eq => if q % 2 = 0 then q else q + 1

/-- `num / den / 2 ^ e` as a quotient of naturals. -/
def scaleDown (num den : Nat) (e : Int) : Nat × Nat :=
  (num * Nat.pow 2 (-e).toNat, den * Nat.pow 2 e.toNat)

/-- The exponent of the leading binary digit of `num / den`, for positive
    `num` and `den`. -/
def leadingExponent (num den : Nat) : Int :=
  let e : Int := (num.log2 : Int) - (den.log2 : Int)
  let (n, d) := scaleDown num den e
  if d ≤ n then e else e - 1

/-- The number nearest to `± num / den`. -/
def round (negative : Bool) (num den : Nat) : Double :=
  if num = 0 then .finite negative 0 minExponent
  else
    let e := max (leadingExponent num den - (precision - 1 : Nat)) minExponent
    let (n, d) := scaleDown num den e
    let m := roundQuotient n d
    let (m, e) := if m = Nat.pow 2 precision then (m / 2, e + 1) else (m, e)
    if maxExponent < e then .infinite negative else .finite negative m e

/-- The number nearest to `± digits · 10 ^ exponent`.  Exponents far outside
    the format are decided without the power. -/
def ofDecimal (negative : Bool) (digits : Nat) (exponent : Int) : Double :=
  if digits = 0 then .finite negative 0 minExponent
  else
    let size : Int := (Nat.toDigits 10 digits).length + exponent
    if 310 < size then .infinite negative
    else if size < -330 then .finite negative 0 minExponent
    else round negative (digits * Nat.pow 10 exponent.toNat) (Nat.pow 10 (-exponent).toNat)

/-- Positive zero. -/
def zero : Double := .finite false 0 minExponent

/-- One. -/
def one : Double := round false 1 1

/-- The number nearest to an integer, unless it is beyond all finite ones. -/
def ofInt? (i : Int) : Option Double :=
  match round (i < 0) i.natAbs 1 with
  | .finite s m e => some (.finite s m e)
  | _ => none

/-! ## §3. Order. -/

/-- A finite number in units of `2 ^ minExponent`, which is an integer. -/
def units (negative : Bool) (mantissa : Nat) (exponent : Int) : Int :=
  let n : Int := mantissa * Nat.pow 2 (exponent - minExponent).toNat
  if negative then -n else n

/-- An integer in the same units. -/
def unitsOfInt (i : Int) : Int := i * Nat.pow 2 (-minExponent).toNat

/-- Do two numbers have one value?  The two zeros do; no number equals
    `nan`. -/
def sameValue : Double → Double → Bool
  | .finite s m e, .finite s' m' e' => units s m e == units s' m' e'
  | .infinite s, .infinite s' => s == s'
  | _, _ => false

/-- Has the number the value of the integer? -/
def equalsInt : Double → Int → Bool
  | .finite s m e, i => units s m e == unitsOfInt i
  | _, _ => false

/-- Is the number greater than zero? -/
def isPositive : Double → Bool
  | .nan => false
  | .infinite s => !s
  | .finite s m _ => !s && m != 0

/-- Is the number zero or greater?  Negative zero is. -/
def isNonNegative : Double → Bool
  | .nan => false
  | .infinite s => !s
  | .finite s m _ => !s || m == 0

/-- Is the number zero, of either sign? -/
def isZero : Double → Bool
  | .finite _ m _ => m == 0
  | _ => false

/-! ## §4. Whole and fractional part. -/

/-- The size of a finite number as a quotient of naturals. -/
def magnitude (mantissa : Nat) (exponent : Int) : Nat × Nat :=
  (mantissa * Nat.pow 2 exponent.toNat, Nat.pow 2 (-exponent).toNat)

/-- The integer part of a finite number, toward zero. -/
def truncate (negative : Bool) (mantissa : Nat) (exponent : Int) : Int :=
  let (n, d) := magnitude mantissa exponent
  if negative then -((n / d : Nat) : Int) else (n / d : Nat)

/-- One third rounds to fifty-three binary digits. -/
example : round false 1 3 = .finite false 6004799503160661 (-54) := by decide +kernel

end Double

end ChangeFeed
