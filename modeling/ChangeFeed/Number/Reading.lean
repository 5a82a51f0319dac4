/-
  ChangeFeed.Number.Reading — the numbers that texts stand for.

  A decimal is a sign, digits with an optional point among or beside them,
  and an optional exponent.  The words for the infinities and for no number
  are read in any case.  Every decimal has a value: one too large is infinite,
  one too small is zero.

  White space may surround a number.  A text that is no number yet may become
  one when the underscores in it, each of them alone, are left out.
-/

import ChangeFeed.Number.Double
import ChangeFeed.Text.Blank

namespace ChangeFeed.Double

/-! ## §1. Digits. -/

/-- The decimal digits at the start of a text, and what follows. -/
def takeDigits (s : List Char) : List Char × List Char :=
  (s.takeWhile Char.isDigit, s.dropWhile Char.isDigit)

/-- The natural that decimal digits stand for. -/
def naturalOf (ds : List Char) : Nat :=
  ds.foldl (fun n d => 10 * n + (d.toNat - 0x30)) 0

/-! ## §2. Decimals. -/

/-- Splits a sign off. -/
def takeSign : List Char → Bool × List Char
  | '-' :: rest => (true, rest)
  | '+' :: rest => (false, rest)
  | rest => (false, rest)

/-- The exponent that ends a decimal; a decimal may do without. -/
def exponentOf? : List Char → Option Int
  | [] => some 0
  | c :: rest =>
    if c = 'e' ∨ c = 'E' then
      let (negative, rest) := takeSign rest
      match takeDigits rest with
      | ([], _) => none
      | (ds, []) => some (if negative then -(naturalOf ds : Int) else naturalOf ds)
      | _ => none
    else none

/-- An unsigned decimal: its digits as one natural and the place of the last
    one. -/
def decimalOf? (s : List Char) : Option (Nat × Int) :=
  let (whole, rest) := takeDigits s
  let (fraction, rest) := match rest with
    | '.' :: rest => takeDigits rest
    | rest => ([], rest)
  if whole.isEmpty && fraction.isEmpty then none
  else (exponentOf? rest).map fun e => (naturalOf (whole ++ fraction), e - fraction.length)

/-- The number that a text stands for. -/
def ofChars? (s : List Char) : Option Double :=
  let (negative, rest) := takeSign s
  let word := String.ofList (rest.map Char.toLower)
  if word = "inf" ∨ word = "infinity" then some (.infinite negative)
  else if word = "nan" then some .nan
  else (decimalOf? rest).map fun d => ofDecimal negative d.1 d.2

/-- Do two underscores follow each other? -/
def hasDoubledUnderscore : List Char → Bool
  | '_' :: '_' :: _ => true
  | _ :: rest => hasDoubledUnderscore rest
  | [] => false

/-- The text without its underscores, if it has any, none of them stands at
    an end and each stands alone. -/
def withoutUnderscores? (s : List Char) : Option (List Char) :=
  if !s.contains '_' || s.head? = some '_' || s.getLast? = some '_' || hasDoubledUnderscore s then
    none
  else some (s.filter (· ≠ '_'))

/-- The number that a text stands for: the text less the white space around
    it, or, if that is none, the text less its underscores. -/
def ofText? (s : String) : Option Double :=
  (ofChars? (Text.trim s.toList)).or ((withoutUnderscores? s.toList).bind ofChars?)

end ChangeFeed.Double
