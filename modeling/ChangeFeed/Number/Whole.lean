/-
  ChangeFeed.Number.Whole — integers in base ten, read from digits.

  Reading takes time that grows faster than the number of digits, so a text
  with more digits than `digitLimit` is refused before it is read.  Leading
  zeros count, a sign does not.
-/

import ChangeFeed.Failure
import ChangeFeed.Number.Reading

namespace ChangeFeed.Whole

/-- An integer with this sign and size. -/
def signed (negative : Bool) (size : Nat) : Int := if negative then -size else size

/-- The integer that digits write behind a sign. -/
def ofDigits (negative : Bool) (digits : List Char) : Except Failure Int :=
  if digits.length ≤ digitLimit then .ok (signed negative (Double.naturalOf digits))
  else .error (.tooManyDigits digits.length)

end ChangeFeed.Whole
