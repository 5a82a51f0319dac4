/-
  ChangeFeed.Toml.Scalar — numbers, days and times in TOML documents.

  Integers are written in base ten, or in base two, eight or sixteen behind a
  mark; a fraction or an exponent makes a floating-point number.  Underscores
  may stand between digits.  A day may be followed by a time, and that by its
  distance from universal time.

  A number in base ten may be written well and still have too many digits to
  be read; it then has a failure in place of a value.
-/

import ChangeFeed.Number.Whole
import ChangeFeed.Toml.Text
import ChangeFeed.Value.Basic

namespace ChangeFeed.Toml

/-! ## §1. Days and times. -/

/-- The number that exactly `count` decimal digits write, and what follows. -/
def takeCount (count n : Nat) (s : List Char) : Option (Nat × List Char) :=
  match count, s with
  | 0, s => some (n, s)
  | _ + 1, [] => none
  | count + 1, c :: rest =>
    if c.isDigit then takeCount count (10 * n + (c.toNat - 0x30)) rest else none

/-- What follows a character that has to stand at the start. -/
def expect (c : Char) : List Char → Option (List Char)
  | d :: rest => if d = c then some rest else none
  | [] => none

/-- Year, month and day; the day is one that some month has. -/
def takeDay (s : List Char) : Option (Calendar.Day × List Char) := do
  let (year, s) ← takeCount 4 0 s
  let s ← expect '-' s
  let (month, s) ← takeCount 2 0 s
  let s ← expect '-' s
  let (day, s) ← takeCount 2 0 s
  if 1 ≤ month ∧ month ≤ 12 ∧ 1 ≤ day ∧ day ≤ 31 then some (⟨year, month, day⟩, s) else none

/-- Is the day in the calendar? -/
def exists? (d : Calendar.Day) : Bool :=
  1 ≤ d.year && decide (d.day ≤ Calendar.daysInMonth d.year d.month)

/-- A fraction of a second in millionths, further digits being dropped, and
    what follows. -/
def takeMicros (s : List Char) : Nat × List Char :=
  match s with
  | '.' :: rest =>
    let digits := rest.takeWhile Char.isDigit
    if digits.isEmpty then (0, s)
    else (Double.naturalOf ((digits ++ List.replicate 6 '0').take 6), rest.dropWhile Char.isDigit)
  | s => (0, s)

/-- A time of day. -/
def takeClock (s : List Char) : Option (Calendar.Clock × List Char) := do
  let (hour, s) ← takeCount 2 0 s
  let s ← expect ':' s
  let (minute, s) ← takeCount 2 0 s
  let s ← expect ':' s
  let (second, s) ← takeCount 2 0 s
  let (micro, s) := takeMicros s
  if hour < 24 ∧ minute < 60 ∧ second < 60 then some (⟨hour, minute, second, micro⟩, s) else none

/-- Hours and minutes, as minutes. -/
def takeMinutes (s : List Char) : Option (Nat × List Char) := do
  let (hour, s) ← takeCount 2 0 s
  let s ← expect ':' s
  let (minute, s) ← takeCount 2 0 s
  if hour < 24 ∧ minute < 60 then some (60 * hour + minute, s) else none

/-- The distance from universal time, if there is one, and what follows. -/
def takeOffset (s : List Char) : Option Int × List Char :=
  match s with
  | 'Z' :: rest => (some 0, rest)
  | 'z' :: rest => (some 0, rest)
  | '+' :: rest =>
    match takeMinutes rest with
    | some (n, rest) => (some n, rest)
    | none => (none, s)
  | '-' :: rest =>
    match takeMinutes rest with
    | some (n, rest) => (some (-n), rest)
    | none => (none, s)
  | s => (none, s)

/-- The time that follows a day, if there is one. -/
def takeFollowingClock : List Char → Option (Calendar.Clock × List Char)
  | 'T' :: rest => takeClock rest
  | 't' :: rest => takeClock rest
  | ' ' :: rest => takeClock rest
  | _ => none

/-- A day, perhaps with a time; it has to be in the calendar. -/
def momentFrom (day : Calendar.Day) (s : List Char) : Option (Value × List Char) :=
  if !exists? day then none
  else
    match takeFollowingClock s with
    | none => some (.day day, s)
    | some (clock, s) =>
      let (offset, s) := takeOffset s
      some (.moment ⟨day, clock, offset⟩, s)

/-! ## §2. Numbers. -/

/-- The digits at the start of a text, without the single underscores between
    them, and what follows; `isDigit` says what a digit is. -/
def takeRun (isDigit : Char → Bool) : List Char → List Char × List Char
  | [] => ([], [])
  | [c] => if isDigit c then ([c], []) else ([], [c])
  | [c, d] =>
    if isDigit c then
      if isDigit d then ([c, d], []) else ([c], [d])
    else ([], [c, d])
  | c :: d :: e :: rest =>
    if isDigit c then
      if d = '_' ∧ isDigit e then
        let (ds, rest) := takeRun isDigit (e :: rest)
        (c :: ds, rest)
      else
        let (ds, rest) := takeRun isDigit (d :: e :: rest)
        (c :: ds, rest)
    else ([], c :: d :: e :: rest)

/-- The decimal digits at the start of a text, and what follows. -/
def takeDecimals (s : List Char) : List Char × List Char := takeRun Char.isDigit s

/-- The natural that digits write in a base. -/
def naturalInBase (base : Nat) (digits : List Char) : Nat :=
  digits.foldl (fun n c => base * n + (hexValue? c).getD 0) 0

/-- Is the character a digit in this base? -/
def isDigitIn (base : Nat) (c : Char) : Bool := (hexValue? c).any (· < base)

/-- An integer behind the mark of its base. -/
def takeMarked (s : List Char) : Option (Value × List Char) :=
  let inBase (base : Nat) (rest : List Char) : Option (Value × List Char) :=
    match takeRun (isDigitIn base) rest with
    | ([], _) => none
    | (digits, rest) => some (.int (naturalInBase base digits), rest)
  match s with
  | '0' :: 'x' :: rest => inBase 16 rest
  | '0' :: 'o' :: rest => inBase 8 rest
  | '0' :: 'b' :: rest => inBase 2 rest
  | _ => none

/-- The digits in front of the point: zero alone, or digits that do not start
    with zero. -/
def takeWhole : List Char → Option (List Char × List Char)
  | '0' :: rest => some (['0'], rest)
  | s =>
    match takeDecimals s with
    | ([], _) => none
    | r => some r

/-- The digits behind a point, if there are any, and what follows. -/
def takeFraction (s : List Char) : Option (List Char) × List Char :=
  match s with
  | '.' :: rest =>
    match takeDecimals rest with
    | ([], _) => (none, s)
    | (digits, rest) => (some digits, rest)
  | s => (none, s)

/-- The exponent, if there is one, and what follows. -/
def takeExponent (s : List Char) : Option Int × List Char :=
  match s with
  | [] => (none, s)
  | c :: rest =>
    if c = 'e' ∨ c = 'E' then
      let (negative, rest) := Double.takeSign rest
      match takeDecimals rest with
      | ([], _) => (none, s)
      | (digits, rest) =>
        let n : Int := Double.naturalOf digits
        (some (if negative then -n else n), rest)
    else (none, s)

/-- A number in base ten, whole or not. -/
def takeDecimal (s : List Char) : Option (Except Failure Value × List Char) := do
  let (negative, s) := Double.takeSign s
  let (whole, s) ← takeWhole s
  let (fraction, s) := takeFraction s
  let (exponent, s) := takeExponent s
  if fraction.isNone && exponent.isNone then
    some ((Whole.ofDigits negative whole).map .int, s)
  else
    let digits := whole ++ fraction.getD []
    let place := exponent.getD 0 - (fraction.getD []).length
    some (.ok (.float (Double.ofDecimal negative (Double.naturalOf digits) place)), s)

/-- A number that is written as a word. -/
def takeWord (s : List Char) : Option (Value × List Char) :=
  let (negative, rest) := Double.takeSign s
  match rest with
  | 'i' :: 'n' :: 'f' :: rest => some (.float (.infinite negative), rest)
  | 'n' :: 'a' :: 'n' :: rest => some (.float .nan, rest)
  | _ => none

/-- A truth value. -/
def takeTruth : List Char → Option (Value × List Char)
  | 't' :: 'r' :: 'u' :: 'e' :: rest => some (.bool true, rest)
  | 'f' :: 'a' :: 'l' :: 's' :: 'e' :: rest => some (.bool false, rest)
  | _ => none

/-- A truth value, day, time or number that can be read as soon as it is
    written well; anything in base ten aside. -/
def takePlain (s : List Char) : Option (Value × List Char) :=
  match takeTruth s with
  | some r => some r
  | none =>
    match takeClock s with
    | some (clock, rest) => some (.clock clock, rest)
    | none => (takeMarked s).or (takeWord s)

/-- A truth value, day, time or number. -/
def takeScalar (s : List Char) : Except Failure (Value × List Char) :=
  let plain (r : Option (Value × List Char)) : Except Failure (Value × List Char) :=
    r.elim (.error .malformedDocument) .ok
  match takeDay s with
  | some (day, rest) => plain (momentFrom day rest)
  | none =>
    match takePlain s with
    | some r => .ok r
    | none =>
      match takeDecimal s with
      | some (v, rest) => v.map (·, rest)
      | none => .error .malformedDocument

end ChangeFeed.Toml
