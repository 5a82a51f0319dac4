/-
  ChangeFeed.Calendar — days, clock times and moments.

  Days follow the Gregorian calendar in both directions.  A moment may carry
  its distance from universal time in minutes.  Every text form is the
  numeric one with the largest unit first, so that texts of one shape sort as
  the times do.
-/

namespace ChangeFeed

namespace Calendar

/-! ## §1. Digits. -/

/-- A natural in decimal, with zeros in front up to `width` digits. -/
def padded (width n : Nat) : String :=
  let ds := Nat.toDigits 10 n
  String.ofList (List.replicate (width - ds.length) '0' ++ ds)

/-! ## §2. Days. -/

/-- Does the year have a 29 February? -/
def isLeap (year : Int) : Bool :=
  year % 4 == 0 && (year % 100 != 0 || year % 400 == 0)

/-- How many days the month has; there is no month beyond the twelfth. -/
def daysInMonth (year : Int) (month : Nat) : Nat :=
  match month with
  | 1 | 3 | 5 | 7 | 8 | 10 | 12 => 31
  | 4 | 6 | 9 | 11 => 30
  | 2 => if isLeap year then 29 else 28
  | _ => 0

/-- A day of the calendar. -/
structure Day where
  year : Int
  month : Nat
  day : Nat
deriving DecidableEq, Repr, Inhabited

/-- The day that lies `n` days after 1 January 1970.  Years are counted from
    March, in cycles of 400, so that the leap day ends its year. -/
def Day.ofNumber (n : Int) : Day :=
  let z := n + 719468
  let cycle := z / 146097
  let dayOfCycle := z % 146097
  let yearOfCycle :=
    (dayOfCycle - dayOfCycle / 1460 + dayOfCycle / 36524 - dayOfCycle / 146096) / 365
  let dayOfYear := dayOfCycle - (365 * yearOfCycle + yearOfCycle / 4 - yearOfCycle / 100)
  let monthFromMarch := (5 * dayOfYear + 2) / 153
  let day := dayOfYear - (153 * monthFromMarch + 2) / 5 + 1
  let month := if monthFromMarch < 10 then monthFromMarch + 3 else monthFromMarch - 9
  let year := yearOfCycle + cycle * 400 + (if month ≤ 2 then 1 else 0)
  ⟨year, month.toNat, day.toNat⟩

/-- Year, month and day, between hyphens. -/
def Day.text (d : Day) : String :=
  padded 4 d.year.toNat ++ "-" ++ padded 2 d.month ++ "-" ++ padded 2 d.day

/-! ## §3. Clock times. -/

/-- A time of day. -/
structure Clock where
  hour : Nat
  minute : Nat
  second : Nat
  /-- Millionths of a second. -/
  micro : Nat
deriving DecidableEq, Repr, Inhabited

/-- Hours, minutes and seconds, between colons. -/
def Clock.seconds (c : Clock) : String :=
  padded 2 c.hour ++ ":" ++ padded 2 c.minute ++ ":" ++ padded 2 c.second

/-- The time of day, with its fraction when it has one. -/
def Clock.text (c : Clock) : String :=
  if c.micro = 0 then c.seconds else c.seconds ++ "." ++ padded 6 c.micro

/-! ## §4. Moments. -/

/-- A day and a time, perhaps with the distance from universal time. -/
structure Moment where
  day : Day
  clock : Clock
  /-- Minutes ahead of universal time. -/
  offset : Option Int
deriving DecidableEq, Repr, Inhabited

/-- A distance from universal time, as hours and minutes around
    `separator`. -/
def offsetText (separator : String) (minutes : Int) : String :=
  (if minutes < 0 then "-" else "+") ++ padded 2 (minutes.natAbs / 60) ++ separator ++
    padded 2 (minutes.natAbs % 60)

/-- Day and time around a `T`, then the distance if there is one. -/
def Moment.text (m : Moment) : String :=
  m.day.text ++ "T" ++ m.clock.text ++ (m.offset.map (offsetText ":")).getD ""

/-- The moment that lies so many millionths of a second after the start of
    1970 in universal time, on a clock `offset` minutes ahead. -/
def Moment.ofMicros (offset : Int) (micros : Int) : Moment :=
  let local_ := micros + offset * 60000000
  let day := local_ / 86400000000
  let rest := (local_ % 86400000000).toNat
  ⟨Day.ofNumber day,
    ⟨rest / 3600000000, rest / 60000000 % 60, rest / 1000000 % 60, rest % 1000000⟩,
    some offset⟩

/-- The day before and the day after a leap day. -/
example : (Moment.ofMicros 0 (951868799 * 1000000)).text = "2000-02-29T23:59:59+00:00" ∧
    (Moment.ofMicros (-570) (951868800 * 1000000)).text = "2000-02-29T14:30:00-09:30" := by
  decide +kernel

end Calendar

end ChangeFeed
