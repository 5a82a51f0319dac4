/-
  ChangeFeed.Log.Record — log records in writing.

  A record starts with its time, level, component, key and message.  Below
  that stand its properties, the failure that it reports and the place where
  it was made, each on a new line and only if there is one.
-/

import ChangeFeed.Log.Entry
import ChangeFeed.Log.Template
import ChangeFeed.Value.Layout

namespace ChangeFeed.Log

/-! ## §1. Times. -/

/-- Seconds since the start of 1970. -/
inductive Timestamp where
  | whole (seconds : Int)
  | real (seconds : Double)
deriving DecidableEq, Repr

namespace Timestamp

/-- Millionths of a second, rounded; the fraction is rounded to binary
    before it is rounded to an integer. -/
def micros? : Timestamp → Except Failure Int
  | .whole n => .ok (n * 1000000)
  | .real .nan => .error .timeNotANumber
  | .real (.infinite _) => .error .timeUncountable
  | .real (.finite s m e) =>
    let (num, den) := Double.magnitude m e
    let fraction := match Double.round false (num % den * 1000000) den with
      | .finite _ m e =>
        let (n, d) := Double.magnitude m e
        Double.roundQuotient n d
      | _ => 0
    let n : Int := (num / den * 1000000 + fraction : Nat)
    .ok (if s then -n else n)

/-- Seconds are counted within these bounds. -/
def secondLimit : Int := Nat.pow 2 63

/-- Years are counted within these bounds. -/
def yearLimit : Int := Nat.pow 2 31

/-- The year as it is told when it is not in the calendar.  Years are counted
    from 1900, and beyond the last that has a number of its own the numbers
    start over. -/
def toldYear (year : Int) : Int := year.bmod (2 * yearLimit.toNat)

/-- Is the year in the calendar? -/
def inCalendar (year : Int) : Bool := 1 ≤ year && year ≤ 9999

/-- The moment of a time on a clock `offset` minutes ahead of universal time.
    The day before has to be in the calendar as well. -/
def moment? (offset : Int) (t : Timestamp) : Except Failure Calendar.Moment := do
  let micros ← t.micros?
  let seconds := micros / 1000000
  let moment := Calendar.Moment.ofMicros offset micros
  let before := Calendar.Moment.ofMicros offset (micros - 86400000000)
  let year := moment.day.year
  if seconds < -secondLimit || secondLimit ≤ seconds then .error .timeUncountable
  else if year - 1900 < -yearLimit || yearLimit ≤ year - 1900 then .error .timeTooFar
  else if !inCalendar year then .error (.yearOutOfRange (toldYear year))
  else if !inCalendar before.day.year then .error (.yearOutOfRange before.day.year)
  else .ok moment

end Timestamp

/-- A moment as records show it, with thousandths of a second of its own. -/
def momentText (moment : Calendar.Moment) (millis : Double) : String :=
  toString moment.day.year ++ "-" ++ Calendar.padded 2 moment.day.month ++ "-" ++
    Calendar.padded 2 moment.day.day ++ "T" ++ moment.clock.seconds ++ "," ++ millis.brief ++
    (moment.offset.map (Calendar.offsetText "")).getD ""

/-! ## §2. Records. -/

/-- A log record. -/
structure Record where
  name : String
  level : Level
  template : String
  arguments : List Value
  /-- What the record is about, if anything was said. -/
  key : Option Value
  properties : Value
  created : Timestamp
  /-- The thousandths of a second that go with `created`. -/
  millis : Double
  failure : Option Failure
  /-- The text of the place where the record was made. -/
  stack : String

namespace Record

/-- The key, or that there is none. -/
def keyOrNone (r : Record) : Value := r.key.getD (.text noKey)

/-- The line of a record. -/
def line (r : Record) (moment : Calendar.Moment) (message : CodePoints) : CodePoints :=
  .ofString ("[" ++ momentText moment r.millis ++ "] [" ++ r.level.name ++ "] [" ++ r.name ++
    "] \x7b" ++ r.keyOrNone.plain ++ "\x7d ") ++ message

/-- The properties, if there are any, on a new line behind the line of a
    record. -/
def propertiesText (r : Record) : Except Failure CodePoints :=
  if !r.properties.isTruthy then .ok []
  else if Value.depthLimit < r.properties.depth then .error .tooDeep
  else .ok (.ofString ("\nProperties: " ++ r.properties.laidOut))

/-- The line that tells of a failure. -/
def failureLine (f : Failure) : String :=
  match f.message? with
  | some message =>
    if message.isEmpty then f.qualifiedLabel else f.qualifiedLabel ++ ": " ++ message
  | none => f.qualifiedLabel

/-- Text on a new line. -/
def below (text : CodePoints) (more : String) : CodePoints :=
  if text.getLast? = some (.scalar '\n') then text ++ .ofString more
  else text ++ .ofString ("\n" ++ more)

/-- The text of a record as far as its key, on a clock `offset` minutes ahead
    of universal time. -/
def start (r : Record) (offset : Int) : Except Failure CodePoints := do
  let message ← Template.fill r.template r.arguments
  let moment ← r.created.moment? offset
  pure (r.line moment message)

/-- The text of a record. -/
def text (r : Record) (offset : Int) : Except Failure CodePoints := do
  let line ← r.start offset
  let properties ← r.propertiesText
  let text := line ++ properties
  let text := match r.failure with
    | some f => below text (failureLine f)
    | none => text
  pure (if r.stack.isEmpty then text else below text r.stack)

/-- What is known of the key once the text has been asked for: without one,
    that there is none, provided that the text got as far as the key. -/
def keyAfter (r : Record) (offset : Int) : Value :=
  match r.start offset with
  | .ok _ => r.keyOrNone
  | .error _ => r.key.getD .null

end Record

end ChangeFeed.Log
