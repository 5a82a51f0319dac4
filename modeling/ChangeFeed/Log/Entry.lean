/-
  ChangeFeed.Log.Entry — log entries and their levels.

  An entry says what happened, how grave it is and which component reports
  it.  It may be tagged with a key, usually a partition, and then carries
  properties as well; an entry without a key has neither.
-/

import ChangeFeed.Failure
import ChangeFeed.Text.CodePoint

namespace ChangeFeed.Log

/-! ## §1. Levels. -/

/-- How grave an entry is: the larger, the graver. -/
abbrev Level := Int

namespace Level

/-- Every single step. -/
def trace : Level := 5

/-- What helps to find a mistake. -/
def debug : Level := 10

/-- The normal course of things. -/
def info : Level := 20

/-- Something is not as it should be. -/
def warning : Level := 30

/-- Something went wrong. -/
def error : Level := 40

/-- The levels that have a name. -/
def named : List (Level × String) :=
  [(0, "NOTSET"), (5, "TRACE"), (10, "DEBUG"), (20, "INFO"), (30, "WARNING"), (40, "ERROR"),
    (50, "CRITICAL")]

/-- The word for a level in the names of functions. -/
def word (l : Level) : String :=
  if l = trace then "trace" else if l = debug then "debug" else if l = info then "info"
  else "warning"

/-- The name of a level; one without a name is shown by its number. -/
def name (l : Level) : String := (named.lookup l).getD ("Level " ++ toString l)

end Level

/-! ## §2. Entries. -/

/-- The tag of an entry that was to be tagged and had no key. -/
def noKey : String := "no key"

/-- One entry. -/
structure Entry where
  level : Level
  /-- The component that reports. -/
  logger : String
  /-- What the entry is about. -/
  key : Option String
  /-- The message, or why it could not be put together. -/
  message : Except Failure CodePoints
  properties : Option Table
  /-- The failure that is reported. -/
  failure : Option Raised
  /-- Does the entry show where it was made? -/
  showsStack : Bool
deriving Repr

/-- The failure that is reported if `failure` is given: one that counts as
    false is taken for none. -/
def reported (failure : Option Raised) : Option Raised := failure.filter Raised.isTruthy

/-- An entry without a key. -/
def Entry.plain (level : Level) (logger message : String) (failure : Option Raised) : Entry :=
  ⟨level, logger, none, .ok (.ofString message), none, reported failure, false⟩

/-- An entry tagged with a key, without properties. -/
def Entry.tagged (level : Level) (logger key message : String) (failure : Option Raised) :
    Entry :=
  ⟨level, logger, some key, .ok (.ofString message), some [], reported failure, false⟩

end ChangeFeed.Log
