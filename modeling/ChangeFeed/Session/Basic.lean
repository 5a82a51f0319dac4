/-
  ChangeFeed.Session.Basic — the state of a session: its source, the readers
  on it, and the journal of what was done.

  Readers are known by their serial, which counts them in the order in which
  they were opened; a closed reader stays, since listeners installed above it
  may still pass through it.

  Main results:
    * `reader?_modifyReader` — a change to one reader leaves the others.
    * `readers_enterLog` — log entries change no reader.
-/

import ChangeFeed.Journal

namespace ChangeFeed

/-! ## §1. Sources. -/

/-- A consumer that a source stands on. -/
structure Consumer where
  /-- Is it closed together with the source? -/
  owned : Bool
  /-- Does it report its errors to the client? -/
  reportsErrors : Bool
  /-- Has it been told which topics to read? -/
  subscribed : Bool
deriving DecidableEq, Repr

/-- What stands behind a source. -/
inductive Feed where
  /-- Nothing: the source itself delivers messages and assignments. -/
  | direct
  | consumer (consumer : Consumer)
deriving DecidableEq, Repr

/-! ## §2. Sessions. -/

/-- The state of a session. -/
structure Session (R : Roles) where
  /-- The readers opened so far, by serial. -/
  readers : List (Reader R)
  feed : Feed
  /-- The listener that the source calls at a rebalance. -/
  installed : Listener
  /-- Is a client's loop to go on? -/
  running : Bool
  /-- Entries below this level are not made. -/
  threshold : Log.Level
  /-- What was done, in order. -/
  journal : List Occurrence
  memory : R.Memory

/-- What code of a session computes: a value or a failure, and a new state in
    either case. -/
abbrev Action (R : Roles) (α : Type) := ExceptT Raised (StateM (Session R)) α

namespace Session

variable {R : Roles}

/-- A session without readers. -/
def start (feed : Feed) (threshold : Log.Level) (memory : R.Memory) : Session R :=
  ⟨[], feed, .nobody, false, threshold, [], memory⟩

/-- The reader with a serial. -/
def reader? (s : Session R) (serial : Nat) : Option (Reader R) := s.readers[serial]?

/-- Is there a closed reader with this serial? -/
def isClosed (s : Session R) (serial : Nat) : Bool :=
  (s.reader? serial).any Reader.closed

/-- Changes one reader. -/
def modifyReader (s : Session R) (serial : Nat) (change : Reader R → Reader R) : Session R :=
  { s with readers := s.readers.modify serial change }

theorem reader?_modifyReader (s : Session R) (serial other : Nat)
    (change : Reader R → Reader R) :
    (s.modifyReader serial change).reader? other =
      if serial = other then (s.reader? other).map change else s.reader? other := by
  simp only [reader?, modifyReader, List.getElem?_modify]
  split <;> simp

/-- Adds to the journal. -/
def enter (s : Session R) (o : Occurrence) : Session R :=
  { s with journal := s.journal ++ [o] }

/-- Adds a log entry, if it is grave enough. -/
def enterLog (s : Session R) (entry : Log.Entry) : Session R :=
  if s.threshold ≤ entry.level then s.enter (.logged entry) else s

@[simp] theorem readers_enterLog (s : Session R) (entry : Log.Entry) :
    (s.enterLog entry).readers = s.readers := by
  simp only [enterLog]
  split <;> rfl

theorem reader?_enterLog (s : Session R) (entry : Log.Entry) (serial : Nat) :
    (s.enterLog entry).reader? serial = s.reader? serial := by
  rw [reader?, readers_enterLog, reader?]

theorem installed_enterLog (s : Session R) (entry : Log.Entry) :
    (s.enterLog entry).installed = s.installed := by
  simp only [enterLog]
  split <;> rfl

end Session

/-! ## §3. Small actions. -/

namespace Action

variable {R : Roles}

/-- Adds to the journal. -/
def record {m : Type → Type} [MonadState (Session R) m] (o : Occurrence) : m Unit :=
  modify (·.enter o)

/-- Adds a log entry, if it is grave enough. -/
def log {m : Type → Type} [MonadState (Session R) m] (entry : Log.Entry) : m Unit :=
  modify (·.enterLog entry)

/-- Changes one reader. -/
def change {m : Type → Type} [MonadState (Session R) m] (serial : Nat)
    (f : Reader R → Reader R) : m Unit :=
  modify (·.modifyReader serial f)

/-- Looking at the state and going on is going on with the state. -/
theorem run_get_bind {α : Type} (f : Session R → Action R α) (s : Session R) :
    (get >>= f).run s = (f s).run s := rfl

/-- Cuts the computation short. -/
def fail {α : Type} (f : Failure) : Action R α := throw (Raised.of f)

/-- Does `act` and goes on in any case, with its outcome as a value. -/
def attempt {α : Type} (act : Action R α) : Action R (Except Raised α) :=
  ExceptT.mk (Except.ok <$> act.run)

/-- Does `cleanUp` after `act` however `act` ends.  A failure of `cleanUp`
    takes the place of what `act` came to. -/
def andFinally {α : Type} (act : Action R α) (cleanUp : Action R Unit) : Action R α := do
  let result ← attempt act
  cleanUp
  match result with
  | .ok a => pure a
  | .error e => throw e

end Action

end ChangeFeed
