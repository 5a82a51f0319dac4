/-
  ChangeFeed.Session.Step — one step of a reader: a poll, and what becomes of
  the message.

  A message with an error is reported and nothing else.  Of any other message
  the key is decoded first; without a key there is no event, and an empty
  payload deletes the element without being decoded.  The event, if there is
  one, is reported, and only when all of that went well does the tracker take
  over the offset; so a step that fails leaves what is tracked as it was.
-/

import ChangeFeed.Session.Poll

namespace ChangeFeed.Session

variable {R : Roles}

/-! ## §1. Messages. -/

/-- A log entry about a message. -/
def messageLog (what : String) (m : Message) : Log.Entry :=
  .tagged .trace readerLogger m.partition.label (what ++ " at o=" ++ Offset.described m.offset) none

/-- Handles a message that reports an error. -/
def handleError (E : Environment R) (serial : Nat) (m : Message) (code : ErrorCode) :
    Action R (Option Event) :=
  if isEndOfPartition (some code) then do
    emit E serial (.endReached m.partition)
    pure (some (.endReached m.partition))
  else do
    report E serial m code
    pure none

/-- The event that a message under a key stands for; none if its payload
    cannot be decoded. -/
def eventOf (E : Environment R) (serial : Nat) (m : Message) (key : Value) :
    Action R (Option Event) :=
  match m.payload with
  | none => pure (some (.delete m.partition key))
  | some [] => pure (some (.delete m.partition key))
  | some payload => do
    match ← decodeValue E serial key payload with
    | some value => pure (some (.set m.partition key value))
    | none =>
      Action.log (messageLog "Cannot decode value" m)
      pure none

/-- Decodes a message and reports the event that it stands for. -/
def handleRecord (E : Environment R) (serial : Nat) (m : Message) :
    Action R (Option Event) := do
  Action.log (messageLog "Handling message" m)
  match ← decodeKey E serial m.key with
  | none =>
    Action.log (messageLog "Cannot decode key" m)
    pure none
  | some key =>
    match ← eventOf E serial m key with
    | none => pure none
    | some event =>
      emit E serial event
      pure (some event)

/-- Takes over the offset of a message. -/
def track (serial : Nat) (m : Message) : Action R Unit :=
  Action.change serial fun r => { r with tracker := r.tracker.update m.partition m.offset }

/-- Handles a message. -/
def handle (E : Environment R) (serial : Nat) (m : Message) : Action R (Option Event) :=
  match m.error with
  | some code => handleError E serial m code
  | none => do
    let event ← handleRecord E serial m
    track serial m
    pure event

/-! ## §2. Steps. -/

/-- How long a reader waits for a message, when told `timeout`. -/
def effectiveTimeout (s : Session R) (serial : Nat) (timeout : Option Timeout) :
    Option Timeout :=
  timeout.or ((s.reader? serial).bind Reader.timeout)

/-- Polls the source once and handles the message, if there is one. -/
def step (E : Environment R) (serial : Nat) (timeout : Option Timeout) (turn : Turn) :
    Action R (Option Event) := do
  match ← poll E ((← get).effectiveTimeout serial timeout) turn with
  | none => pure none
  | some m => handle E serial m

end ChangeFeed.Session
