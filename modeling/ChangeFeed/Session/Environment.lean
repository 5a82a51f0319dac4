/-
  ChangeFeed.Session.Environment — what code outside the library does when it
  is called.

  Decoders, handlers, foreign listeners and the consumer are called through
  this module alone: a call enters the journal and then behaves as the
  `Environment` says.  A behaviour is any action on the session, so a handler
  may poll, close readers or install listeners; statements about handlers
  that do no such thing say so of the environment.

  Decoding octets as text and printing are done here, since no code of the
  user's is needed for them.
-/

import ChangeFeed.Session.Basic

namespace ChangeFeed

/-! ## §1. Behaviours. -/

/-- What a listener leaves behind: the assignment as it stands now, and the
    failure that the call ended with, if it did. -/
structure Notified where
  assignment : Assignment
  failure : Option Raised

/-- The behaviour of everything that a session calls. -/
structure Environment (R : Roles) where
  /-- A decoder's key, or nothing if it makes nothing of the octets. -/
  decodeKey : R.KeyDecoder → Option Octets → Action R (Option Value)
  /-- A decoder's value for a key, or nothing. -/
  decodeValue : R.ValueDecoder → Value → Octets → Action R (Option Value)
  onEvent : R.EventHandler → Event → Action R Unit
  onError : R.ErrorHandler → Message → ErrorCode → Action R Unit
  /-- A foreign listener, by name. -/
  onAssignment : String → Assignment → StateM (Session R) Notified
  /-- The making of a consumer. -/
  onCreate : Action R Unit
  onSubscribe : List String → Action R Unit
  onAssign : Assignment → Action R Unit
  onClose : Action R Unit
  onSleep : Double → Action R Unit

namespace Session

variable {R : Roles}

/-! ## §2. Decoding. -/

/-- The octets as a text; octets that encode no text have none. -/
def decodeText (data : Option Octets) : Option String := data.bind Octets.decode?

/-- The key that a reader makes of octets. -/
def decodeKey (E : Environment R) (serial : Nat) (data : Option Octets) :
    Action R (Option Value) := do
  match (← get).reader? serial with
  | none => pure none
  | some reader =>
    match reader.keyDecoding with
    | .raw => pure (data.map .octets)
    | .text => pure ((decodeText data).map .text)
    | .custom decoder =>
      Action.record (.decodeKey reader.name data)
      E.decodeKey decoder data

/-- The value that a reader makes of octets under a key. -/
def decodeValue (E : Environment R) (serial : Nat) (key : Value) (data : Octets) :
    Action R (Option Value) := do
  match (← get).reader? serial with
  | none => pure none
  | some reader =>
    match reader.valueDecoding with
    | .raw => pure (some (.octets data))
    | .text => pure ((decodeText (some data)).map .text)
    | .custom decoder =>
      Action.record (.decodeValue reader.name key data)
      E.decodeValue decoder key data

/-! ## §3. Reporting. -/

/-- Gives an event to whoever a reader reports to. -/
def emit (E : Environment R) (serial : Nat) (e : Event) : Action R Unit := do
  match (← get).reader? serial with
  | none => pure ()
  | some reader =>
    match reader.onEvent with
    | .ignore => pure ()
    | .print => Action.record (.printed e.line)
    | .custom handler =>
      Action.record (.event reader.name e)
      E.onEvent handler e

/-- The line that reports a transport error. -/
def errorLine (m : Message) (code : ErrorCode) : String :=
  "ERROR  " ++ m.partition.label ++ " " ++ code.text

/-- The component that readers make log entries as. -/
def readerLogger : String := "processor"

/-- Gives a message that reports an error to whoever a reader reports to; if
    that is nobody, the error is only logged. -/
def report (E : Environment R) (serial : Nat) (m : Message) (code : ErrorCode) :
    Action R Unit := do
  match (← get).reader? serial with
  | none => pure ()
  | some reader =>
    match reader.onError with
    | .ignore =>
      Action.log (.plain .debug readerLogger ("Dropping consumer error: " ++ code.text) none)
    | .print => Action.record (.complained (errorLine m code))
    | .custom handler =>
      Action.record (.error reader.name m.partition code)
      E.onError handler m code

end Session

end ChangeFeed
