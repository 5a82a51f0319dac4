/-
  ChangeFeed.Session.Poll — one poll of the source.

  A `Turn` is what the transport does at a poll.  A direct source knows
  assignments, failures and messages.  A consumer moreover reports revoked
  and lost partitions, and errors of its own; it reports partitions only once
  it is subscribed, and after its source's listener has been told of an
  assignment it is given what the listener left of it, come what may.

  Main results:
    * `Turn.interrupt` — the turn of a transport that has nothing more to
      deliver.
-/

import ChangeFeed.Session.Rebalance

namespace ChangeFeed

/-- What the transport does at one poll, in this order. -/
structure Turn where
  /-- A new assignment. -/
  assign : Option Assignment
  /-- Partitions taken away. -/
  revoke : Option Assignment
  /-- Partitions taken away without notice. -/
  lost : Option Assignment
  /-- An error of the consumer itself. -/
  consumerError : Option ErrorCode
  /-- The failure that the poll ends with. -/
  failure : Option Raised
  /-- The message that the poll delivers. -/
  message : Option Message

/-- Nothing happens. -/
def Turn.idle : Turn := ⟨none, none, none, none, none, none⟩

/-- The poll is interrupted. -/
def Turn.interrupt : Turn := { Turn.idle with failure := some (.of (.interrupted "")) }

namespace Session

variable {R : Roles}

/-! ## §1. What a consumer reports. -/

/-- The component that sources make log entries as. -/
def sourceLogger : String := "log-source"

/-- The component that clients make log entries as. -/
def clientLogger : String := "main"

/-- Fails if there is a failure. -/
def raiseAny : Option Raised → Action R Unit
  | none => pure ()
  | some e => throw e

/-- Is there a consumer that knows its topics? -/
def isSubscribed (s : Session R) : Bool :=
  match s.feed with
  | .direct => false
  | .consumer c => c.subscribed

/-- Does the consumer report its errors? -/
def reportsErrors (s : Session R) : Bool :=
  match s.feed with
  | .direct => false
  | .consumer c => c.reportsErrors

/-- A new assignment reaches a direct source. -/
def assignDirect (E : Environment R) (a : Assignment) : Action R Unit := do
  let left ← notify E (← get).installed a
  Action.record (.assigned left.assignment)
  raiseAny left.failure

/-- A new assignment is reported by a consumer. -/
def assignConsumer (E : Environment R) (a : Assignment) : Action R Unit := do
  Action.log (.plain .info sourceLogger
    ("Assigned " ++ toString a.length ++ " partition(s)") none)
  let left ← notify E (← get).installed a
  Action.record (.assign left.assignment)
  E.onAssign left.assignment
  raiseAny left.failure

/-- Partitions are taken away. -/
def revoke (a : Assignment) : Action R Unit :=
  Action.log (.plain .debug sourceLogger
    ("Revoked " ++ toString a.length ++ " partition(s)") none)

/-- Partitions are taken away without notice. -/
def lose (a : Assignment) : Action R Unit :=
  Action.log (.plain .warning sourceLogger
    ("Lost " ++ toString a.length ++ " partition(s)") none)

/-- The consumer reports an error of its own. -/
def consumerFailed (code : ErrorCode) : Action R Unit :=
  Action.log (.plain .warning clientLogger ("Kafka error: " ++ code.text) none)

/-- Does `act` with a value if there is one and `condition` holds. -/
def onReport {α : Type} (report : Option α) (condition : Session R → Bool)
    (act : α → Action R Unit) : Action R Unit := do
  match report with
  | none => pure ()
  | some a => if condition (← get) then act a else pure ()

/-! ## §2. Polls. -/

/-- Polls a direct source. -/
def pollDirect (E : Environment R) (timeout : Option Timeout) (turn : Turn) :
    Action R (Option Message) := do
  Action.record (.polled timeout)
  onReport turn.assign (fun _ => true) (assignDirect E)
  raiseAny turn.failure
  pure turn.message

/-- Polls a consumer; one that may wait without bound is told so by a
    negative time. -/
def pollConsumer (E : Environment R) (timeout : Option Timeout) (turn : Turn) :
    Action R (Option Message) := do
  Action.record (.polled (some (timeout.getD (.whole (-1)))))
  onReport turn.assign isSubscribed (assignConsumer E)
  onReport turn.revoke isSubscribed revoke
  onReport turn.lost isSubscribed lose
  onReport turn.consumerError reportsErrors consumerFailed
  raiseAny turn.failure
  pure turn.message

/-- Polls the source. -/
def poll (E : Environment R) (timeout : Option Timeout) (turn : Turn) :
    Action R (Option Message) := do
  match (← get).feed with
  | .direct => pollDirect E timeout turn
  | .consumer _ => pollConsumer E timeout turn

end Session

end ChangeFeed
