/-
  ChangeFeed.Session.Rebalance — what readers do when partitions are assigned
  anew.

  A reader first passes the assignment on to the listener below it.  In what
  that one leaves, every entry of a partition that the reader tracks is moved
  to right after the last offset read.  Partitions that are tracked but not
  assigned any more are given up in their order: tracking stops, then a clear
  event is reported.  A handler that refuses such an event does not keep the
  others from being reported; in the end one failure names every partition
  whose event was refused.

  Main results:
    * `resume_partitions` — resuming neither adds nor drops entries.
    * `rebalanceFailure_eq_none` — nothing fails exactly if nothing failed
      below and every clear event was accepted.
-/

import ChangeFeed.Session.Environment

namespace ChangeFeed

/-! ## §1. Resuming. -/

/-- The entry, moved to where the tracker resumes its partition. -/
def Tracker.resumeEntry (t : Tracker) (e : ChangeFeed.Entry) : ChangeFeed.Entry :=
  { e with offset := (t.resumeOffset? e.partition).or e.offset }

/-- The assignment with every tracked partition where it resumes. -/
def Tracker.resume (t : Tracker) (a : Assignment) : Assignment := a.map t.resumeEntry

/-- The partitions of an assignment, each once. -/
def assignedPartitions (a : Assignment) : List Partition :=
  (a.map ChangeFeed.Entry.partition).eraseDups

theorem Tracker.resume_partitions (t : Tracker) (a : Assignment) :
    (t.resume a).map ChangeFeed.Entry.partition = a.map ChangeFeed.Entry.partition := by
  simp [Tracker.resume, Tracker.resumeEntry]

/-! ## §2. Failures of a rebalance. -/

/-- A clear event that was refused, and why. -/
structure Refusal where
  partition : Partition
  failure : Raised

/-- The failure that stands for several refusals.  It is the first one's, but
    a failure that counts as false makes room for the next. -/
def leadingFailure (first : Refusal) (rest : List Refusal) : Raised :=
  rest.foldl (fun leading r => leading.orElse r.failure) first.failure

/-- The failure of a rebalance, from that of the listener below and the clear
    events that were refused.  Partitions whose events were refused below
    come first.  It is raised from the failure below, unless there is none or
    it counts as false: then a refusal takes its place. -/
def rebalanceFailure (below : Option Raised) : List Refusal → Option Raised
  | [] => below
  | first :: rest =>
    let own := first.partition :: rest.map Refusal.partition
    let leading := leadingFailure first rest
    match below with
    | none => some (.mk (.clearsUndelivered own) (some leading))
    | some (.mk (.clearsUndelivered ps) cause) =>
      some (.mk (.clearsUndelivered (ps ++ own)) (some (.mk (.clearsUndelivered ps) cause)))
    | some failure => some (.mk (.clearsUndelivered own) (some (failure.orElse leading)))

theorem rebalanceFailure_eq_none (below : Option Raised) (refusals : List Refusal) :
    rebalanceFailure below refusals = none ↔ below = none ∧ refusals = [] := by
  cases refusals with
  | nil => simp [rebalanceFailure]
  | cons first rest =>
    simp only [rebalanceFailure]
    split <;> simp

namespace Session

variable {R : Roles}

/-! ## §3. One reader. -/

/-- What a reader tracks. -/
def tracker (s : Session R) (serial : Nat) : Tracker :=
  ((s.reader? serial).map Reader.tracker).getD .empty

/-- The log entries for the entries that a tracker moves. -/
def resumeLog (t : Tracker) (a : Assignment) : List Log.Entry :=
  a.filterMap fun e => (t.resumeOffset? e.partition).map fun o =>
    .tagged .debug readerLogger e.partition.label ("Resuming at o=" ++ toString o) none

/-- The log entry that counts what a rebalance brings and takes away. -/
def rebalanceLog (assigned revoked : Nat) : Log.Entry :=
  .plain .info readerLogger ("Rebalance: " ++ toString assigned ++ " partition(s) assigned, " ++
    toString revoked ++ " tracked partition(s) revoked") none

/-- Stops tracking a partition. -/
def giveUp (serial : Nat) (p : Partition) : Action R Unit := do
  match ((← get).tracker serial).remove p with
  | .ok t => Action.change serial ({ · with tracker := t })
  | .error f => Action.fail f

/-- Gives partitions up one after the other and reports each; collects what
    was refused. -/
def sweep (E : Environment R) (serial : Nat) : List Partition → Action R (List Refusal)
  | [] => pure []
  | p :: rest => do
    giveUp serial p
    match ← Action.attempt (emit E serial (.clear p)) with
    | .ok () => sweep E serial rest
    | .error e =>
      if e.isOrdinary then do
        Action.log (.tagged .warning readerLogger p.label
          "Event handler failed on ClearElements" (some e))
        let refusals ← sweep E serial rest
        pure (⟨p, e⟩ :: refusals)
      else throw e

/-- What an open reader does with the assignment that the listener below it
    left. -/
def takeOver (E : Environment R) (serial : Nat) (below : Notified) :
    StateM (Session R) Notified := do
  let t := (← get).tracker serial
  let assigned := assignedPartitions below.assignment
  let revoked := t.untrackedBy assigned
  for entry in resumeLog t below.assignment do Action.log entry
  Action.log (rebalanceLog assigned.length revoked.length)
  match ← (sweep E serial revoked).run with
  | .ok refusals =>
    pure ⟨t.resume below.assignment, rebalanceFailure below.failure refusals⟩
  | .error e => pure ⟨t.resume below.assignment, some e⟩

/-! ## §4. The chain. -/

/-- Tells a listener of an assignment. -/
def notify (E : Environment R) : Listener → Assignment → StateM (Session R) Notified
  | .nobody, a => pure ⟨a, none⟩
  | .foreign name, a => do
    Action.record (.notify name a)
    E.onAssignment name a
  | .reader serial below, a => do
    let left ← notify E below a
    match left.failure with
    | none =>
      if (← get).isClosed serial then pure left else takeOver E serial left
    | some e =>
      if e.isOrdinary then do
        Action.log (.plain .warning readerLogger "Chained assignment listener failed" (some e))
        if (← get).isClosed serial then pure left else takeOver E serial left
      else pure left

end Session

end ChangeFeed
