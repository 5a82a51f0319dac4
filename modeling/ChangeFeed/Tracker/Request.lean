/-
  ChangeFeed.Tracker.Request — the questions and changes that a tracker is
  asked for, and its answers.

  Only a removal can fail; a request that fails changes nothing.

  Main results:
    * `perform_error` — a request that fails leaves the tracker as it was.
-/

import ChangeFeed.Tracker

namespace ChangeFeed.Tracker

/-- One request. -/
inductive Request where
  | update (p : Partition) (o : Option Offset)
  | get (p : Partition)
  | resumeOffset (p : Partition)
  | remove (p : Partition)
  | contains (p : Partition)
  | untrackedBy (assigned : List Partition)
  | partitions
  | size
  | entries
  | text
deriving DecidableEq, Repr

/-- One answer. -/
inductive Answer where
  | done
  | offset (o : Option Offset)
  | flag (b : Bool)
  | partitions (ps : List Partition)
  | count (n : Nat)
  | entries (es : List Entry)
  | text (s : String)
deriving DecidableEq, Repr

/-- Answers a request. -/
def perform (t : Tracker) : Request → Except Failure Answer × Tracker
  | .update p o => (.ok .done, t.update p o)
  | .get p => (.ok (.offset (t.get? p)), t)
  | .resumeOffset p => (.ok (.offset (t.resumeOffset? p)), t)
  | .remove p =>
    match t.remove p with
    | .ok t' => (.ok .done, t')
    | .error f => (.error f, t)
  | .contains p => (.ok (.flag (t.contains p)), t)
  | .untrackedBy assigned => (.ok (.partitions (t.untrackedBy assigned)), t)
  | .partitions => (.ok (.partitions t.partitions), t)
  | .size => (.ok (.count t.size), t)
  | .entries => (.ok (.entries t.entries), t)
  | .text => (.ok (.text t.described), t)

/-- A request that fails changes nothing. -/
theorem perform_error {t t' : Tracker} {r : Request} {f : Failure}
    (h : t.perform r = (.error f, t')) : t' = t := by
  cases r <;> simp only [perform, Prod.mk.injEq, reduceCtorEq, false_and] at h
  split at h <;> simp_all

end ChangeFeed.Tracker
