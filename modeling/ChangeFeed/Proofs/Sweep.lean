/-
  ChangeFeed.Proofs.Sweep — a reader gives up partitions and reports each.

  Whatever the handler makes of the clear events, the sweep comes to a closed
  form over what belongs to the users: which partitions were given up, which
  events were refused, and what put an end to it early.  Refusals never do;
  an interrupt and a request to exit do.  From it follows what an open reader
  does with an assignment.

  Main results:
    * `sweep_run_from` — the sweep in closed form.
    * `takeOver_announced` — what a reader does with an assignment, up to the
      sweep.
    * `takeOver_run` — the same in closed form.
    * `Conduct.sweep_of_ordinary` — ordinary failures do not end a sweep.
-/

import ChangeFeed.Proofs.Conduct
import ChangeFeed.Proofs.Restriction

namespace ChangeFeed

variable {R : Roles}

/-! ## §1. One reader in place of another. -/

namespace Session

/-- The session with another reader under a serial. -/
def putReader (s : Session R) (serial : Nat) (r : Reader R) : Session R :=
  { s with readers := s.readers.set serial r }

theorem modifyReader_eq_putReader {s : Session R} {serial : Nat} {r : Reader R}
    (hr : s.reader? serial = some r) (change : Reader R → Reader R) :
    s.modifyReader serial change = s.putReader serial (change r) := by
  -- modifying and setting agree at the serial because there is a reader
  have hreaders : s.readers.modify serial change = s.readers.set serial (change r) := by
    refine List.ext_getElem? fun i => ?_
    rw [List.getElem?_modify, List.getElem?_set]
    by_cases hi : serial = i
    · subst hi
      obtain ⟨hlt, hget⟩ := List.getElem?_eq_some_iff.1 hr
      simp [hlt, hget]
    · simp [hi]
  simp only [modifyReader, putReader, hreaders]

theorem reader?_putReader_self {s : Session R} {serial : Nat} {r : Reader R}
    (hr : s.reader? serial = some r) (r' : Reader R) :
    (s.putReader serial r').reader? serial = some r' := by
  obtain ⟨hlt, -⟩ := List.getElem?_eq_some_iff.1 hr
  show (s.readers.set serial r')[serial]? = _
  rw [List.getElem?_set_self hlt]

theorem reader?_putReader_of_ne {serial other : Nat} (h : serial ≠ other) (s : Session R)
    (r : Reader R) : (s.putReader serial r).reader? other = s.reader? other := by
  show (s.readers.set serial r)[other]? = _
  rw [List.getElem?_set_ne h]
  rfl

@[simp] theorem putReader_putReader (s : Session R) (serial : Nat) (r r' : Reader R) :
    (s.putReader serial r).putReader serial r' = s.putReader serial r' := by
  simp [putReader]

theorem putReader_self {s : Session R} {serial : Nat} {r : Reader R}
    (hr : s.reader? serial = some r) : s.putReader serial r = s := by
  obtain ⟨hlt, rfl⟩ := List.getElem?_eq_some_iff.1 hr
  simp [putReader]

@[simp] theorem withoutLog_putReader (s : Session R) (serial : Nat) (r : Reader R) :
    (s.putReader serial r).withoutLog = s.withoutLog.putReader serial r := rfl

theorem putReader_advance (s : Session R) (done : List Occurrence) (o : Own R) (serial : Nat)
    (r : Reader R) :
    (s.advance done o).putReader serial r = (s.putReader serial r).advance done o := rfl

theorem tracker_of_reader? {s : Session R} {serial : Nat} {r : Reader R}
    (hr : s.reader? serial = some r) : s.tracker serial = r.tracker := by
  simp [tracker, hr]

end Session

/-! ## §2. A sweep, as far as the users are concerned. -/

namespace Reader

/-- The reader when it has given up some partitions. -/
def rid (r : Reader R) (gone : List Partition) : Reader R :=
  { r with tracker := r.tracker.without gone }

/-- Telling the handler of a clear event for each of some partitions. -/
def clears (r : Reader R) (ps : List Partition) : List Occurrence :=
  ps.flatMap fun p => r.eventCalls (.clear p)

@[simp] theorem clears_rid (r : Reader R) (gone ps : List Partition) :
    (r.rid gone).clears ps = r.clears ps := rfl

theorem rid_rid (r : Reader R) (p : Partition) (gone : List Partition) :
    (r.rid [p]).rid gone = r.rid (p :: gone) := by
  simp [rid, Tracker.without_cons]

/-- No partition is listed twice, so the others are still tracked when the
    first one is given up. -/
theorem contains_rid {r : Reader R} {p : Partition} {rest : List Partition} (hp : p ∉ rest)
    (htracked : ∀ q ∈ p :: rest, r.tracker.contains q = true) :
    ∀ q ∈ rest, (r.rid [p]).tracker.contains q = true := by
  intro q hq
  have hne : q ∉ [p] := by simpa using fun h : q = p => hp (h ▸ hq)
  exact (Tracker.contains_without _ _ _).2 ⟨htracked q (List.mem_cons_of_mem _ hq), hne⟩

end Reader

/-- What a sweep comes to. -/
structure Swept (R : Roles) where
  /-- The partitions that were given up, in order. -/
  visited : List Partition
  /-- The clear events that were refused, in order. -/
  refusals : List Refusal
  /-- What put an end to the sweep, if anything did. -/
  stopped : Option Raised
  own : Own R

/-- The outcome of the action. -/
def Swept.outcome (w : Swept R) : Except Raised (List Refusal) :=
  match w.stopped with
  | none => .ok w.refusals
  | some e => .error e

/-- Reports partitions one after the other to a handler. -/
def Conduct.sweep (C : Conduct R) (h : Handling R.EventHandler) : List Partition → Own R → Swept R
  | [], o => ⟨[], [], none, o⟩
  | p :: rest, o =>
    let (result, o') := C.event h (.clear p) o
    let w := C.sweep h rest o'
    match result with
    | .ok () => { w with visited := p :: w.visited }
    | .error e =>
      if e.isOrdinary then
        { w with visited := p :: w.visited, refusals := ⟨p, e⟩ :: w.refusals }
      else ⟨[p], [], some e, o'⟩

section

variable {C : Conduct R} {h : Handling R.EventHandler} {p : Partition} {o o' : Own R}
  {e : Raised}

theorem Conduct.sweep_cons_ok (he : C.event h (.clear p) o = (.ok (), o'))
    (rest : List Partition) :
    C.sweep h (p :: rest) o =
      { C.sweep h rest o' with visited := p :: (C.sweep h rest o').visited } := by
  simp [Conduct.sweep, he]

theorem Conduct.sweep_cons_refused (he : C.event h (.clear p) o = (.error e, o'))
    (hord : e.isOrdinary = true) (rest : List Partition) :
    C.sweep h (p :: rest) o =
      { C.sweep h rest o' with
        visited := p :: (C.sweep h rest o').visited
        refusals := ⟨p, e⟩ :: (C.sweep h rest o').refusals } := by
  simp [Conduct.sweep, he, hord]

theorem Conduct.sweep_cons_stopped (he : C.event h (.clear p) o = (.error e, o'))
    (hord : e.isOrdinary = false) (rest : List Partition) :
    C.sweep h (p :: rest) o = ⟨[p], [], some e, o'⟩ := by
  simp [Conduct.sweep, he, hord]

end

/-- Ordinary failures do not end a sweep. -/
theorem Conduct.sweep_of_ordinary {C : Conduct R} {h : Handling R.EventHandler}
    (hh : C.OrdinaryAt h) (ps : List Partition) (o : Own R) :
    (C.sweep h ps o).visited = ps ∧ (C.sweep h ps o).stopped = none := by
  induction ps generalizing o with
  | nil => exact ⟨rfl, rfl⟩
  | cons p rest ih =>
    rcases he : C.event h (.clear p) o with ⟨result, o'⟩
    obtain ⟨hv, hs⟩ := ih o'
    cases result with
    | ok u => exact ⟨by rw [sweep_cons_ok he, hv], by rw [sweep_cons_ok he, hs]⟩
    | error e =>
      have hord : e.isOrdinary = true := hh (.clear p) o e (by rw [he])
      exact ⟨by rw [sweep_cons_refused he hord, hv], by rw [sweep_cons_refused he hord, hs]⟩

/-- Only partitions that were given up were refused. -/
theorem Conduct.refusals_sublist (C : Conduct R) (h : Handling R.EventHandler)
    (ps : List Partition) (o : Own R) :
    ((C.sweep h ps o).refusals.map Refusal.partition).Sublist ps := by
  induction ps generalizing o with
  | nil => exact List.Sublist.refl []
  | cons p rest ih =>
    rcases he : C.event h (.clear p) o with ⟨result, o'⟩
    cases result with
    | ok u =>
      rw [sweep_cons_ok he]
      exact (ih o').cons p
    | error e =>
      cases hord : e.isOrdinary with
      | true =>
        rw [sweep_cons_refused he hord]
        exact (ih o').cons_cons p
      | false =>
        rw [sweep_cons_stopped he hord]
        exact List.nil_sublist _

namespace Session

variable (C : Conduct R) {serial : Nat}

/-! ## §3. The sweep. -/

theorem giveUp_run {s : Session R} {r : Reader R} (hr : s.reader? serial = some r)
    {p : Partition} (hp : r.tracker.contains p = true) :
    (giveUp serial p).run s = (.ok (), s.putReader serial (r.rid [p])) := by
  have hremove : r.tracker.remove p = .ok (r.tracker.without [p]) := by
    rw [Tracker.without_cons, Tracker.without_nil]
    simp [Tracker.remove, hp]
  simp only [giveUp, Action.run_get_bind, tracker_of_reader? hr, hremove]
  show (_, s.modifyReader serial _) = _
  rw [modifyReader_eq_putReader hr]
  rfl

/-- A partition is given up and reported: the session afterwards, and the
    outcome with which the sweep goes on. -/
theorem giveUp_emit_run {α : Type} {s : Session R} {r : Reader R}
    (hr : s.reader? serial = some r) {p : Partition} (hp : r.tracker.contains p = true)
    (next : Except Raised Unit → Action R α) :
    (do giveUp serial p; next (← Action.attempt (emit C.environment serial (.clear p)))).run s =
      (next (C.event r.onEvent (.clear p) s.own).1).run
        ((s.putReader serial (r.rid [p])).advance (r.eventCalls (.clear p))
          (C.event r.onEvent (.clear p) s.own).2) := by
  rw [Action.run_bind_ok (giveUp_run hr hp), Action.run_attempt_bind,
    emit_run C (reader?_putReader_self hr _)]
  rfl

/-- The sweep, from a session that is like `b` with the reader `r` and `done`
    behind it.  The induction is on the partitions still to be given up. -/
theorem sweep_run_from {b : Session R} {r₀ : Reader R} (hb : b.reader? serial = some r₀)
    (ps : List Partition) {s : Session R} {r : Reader R} {done : List Occurrence} {o : Own R}
    (hs : s.withoutLog = (b.putReader serial r).advance done o) (hnodup : ps.Nodup)
    (htracked : ∀ p ∈ ps, r.tracker.contains p = true) :
    ((sweep C.environment serial ps).run s).1 = (C.sweep r.onEvent ps o).outcome ∧
      ((sweep C.environment serial ps).run s).2.withoutLog =
        (b.putReader serial (r.rid (C.sweep r.onEvent ps o).visited)).advance
          (done ++ r.clears (C.sweep r.onEvent ps o).visited) (C.sweep r.onEvent ps o).own := by
  induction ps generalizing s r done o with
  | nil =>
    refine ⟨rfl, ?_⟩
    show s.withoutLog = _
    rw [hs]
    simp [Conduct.sweep, Reader.rid, Reader.clears]
  | cons p rest ih =>
    obtain ⟨hp, hrest⟩ := List.nodup_cons.1 hnodup
    have hr : s.reader? serial = some r := by
      rw [reader?_of_withoutLog hs]
      exact reader?_putReader_self hb r
    have ho : s.own = o := own_of_withoutLog hs
    have htracked' := Reader.contains_rid hp htracked
    simp only [sweep]
    rw [giveUp_emit_run C hr (htracked p List.mem_cons_self), ho]
    rcases he : C.event r.onEvent (.clear p) o with ⟨result, o'⟩
    -- the session in which the rest of the sweep starts
    have hs' : ((s.putReader serial (r.rid [p])).advance (r.eventCalls (.clear p)) o').withoutLog =
        (b.putReader serial (r.rid [p])).advance (done ++ r.eventCalls (.clear p)) o' := by
      rw [withoutLog_advance_of _ _ (r.isLog_eventCalls _), withoutLog_putReader, hs,
        putReader_advance, putReader_putReader, advance_advance]
    -- what the induction hypothesis says of any session like that one
    have hrest_run : ∀ s₁ : Session R, s₁.withoutLog =
        (b.putReader serial (r.rid [p])).advance (done ++ r.eventCalls (.clear p)) o' →
        ((sweep C.environment serial rest).run s₁).1 = (C.sweep r.onEvent rest o').outcome ∧
          ((sweep C.environment serial rest).run s₁).2.withoutLog =
            (b.putReader serial (r.rid (p :: (C.sweep r.onEvent rest o').visited))).advance
              (done ++ r.clears (p :: (C.sweep r.onEvent rest o').visited))
              (C.sweep r.onEvent rest o').own := by
      intro s₁ h₁
      obtain ⟨hresult, hstate⟩ := ih h₁ hrest htracked'
      rw [Reader.rid_rid, Reader.clears_rid, List.append_assoc] at hstate
      exact ⟨hresult, hstate⟩
    cases result with
    | ok u =>
      rw [Conduct.sweep_cons_ok he]
      exact hrest_run _ hs'
    | error e =>
      cases hord : e.isOrdinary with
      | false =>
        -- the partition is given up all the same, but it is the last one
        rw [Conduct.sweep_cons_stopped he hord]
        simp only [hord, Bool.false_eq_true, if_false, Action.run_throw]
        exact ⟨rfl, by simpa [Reader.clears] using hs'⟩
      | true =>
        -- the refusal is logged before the sweep goes on
        obtain ⟨hresult, hstate⟩ := hrest_run _ ((withoutLog_enterLog _ (.tagged .warning
          readerLogger p.label "Event handler failed on ClearElements" (some e))).trans hs')
        rw [Conduct.sweep_cons_refused he hord]
        simp only [hord, if_true, Action.run_bind, Action.run_log]
        revert hresult hstate
        generalize (sweep C.environment serial rest).run _ = ran
        obtain ⟨outcome, s₁⟩ := ran
        rintro rfl hstate
        cases hstopped : (C.sweep r.onEvent rest o').stopped with
        | none => simpa [Swept.outcome, hstopped, Action.run_pure] using hstate
        | some f => simpa [Swept.outcome, hstopped] using hstate

end Session

/-! ## §4. Taking an assignment over. -/

namespace Reader

/-- The partitions that a reader gives up at an assignment. -/
def dropped (r : Reader R) (a : Assignment) : List Partition :=
  r.tracker.untrackedBy (Assignment.partitions a)

/-- The reader when it tracks only some partitions any more. -/
def restrict (r : Reader R) (kept : List Partition) : Reader R :=
  { r with tracker := r.tracker.restrict kept }

theorem rid_dropped (r : Reader R) (a : Assignment) :
    r.rid (r.dropped a) = r.restrict (Assignment.partitions a) := by
  simp only [rid, dropped, restrict, Tracker.without_untrackedBy]

theorem untrackedBy_assignedPartitions (r : Reader R) (a : Assignment) :
    r.tracker.untrackedBy (assignedPartitions a) = r.dropped a :=
  r.tracker.untrackedBy_congr (mem_assignedPartitions a)

theorem dropped_nodup (r : Reader R) (a : Assignment) : (r.dropped a).Nodup :=
  r.tracker.untrackedBy_nodup _

theorem contains_of_mem_dropped {r : Reader R} {a : Assignment} {p : Partition}
    (h : p ∈ r.dropped a) : r.tracker.contains p = true :=
  ((r.tracker.mem_untrackedBy _ p).1 h).1

end Reader

/-- What the sweep comes to when a reader takes an assignment over. -/
def Conduct.sweepAt (C : Conduct R) (r : Reader R) (a : Assignment) (o : Own R) : Swept R :=
  C.sweep r.onEvent (r.dropped a) o

/-- The failure that a reader adds to that from below. -/
def Swept.failure (w : Swept R) (below : Option Raised) : Option Raised :=
  match w.stopped with
  | none => rebalanceFailure below w.refusals
  | some e => some e

namespace Session

/-- The session in which a reader starts to give partitions up: it has been
    logged which entries are moved, and how many partitions come and go. -/
def announced (s : Session R) (r : Reader R) (a : Assignment) : Session R :=
  (s.logAll (resumeLog r.tracker a)).enterLog
    (rebalanceLog (assignedPartitions a).length (r.dropped a).length)

@[simp] theorem withoutLog_announced (s : Session R) (r : Reader R) (a : Assignment) :
    (s.announced r a).withoutLog = s.withoutLog := by
  rw [announced, withoutLog_enterLog, withoutLog_logAll]

/-- A reader that takes an assignment over announces what it will do and gives
    up what it tracks no more.  What becomes of the entries is settled before
    that. -/
theorem takeOver_announced (E : Environment R) {serial : Nat} {s : Session R} {r : Reader R}
    (hr : s.reader? serial = some r) (below : Notified) :
    (takeOver E serial below).run s =
      (⟨r.tracker.resume below.assignment,
        match ((sweep E serial (r.dropped below.assignment)).run
            (s.announced r below.assignment)).1 with
        | .ok refusals => rebalanceFailure below.failure refusals
        | .error e => some e⟩,
        ((sweep E serial (r.dropped below.assignment)).run
          (s.announced r below.assignment)).2) := by
  simp only [takeOver, run_bind_state, run_get_state, run_forIn_log, run_log_state,
    tracker_of_reader? hr, Reader.untrackedBy_assignedPartitions]
  show (StateT.run (match ((sweep E serial _).run (s.announced r below.assignment)).1 with
    | .ok refusals => _
    | .error e => _) ((sweep E serial _).run (s.announced r below.assignment)).2) = _
  cases ((sweep E serial (r.dropped below.assignment)).run
    (s.announced r below.assignment)).1 <;> rfl

variable (C : Conduct R) {serial : Nat}

/-- **What an open reader does with an assignment, in closed form.** -/
theorem takeOver_run {s : Session R} {r : Reader R} (hr : s.reader? serial = some r)
    (below : Notified) :
    ((takeOver C.environment serial below).run s).1 =
        ⟨r.tracker.resume below.assignment,
          (C.sweepAt r below.assignment s.own).failure below.failure⟩ ∧
      ((takeOver C.environment serial below).run s).2.withoutLog =
        (s.withoutLog.putReader serial
          (r.rid (C.sweepAt r below.assignment s.own).visited)).advance
            (r.clears (C.sweepAt r below.assignment s.own).visited)
            (C.sweepAt r below.assignment s.own).own := by
  -- the session in which the sweep starts: only log entries have been made
  have hlike : (s.announced r below.assignment).withoutLog =
      (s.withoutLog.putReader serial r).advance [] s.own := by
    rw [withoutLog_announced, putReader_self (s := s.withoutLog) hr]
    exact (advance_nil s.withoutLog).symm
  obtain ⟨hresult, hstate⟩ := sweep_run_from C (b := s.withoutLog) hr
    (r.dropped below.assignment) hlike (r.dropped_nodup _)
    fun _ => Reader.contains_of_mem_dropped
  rw [takeOver_announced C.environment hr, hresult]
  refine ⟨?_, ?_⟩
  -- what was stopped is raised as it is; refusals become one failure
  · unfold Swept.outcome Swept.failure Conduct.sweepAt
    cases (C.sweep r.onEvent (r.dropped below.assignment) s.own).stopped <;> rfl
  · simpa [Conduct.sweepAt] using hstate

end Session

end ChangeFeed
