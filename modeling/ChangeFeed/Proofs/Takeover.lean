/-
  ChangeFeed.Proofs.Takeover — the whole effect of a rebalance on one reader.

  The listener below a reader may be anything, and so may be what it leaves
  of an assignment.  The reader's handler may look at the whole session; told
  of a clear event it returns or fails, each time as it likes.  `Sweeps` is
  one sweep, visit by visit, with the session in which the handler was told
  of each partition.  What is true of every such sweep is proved by induction
  on it, and makes up what a reader does when it is told of an assignment.

  Main results:
    * `Sweeps.told` — what has been done when the handler is told.
    * `Sweeps.becomes` — what a sweep leaves behind, however it ends.
    * `Sweeps.completed`, `Sweeps.interrupted` — the two ways to end.
    * `takes_over_assignment` — what a reader does with an assignment.
-/

import ChangeFeed.Proofs.Discretion
import ChangeFeed.Proofs.Dispatch
import Mathlib.Data.List.Forall2

namespace ChangeFeed

variable {R : Roles}

/-! ## §1. A sweep, visit by visit. -/

/-- A partition that a sweep gave up. -/
structure Visit (R : Roles) where
  partition : Partition
  /-- The session in which the handler was told of it. -/
  session : Session R
  /-- What came of that. -/
  result : Except Raised Unit

namespace Visit

/-- A failure, if there was one, was of the ordinary kind. -/
def Ordinary (v : Visit R) : Prop := ∀ e, v.result = .error e → e.isOrdinary = true

/-- The failure, as the sweep collects it. -/
def refusal? (v : Visit R) : Option Refusal :=
  match v.result with
  | .ok () => none
  | .error e => some ⟨v.partition, e⟩

theorem refusal?_eq_none (v : Visit R) : v.refusal? = none ↔ v.result = .ok () := by
  cases h : v.result <;> simp [refusal?, h]

end Visit

namespace Session

/-- The session in which the handler of a reader is told that a partition was
    given up. -/
def gaveUp (s : Session R) (serial : Nat) (p : Partition) : Session R :=
  s.modifyReader serial fun r => r.rid [p]

/-- The session that a sweep goes on in when the handler was told: a refusal is
    logged. -/
def noted (s : Session R) (p : Partition) : Except Raised Unit → Session R
  | .ok () => s
  | .error e =>
    s.enterLog (.tagged .warning readerLogger p.label "Event handler failed on ClearElements"
      (some e))

@[simp] theorem withoutLog_noted (s : Session R) (p : Partition) (result : Except Raised Unit) :
    (s.noted p result).withoutLog = s.withoutLog := by
  cases result with
  | ok u => rfl
  | error e => exact withoutLog_enterLog s _

/-- The visit that a sweep makes when it gives up a partition. -/
def visit (s : Session R) (serial : Nat) (p : Partition) (result : Except Raised Unit) : Visit R :=
  ⟨p, s.gaveUp serial p, result⟩

/-- A sweep over partitions from one session to another, with the visits that
    it makes and the outcome that it has. -/
inductive Sweeps (E : Environment R) (serial : Nat) :
    List Partition → Session R → List (Visit R) → Except Raised (List Refusal) → Session R → Prop
  | nil (s : Session R) : Sweeps E serial [] s [] (.ok []) s
  /-- The handler returns or fails in the ordinary way, and the sweep goes on. -/
  | visit {p : Partition} {rest : List Partition} {s s' t : Session R}
      {result : Except Raised Unit} {vs : List (Visit R)}
      {outcome : Except Raised (List Refusal)}
      (htold : (emit E serial (.clear p)).run (s.gaveUp serial p) = (result, s'))
      (hord : (s.visit serial p result).Ordinary)
      (hrest : Sweeps E serial rest (s'.noted p result) vs outcome t) :
      Sweeps E serial (p :: rest) s (s.visit serial p result :: vs)
        (outcome.map ((s.visit serial p result).refusal?.toList ++ ·)) t
  /-- Any other failure ends the sweep. -/
  | stop {p : Partition} {rest : List Partition} {s t : Session R} {e : Raised}
      (htold : (emit E serial (.clear p)).run (s.gaveUp serial p) = (.error e, t))
      (hord : e.isOrdinary = false) :
      Sweeps E serial (p :: rest) s [s.visit serial p (.error e)] (.error e) t

namespace Sweeps

variable {E : Environment R} {serial : Nat} {ps : List Partition} {s t : Session R}
  {vs : List (Visit R)} {outcome : Except Raised (List Refusal)} {r : Reader R}

/-! ## §2. What is true of every sweep. -/

/-- The visits go through the partitions in their order. -/
theorem visits_prefix (h : Sweeps E serial ps s vs outcome t) :
    vs.map Visit.partition <+: ps := by
  induction h with
  | nil s => exact List.prefix_refl []
  | visit htold hord hrest ih => exact (List.prefix_cons_inj _).2 ih
  | stop htold hord => exact (List.prefix_cons_inj _).2 List.nil_prefix

/-- What came of a visit is what came of telling the handler. -/
theorem result_eq (h : Sweeps E serial ps s vs outcome t) :
    ∀ v ∈ vs, v.result = ((emit E serial (.clear v.partition)).run v.session).1 := by
  induction h with
  | nil s => simp
  | visit htold hord hrest ih => exact List.forall_mem_cons.2 ⟨(congrArg Prod.fst htold).symm, ih⟩
  | stop htold hord => exact List.forall_mem_cons.2 ⟨(congrArg Prod.fst htold).symm, by simp⟩

/-! The session from one visit to the next. -/

theorem becomes_gaveUp (hr : s.reader? serial = some r) (p : Partition) :
    s.Becomes serial (r.rid [p]) [] (s.gaveUp serial p) := by
  rw [gaveUp, modifyReader_eq_putReader hr]
  exact (Becomes.refl hr).putReader (r.rid [p])

theorem becomes_told (hr : s.reader? serial = some r) (htells : r.TellsDiscreetly E)
    {p : Partition} {told : Except Raised Unit × Session R}
    (htold : (emit E serial (.clear p)).run (s.gaveUp serial p) = told) :
    s.Becomes serial (r.rid [p]) (r.eventCalls (.clear p)) told.2 := by
  have hgone := becomes_gaveUp hr p
  have hemit : (s.gaveUp serial p).Becomes serial (r.rid [p]) (r.eventCalls (.clear p)) told.2 := by
    rw [← htold]
    exact becomes_emit (r := r.rid [p]) htells (hgone.reader? hr) (.clear p)
  exact hgone.trans hemit

theorem becomes_noted (hr : s.reader? serial = some r) (htells : r.TellsDiscreetly E)
    {p : Partition} {result : Except Raised Unit} {s' : Session R}
    (htold : (emit E serial (.clear p)).run (s.gaveUp serial p) = (result, s')) :
    s.Becomes serial (r.rid [p]) (r.eventCalls (.clear p)) (s'.noted p result) :=
  (becomes_told hr htells htold).of_withoutLog (withoutLog_noted s' p result)

/-- One visit, and what the others leave behind. -/
theorem becomes_cons {p : Partition} {gone told : List Partition} {s' u : Session R}
    (h : s.Becomes serial (r.rid [p]) (r.eventCalls (.clear p)) s')
    (h' : s'.Becomes serial ((r.rid [p]).rid gone) ((r.rid [p]).clears told) u) :
    s.Becomes serial (r.rid (p :: gone)) (r.clears (p :: told)) u := by
  rw [Reader.rid_rid, Reader.clears_rid] at h'
  exact h.trans h'

/-- **What a sweep leaves behind**, however it ends: every partition that was
    visited is given up, and was reported once. -/
theorem becomes (h : Sweeps E serial ps s vs outcome t) (hr : s.reader? serial = some r)
    (htells : r.TellsDiscreetly E) :
    s.Becomes serial (r.rid (vs.map Visit.partition)) (r.clears (vs.map Visit.partition)) t := by
  induction h generalizing r with
  | nil s => simpa [Reader.rid, Reader.clears] using Becomes.refl hr
  | visit htold hord hrest ih =>
    have hfirst := becomes_noted hr htells htold
    exact becomes_cons hfirst (ih (hfirst.reader? hr) htells)
  | @stop p _ _ _ _ htold hord =>
    simpa [Session.visit, Reader.clears] using becomes_told hr htells htold

/-- **What has been done when the handler is told**: the partition has been
    given up, like those before it, and those before it have been reported. -/
theorem told (h : Sweeps E serial ps s vs outcome t) (hr : s.reader? serial = some r)
    (htells : r.TellsDiscreetly E) {before after : List (Visit R)} {v : Visit R}
    (hvs : vs = before ++ v :: after) :
    s.Becomes serial (r.rid (before.map Visit.partition ++ [v.partition]))
      (r.clears (before.map Visit.partition)) v.session := by
  induction h generalizing r before with
  | nil s => simp at hvs
  | visit htold hord hrest ih =>
    obtain ⟨rfl, hcons⟩ | ⟨others, rfl, hothers⟩ := List.cons_eq_append_iff.1 hvs
    · obtain ⟨rfl, -⟩ := List.cons.inj hcons
      exact becomes_gaveUp hr _
    · have hfirst := becomes_noted hr htells htold
      exact becomes_cons hfirst (ih (hfirst.reader? hr) htells hothers)
  | stop htold hord =>
    obtain ⟨rfl, hcons⟩ | ⟨others, rfl, hothers⟩ := List.cons_eq_append_iff.1 hvs
    · obtain ⟨rfl, -⟩ := List.cons.inj hcons
      exact becomes_gaveUp hr _
    · simp at hothers

/-- **Ordinary failures end nothing**: all partitions are visited, and the
    refusals are collected. -/
theorem completed (h : Sweeps E serial ps s vs outcome t) (hvs : ∀ v ∈ vs, v.Ordinary) :
    vs.map Visit.partition = ps ∧ outcome = .ok (vs.filterMap Visit.refusal?) := by
  induction h with
  | nil s => exact ⟨rfl, rfl⟩
  | @visit p _ s _ _ result vs _ htold hord hrest ih =>
    obtain ⟨-, hothers⟩ := List.forall_mem_cons.1 hvs
    obtain ⟨hps, rfl⟩ := ih hothers
    refine ⟨congrArg (p :: ·) hps, ?_⟩
    rw [List.filterMap_cons]
    cases (s.visit serial p result).refusal? <;> rfl
  | stop htold hord =>
    have hord' := hvs _ List.mem_cons_self _ rfl
    rw [hord] at hord'
    cases hord'

/-- **Any other failure ends the sweep** at the partition where it occurs. -/
theorem interrupted (h : Sweeps E serial ps s vs outcome t) {before after : List (Visit R)}
    {v : Visit R} (hvs : vs = before ++ v :: after) {e : Raised} (hv : v.result = .error e)
    (he : e.isOrdinary = false) : after = [] ∧ outcome = .error e := by
  induction h generalizing before with
  | nil s => simp at hvs
  | visit htold hord hrest ih =>
    obtain ⟨rfl, hcons⟩ | ⟨others, rfl, hothers⟩ := List.cons_eq_append_iff.1 hvs
    -- the sweep would not have gone on after that failure
    · obtain ⟨rfl, -⟩ := List.cons.inj hcons
      rw [hord e hv] at he
      cases he
    · obtain ⟨hafter, rfl⟩ := ih hothers
      exact ⟨hafter, rfl⟩
  | stop htold hord =>
    obtain ⟨rfl, hcons⟩ | ⟨others, rfl, hothers⟩ := List.cons_eq_append_iff.1 hvs
    · obtain ⟨rfl, hafter⟩ := List.cons.inj hcons
      exact ⟨hafter, congrArg _ (Except.error.inj hv)⟩
    · simp at hothers

end Sweeps

/-! ## §3. The sweep of a reader. -/

variable {E : Environment R} {serial : Nat} {s : Session R} {r : Reader R}

theorem giveUp_gaveUp (hr : s.reader? serial = some r) {p : Partition}
    (hp : r.tracker.contains p = true) :
    (giveUp serial p).run s = (.ok (), s.gaveUp serial p) := by
  rw [giveUp_run hr hp, gaveUp, modifyReader_eq_putReader hr]

/-- A sweep that goes on after its first partition. -/
theorem sweep_cons_run (hr : s.reader? serial = some r) {p : Partition}
    (hp : r.tracker.contains p = true) {result : Except Raised Unit} {s' : Session R}
    (htold : (emit E serial (.clear p)).run (s.gaveUp serial p) = (result, s'))
    (hord : (s.visit serial p result).Ordinary) (rest : List Partition) :
    (sweep E serial (p :: rest)).run s =
      (((sweep E serial rest).run (s'.noted p result)).1.map
        ((s.visit serial p result).refusal?.toList ++ ·),
        ((sweep E serial rest).run (s'.noted p result)).2) := by
  simp only [sweep]
  rw [Action.run_bind_ok (giveUp_gaveUp hr hp), Action.run_attempt_bind, htold]
  cases result with
  | ok u =>
    show (sweep E serial rest).run s' = (Except.map ([] ++ ·) ((sweep E serial rest).run s').1,
      ((sweep E serial rest).run s').2)
    generalize (sweep E serial rest).run s' = ran
    rcases ran with ⟨_ | _, t⟩ <;> rfl
  | error e =>
    simp only [hord e rfl, if_true, Action.run_bind, Action.run_log, noted]
    generalize (sweep E serial rest).run _ = ran
    rcases ran with ⟨_ | _, t⟩ <;> rfl

/-- A sweep that ends at its first partition. -/
theorem sweep_cons_stopped (hr : s.reader? serial = some r) {p : Partition}
    (hp : r.tracker.contains p = true) {e : Raised} {s' : Session R}
    (htold : (emit E serial (.clear p)).run (s.gaveUp serial p) = (.error e, s'))
    (hord : e.isOrdinary = false) (rest : List Partition) :
    (sweep E serial (p :: rest)).run s = (.error e, s') := by
  simp only [sweep]
  rw [Action.run_bind_ok (giveUp_gaveUp hr hp), Action.run_attempt_bind, htold]
  simp only [hord, Bool.false_eq_true, if_false, Action.run_throw]

/-- What a reader does to give partitions up that it tracks is a sweep. -/
theorem sweep_sweeps {ps : List Partition} (hr : s.reader? serial = some r)
    (htells : r.TellsDiscreetly E) (hnodup : ps.Nodup)
    (htracked : ∀ p ∈ ps, r.tracker.contains p = true) :
    ∃ vs, Sweeps E serial ps s vs ((sweep E serial ps).run s).1 ((sweep E serial ps).run s).2 := by
  induction ps generalizing s r with
  | nil => exact ⟨[], .nil s⟩
  | cons p rest ih =>
    obtain ⟨hp, hrest⟩ := List.nodup_cons.1 hnodup
    have hpt : r.tracker.contains p = true := htracked p List.mem_cons_self
    have htracked' := Reader.contains_rid hp htracked
    rcases htold : (emit E serial (.clear p)).run (s.gaveUp serial p) with ⟨result, s'⟩
    by_cases hord : (s.visit serial p result).Ordinary
    · have hnext := Sweeps.becomes_noted hr htells htold
      obtain ⟨vs, hvs⟩ := ih (hnext.reader? hr) htells hrest htracked'
      rw [sweep_cons_run hr hpt htold hord]
      exact ⟨_, .visit htold hord hvs⟩
    · obtain ⟨e, rfl, he⟩ : ∃ e, result = .error e ∧ e.isOrdinary = false := by
        simpa [Visit.Ordinary, Session.visit] using hord
      rw [sweep_cons_stopped hr hpt htold he]
      exact ⟨_, .stop htold he⟩

/-- A reader that takes an assignment over sweeps through what it drops. -/
theorem takeOver_sweeps (hr : s.reader? serial = some r) (htells : r.TellsDiscreetly E)
    (below : Notified) :
    ∃ vs outcome, Sweeps E serial (r.dropped below.assignment) (s.announced r below.assignment) vs
        outcome ((takeOver E serial below).run s).2 ∧
      ((takeOver E serial below).run s).1 = ⟨r.tracker.resume below.assignment,
        match outcome with
        | .ok refusals => rebalanceFailure below.failure refusals
        | .error e => some e⟩ := by
  have hannounced : (s.announced r below.assignment).reader? serial = some r :=
    (Becomes.of_withoutLog (.refl hr) (withoutLog_announced s r below.assignment)).reader? hr
  obtain ⟨vs, hvs⟩ := sweep_sweeps hannounced htells (r.dropped_nodup below.assignment)
    fun _ => Reader.contains_of_mem_dropped
  rw [takeOver_announced E hr]
  exact ⟨vs, _, hvs, rfl⟩

end Session

/-! ## §4. What a reader does with an assignment. -/

/-- What a tracker makes of an entry: that of a partition which was read goes
    on right after what was read, any other one stays. -/
structure Tracker.Resumes (t : Tracker) (e e' : ChangeFeed.Entry) : Prop where
  partition : e'.partition = e.partition
  tracked : ∀ o, t.get? e.partition = some o → e'.offset = some (o + 1)
  other : t.get? e.partition = none → e'.offset = e.offset

theorem Tracker.resumes_resumeEntry (t : Tracker) (e : ChangeFeed.Entry) :
    t.Resumes e (t.resumeEntry e) := by
  refine ⟨rfl, fun o ho => ?_, fun ho => ?_⟩ <;> simp [resumeEntry, resumeOffset?, ho]

theorem Tracker.resumes_resume (t : Tracker) (a : Assignment) :
    List.Forall₂ t.Resumes a (t.resume a) := by
  rw [Tracker.resume, List.forall₂_map_right_iff, List.forall₂_same]
  exact fun e _ => t.resumes_resumeEntry e

/-- The failure of a rebalance, after some visits. -/
theorem rebalanceFailure_visits (below : Option Raised) (visits : List (Visit R)) :
    rebalanceFailure below (visits.filterMap Visit.refusal?) = none ↔
      below = none ∧ ∀ v ∈ visits, v.result = .ok () := by
  rw [rebalanceFailure_eq_none, List.filterMap_eq_nil_iff]
  simp only [Visit.refusal?_eq_none]

namespace Session

/-- A reader that was `r` has taken over what the listener below it left, in
    `heard`; that came to `told`, after some visits. -/
structure TakenOver (E : Environment R) (serial : Nat) (r : Reader R)
    (heard told : Notified × Session R) (visits : List (Visit R)) : Prop where
  /-- The list is what the listener below left, with the entries of partitions
      read before moved.  What becomes of the sweep makes no difference. -/
  entries : List.Forall₂ r.tracker.Resumes heard.1.assignment told.1.assignment
  /-- The sweep comes after that has been announced. -/
  sweep : ∃ outcome, Sweeps E serial (r.dropped heard.1.assignment)
    ((heard.2.warned heard.1.failure).announced r heard.1.assignment) visits outcome told.2
  /-- It goes, in order, through what was tracked and is not assigned. -/
  order : visits.map Visit.partition <+: r.dropped heard.1.assignment
  ascending : (r.dropped heard.1.assignment).Pairwise (· < ·)
  mem_dropped : ∀ p, p ∈ r.dropped heard.1.assignment ↔
    r.tracker.contains p = true ∧ p ∉ Assignment.partitions heard.1.assignment
  /-- The handler is told of a partition once that is not tracked any more. -/
  telling : ∀ before v after, visits = before ++ v :: after →
    heard.2.Becomes serial (r.rid (before.map Visit.partition ++ [v.partition]))
      (r.clears (before.map Visit.partition)) v.session
  result : ∀ v ∈ visits,
    v.result = ((emit E serial (.clear v.partition)).run v.session).1
  /-- What is left: the partitions visited are given up, and each of them was
      reported once. -/
  state : heard.2.Becomes serial (r.rid (visits.map Visit.partition))
    (r.clears (visits.map Visit.partition)) told.2
  cleared : ∀ h, r.onEvent = .custom h → ∀ ps,
    r.clears ps = ps.map fun p => .event r.name (.clear p)
  /-- If the handler failed in ordinary ways only, that was all of them. -/
  completed : (∀ v ∈ visits, v.Ordinary) →
    visits.map Visit.partition = r.dropped heard.1.assignment ∧
      told.2.tracker serial =
        r.tracker.restrict (Assignment.partitions heard.1.assignment) ∧
      (told.1.failure = none ↔
        heard.1.failure = none ∧ ∀ v ∈ visits, v.result = .ok ())
  /-- If it failed in another way, that was the last visit, and the failure is
      passed on. -/
  interrupted : ∀ before v after e, visits = before ++ v :: after → v.result = .error e →
    e.isOrdinary = false → after = [] ∧ told.1.failure = some e

variable {E : Environment R} {serial : Nat} {below : Listener} {a : Assignment} {s : Session R}
  {r : Reader R}

/-- An open reader has its turn when the listener below it is done. -/
theorem notify_open_reader
    (hordinary : ∀ f, ((notify E below a).run s).1.failure = some f → f.isOrdinary = true)
    (hr : ((notify E below a).run s).2.reader? serial = some r) (hopen : r.closed = false)
    {heard : Notified × Session R} (hheard : (notify E below a).run s = heard) :
    heard.2.Becomes serial r [] (heard.2.warned heard.1.failure) ∧
      (heard.2.warned heard.1.failure).reader? serial = some r ∧
      (notify E (.reader serial below) a).run s =
        (takeOver E serial heard.1).run (heard.2.warned heard.1.failure) := by
  rw [hheard] at hordinary hr
  have hwarned : heard.2.Becomes serial r [] (heard.2.warned heard.1.failure) :=
    (Becomes.refl hr).of_withoutLog (withoutLog_warned _ _)
  have hr' := hwarned.reader? hr
  refine ⟨hwarned, hr', ?_⟩
  rw [notify_reader_run E serial hheard hordinary, isClosed_of_reader? hr', hopen]
  rfl

/-- **What a reader does when it is told of an assignment.**  Whatever the
    listener below it left, and whether or not that one failed, the entries
    are resumed and then everything that is not assigned any more is given up
    and reported, each partition for itself. -/
theorem takes_over_assignment
    (hordinary : ∀ f, ((notify E below a).run s).1.failure = some f → f.isOrdinary = true)
    (hr : ((notify E below a).run s).2.reader? serial = some r) (hopen : r.closed = false)
    (htells : r.TellsDiscreetly E) :
    ∃ visits, TakenOver E serial r ((notify E below a).run s)
      ((notify E (.reader serial below) a).run s) visits := by
  obtain ⟨hwarned, hr', hrun⟩ := notify_open_reader hordinary hr hopen rfl
  generalize (notify E below a).run s = heard at hrun hr hr' hwarned
  generalize (notify E (.reader serial below) a).run s = told at hrun
  obtain ⟨visits, outcome, hsweep, htaken⟩ := takeOver_sweeps hr' htells heard.1
  rw [← hrun] at hsweep htaken
  -- the session in which the sweep starts
  have hstart : heard.2.Becomes serial r []
      ((heard.2.warned heard.1.failure).announced r heard.1.assignment) :=
    hwarned.of_withoutLog (withoutLog_announced _ _ _)
  have hrStart := hstart.reader? hr
  have hstate : heard.2.Becomes serial (r.rid (visits.map Visit.partition))
      (r.clears (visits.map Visit.partition)) told.2 :=
    hstart.trans (hsweep.becomes hrStart htells)
  refine ⟨visits, ?_, ⟨outcome, hsweep⟩, hsweep.visits_prefix,
    r.tracker.untrackedBy_ascending _, r.mem_dropped _, ?_, hsweep.result_eq, hstate, ?_, ?_, ?_⟩
  · rw [htaken]
    exact r.tracker.resumes_resume heard.1.assignment
  · intro before v after hvisits
    exact hstart.trans (hsweep.told hrStart htells hvisits)
  · intro h hh ps
    exact Reader.clears_of_custom hh ps
  · intro hvisits
    obtain ⟨hall, rfl⟩ := hsweep.completed hvisits
    refine ⟨hall, ?_, ?_⟩
    · rw [hstate.tracker hr, hall, Reader.rid_dropped]
      rfl
    · rw [htaken]
      exact rebalanceFailure_visits heard.1.failure visits
  · intro before v after e hvisits hv he
    obtain ⟨hafter, rfl⟩ := hsweep.interrupted hvisits hv he
    rw [htaken]
    exact ⟨hafter, rfl⟩

end Session

/-! ## §5. A handler that refuses, above a listener that fails. -/

namespace Sample

/-- A reader that refuses events, above the listener `"audit"`. -/
def refusing : Session roles := audited.stackUp (reader "p" true [2, 0, 1])

end Sample

/-- Only the partition 1 stays assigned. -/
theorem takes_over_refusing :
    ∃ visits, Session.TakenOver Sample.conduct.environment 0
      { Sample.reader "p" true [2, 0, 1] with below := .foreign "audit" }
      ((Session.notify Sample.conduct.environment (.foreign "audit")
        [⟨Sample.partition 1, none⟩]).run Sample.refusing)
      ((Session.notify Sample.conduct.environment (.reader 0 (.foreign "audit"))
        [⟨Sample.partition 1, none⟩]).run Sample.refusing) visits :=
  Session.takes_over_assignment
    (fun f hf => Sample.conduct_ordinary.assignment "audit" [⟨Sample.partition 1, none⟩]
      Sample.refusing.own f hf)
    rfl rfl (Sample.conduct.discreet.tells _)

/-- Two events are refused, and still both partitions are given up. -/
example :
    (Sample.refusing.rebalance Sample.conduct.environment
        [⟨Sample.partition 1, none⟩]).1.assignment = [⟨Sample.partition 1, some 8⟩] ∧
      (Sample.refusing.rebalance Sample.conduct.environment [⟨Sample.partition 1, none⟩]).2.deeds =
        [.notify "audit" [⟨Sample.partition 1, none⟩], .event "p" (.clear (Sample.partition 0)),
          .event "p" (.clear (Sample.partition 2))] ∧
      ((Sample.refusing.rebalance Sample.conduct.environment
        [⟨Sample.partition 1, none⟩]).2.tracker 0).partitions = [Sample.partition 1] := by
  refine ⟨rfl, rfl, rfl⟩

end ChangeFeed
