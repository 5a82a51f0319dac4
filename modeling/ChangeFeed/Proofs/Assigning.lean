/-
  ChangeFeed.Proofs.Assigning — an assignment reaches the consumer.

  A source is told by its consumer which partitions it is to read.  It tells
  the listener that is installed then, whatever was installed when it was
  subscribed, and gives the consumer what that one left of the list.  It does
  so whether or not the listener failed, and in whatever way; so a reader has
  its partitions resumed although its handler puts an end to its sweep.

  Main results:
    * `notify_deeds` — which calls telling a listener comes to.
    * `poll_applies` — a poll that an assignment comes with.
    * `assignment_always_applied` — the same after readers and the listener
      were changed in any way.
-/

import ChangeFeed.Proofs.Takeover
import ChangeFeed.Proofs.Polling

namespace ChangeFeed

variable {R : Roles}

/-! ## §1. The calls that a listener makes. -/

/-- The listener at the end of a chain. -/
def Listener.base : Listener → Listener
  | .reader _ below => below.base
  | listener => listener

/-- Somebody is told of an event. -/
def Occurrence.tells : Occurrence → Bool
  | .event _ _ | .printed _ => true
  | _ => false

theorem Reader.tells_clears (r : Reader R) (ps : List Partition) :
    ∀ o ∈ r.clears ps, o.tells = true := by
  intro o ho
  obtain ⟨p, -, hp⟩ := List.mem_flatMap.1 ho
  cases h : r.onEvent <;>
    simp only [Reader.eventCalls, h, List.mem_singleton, List.not_mem_nil] at hp <;>
    rw [hp] <;> rfl

namespace Session

variable {E : Environment R} {s : Session R}

theorem deeds_of_sameLog {s t : Session R} (h : t.withoutLog = s.withoutLog) : t.deeds = s.deeds :=
  congrArg journal h

/-- A reader that takes an assignment over tells of events, and nothing else
    that it does enters the journal. -/
theorem takeOver_deeds (hE : E.Discreet) (serial : Nat) (below : Notified) (s : Session R) :
    ∃ told, (∀ o ∈ told, o.tells = true) ∧
      ((takeOver E serial below).run s).2.deeds = s.deeds ++ told := by
  cases hr : s.reader? serial with
  | some r =>
    have hannounced : s.Becomes serial r [] (s.announced r below.assignment) :=
      (Becomes.refl hr).of_withoutLog (withoutLog_announced s r below.assignment)
    obtain ⟨visits, outcome, hsweep, -⟩ := takeOver_sweeps hr (hE.tells r) below
    have hstate := hannounced.trans (hsweep.becomes (hannounced.reader? hr) (hE.tells r))
    exact ⟨_, r.tells_clears _, hstate.deeds⟩
  | none =>
    -- nothing is tracked then, and so nothing is given up
    have htracker : s.tracker serial = .empty := by simp [tracker, hr]
    have hrun : ((takeOver E serial below).run s).2 =
        (s.logAll (resumeLog .empty below.assignment)).enterLog
          (rebalanceLog (assignedPartitions below.assignment).length 0) := by
      simp only [takeOver, run_bind_state, run_get_state, run_forIn_log, run_log_state, htracker]
      rfl
    refine ⟨[], by simp, ?_⟩
    rw [hrun, List.append_nil]
    exact deeds_of_sameLog (by rw [withoutLog_enterLog, withoutLog_logAll])

/-- **The calls that telling a listener comes to**: the one at the end of the
    chain is told of the list once, and then readers tell of events. -/
theorem notify_deeds (hE : E.Discreet) (listener : Listener) (a : Assignment) (s : Session R) :
    ∃ told, (∀ o ∈ told, o.tells = true) ∧
      ((notify E listener a).run s).2.deeds = s.deeds ++ (listener.base.calls a ++ told) := by
  induction listener with
  | nobody => exact ⟨[], by simp, (List.append_nil _).symm⟩
  | foreign name =>
    obtain ⟨o, ho⟩ := hE.assignment name a (s.enter (.notify name a))
    refine ⟨[], by simp, ?_⟩
    show ((E.onAssignment name a).run (s.enter (.notify name a))).2.deeds = _
    rw [ho, enter_eq_advance, advance_advance]
    simp [deeds, Occurrence.isLog, Listener.base, Listener.calls]
  | reader serial below ih =>
    obtain ⟨told, htold, hbelow⟩ := ih
    generalize hheard : (notify E below a).run s = heard at hbelow
    by_cases hleft : ∀ f, heard.1.failure = some f → f.isOrdinary = true
    · rw [notify_reader_run E serial hheard hleft]
      have hwarned : (heard.2.warned heard.1.failure).deeds =
          s.deeds ++ (below.base.calls a ++ told) :=
        (deeds_of_sameLog (withoutLog_warned _ _)).trans hbelow
      cases (heard.2.warned heard.1.failure).isClosed serial with
      | true => exact ⟨told, htold, hwarned⟩
      | false =>
        obtain ⟨more, hmore, htaken⟩ :=
          takeOver_deeds hE serial heard.1 (heard.2.warned heard.1.failure)
        refine ⟨told ++ more, List.forall_mem_append.2 ⟨htold, hmore⟩, ?_⟩
        show ((takeOver E serial heard.1).run (heard.2.warned heard.1.failure)).2.deeds = _
        rw [htaken, hwarned]
        simp [Listener.base]
    -- a failure that is not ordinary is passed on, and that is all
    · obtain ⟨f, hf, hord⟩ : ∃ f, heard.1.failure = some f ∧ f.isOrdinary = false := by
        simpa using hleft
      have hrun : ((notify E (.reader serial below) a).run s).2 = heard.2 := by
        simp only [notify, run_bind_state, hheard, hf, hord]
        rfl
      rw [hrun]
      exact ⟨told, htold, hbelow⟩

/-! ## §2. A poll that an assignment comes with. -/

/-- What the consumer makes of the assignment that a listener left. -/
def applied (E : Environment R) (heard : Notified × Session R) : Except Raised Unit × Session R :=
  (E.onAssign heard.1.assignment).run (heard.2.enter (.assign heard.1.assignment))

/-- The session in which the listener is told of an assignment, at a poll from
    `s`: the poll is in the journal, and the assignment in the log. -/
def telling (s : Session R) (timeout : Option Timeout) (a : Assignment) : Session R :=
  (s.enter (s.feed.polled timeout)).assigning a

/-- A poll from `s` comes with the assignment `a`; the listener leaves
    `heard`. -/
structure Applied (E : Environment R) (timeout : Option Timeout) (turn : Turn) (a : Assignment)
    (s : Session R) (heard : Notified × Session R)
    (run : Except Raised (Option Message) × Session R) : Prop where
  /-- It is the listener installed now that is told of the list. -/
  listener : heard = (notify E s.installed a).run (s.telling timeout a)
  /-- Whatever came of that, the consumer is given what is left of it. -/
  state : run.2.withoutLog = (applied E heard).2.withoutLog
  /-- What the poll fails with is the consumer's refusal first of all. -/
  refused : ∀ e, (applied E heard).1 = .error e → run.1 = .error e
  failed : ∀ e, (applied E heard).1 = .ok () → heard.1.failure = some e → run.1 = .error e
  accepted : (applied E heard).1 = .ok () → heard.1.failure = none → run.1 = turn.ending
  /-- If user code is discreet, these are all of the calls. -/
  calls : E.Discreet → ∃ told, (∀ o ∈ told, o.tells = true) ∧
    run.2.deeds = s.deeds ++ s.feed.polled timeout ::
      (s.installed.base.calls a ++ told ++ [.assign heard.1.assignment])
  /-- An open reader on top has its partitions resumed in what the listener
      below it left, whatever comes of its handler. -/
  resumed : ∀ serial below r, s.installed = .reader serial below →
    (∀ f, ((notify E below a).run (s.telling timeout a)).1.failure = some f →
      f.isOrdinary = true) →
    ((notify E below a).run (s.telling timeout a)).2.reader? serial = some r →
    r.closed = false →
    List.Forall₂ r.tracker.Resumes
      ((notify E below a).run (s.telling timeout a)).1.assignment heard.1.assignment
  /-- A closed one lets that pass. -/
  passed : ∀ serial below, s.installed = .reader serial below →
    (∀ f, ((notify E below a).run (s.telling timeout a)).1.failure = some f →
      f.isOrdinary = true) →
    ((notify E below a).run (s.telling timeout a)).2.isClosed serial = true →
    heard.1 = ((notify E below a).run (s.telling timeout a)).1

/-- The entries that an open reader leaves do not depend on its handler. -/
theorem resumes_of_open {serial : Nat} {below : Listener} {a : Assignment} {r : Reader R}
    (hordinary : ∀ f, ((notify E below a).run s).1.failure = some f → f.isOrdinary = true)
    (hr : ((notify E below a).run s).2.reader? serial = some r) (hopen : r.closed = false) :
    List.Forall₂ r.tracker.Resumes ((notify E below a).run s).1.assignment
      ((notify E (.reader serial below) a).run s).1.assignment := by
  obtain ⟨-, hr', hrun⟩ := notify_open_reader hordinary hr hopen rfl
  rw [hrun, takeOver_announced E hr']
  exact r.tracker.resumes_resume _

/-- What a closed reader leaves is what was left to it. -/
theorem passes_of_closed {serial : Nat} {below : Listener} {a : Assignment}
    (hordinary : ∀ f, ((notify E below a).run s).1.failure = some f → f.isOrdinary = true)
    (hclosed : ((notify E below a).run s).2.isClosed serial = true) :
    ((notify E (.reader serial below) a).run s).1 = ((notify E below a).run s).1 := by
  have hrun := notify_reader_run E serial rfl hordinary
  generalize (notify E below a).run s = heard at hrun hclosed ⊢
  have hreaders : (heard.2.warned heard.1.failure).readers = heard.2.readers := by
    rw [← readers_withoutLog, withoutLog_warned, readers_withoutLog]
  have hwarned : (heard.2.warned heard.1.failure).isClosed serial = true := by
    simpa only [isClosed, reader?, hreaders] using hclosed
  rw [hrun, hwarned]
  rfl

/-- What enters the journal when the consumer is given an assignment. -/
theorem applied_deeds (hE : E.Discreet) (heard : Notified × Session R) :
    (applied E heard).2.deeds = heard.2.deeds ++ [.assign heard.1.assignment] := by
  obtain ⟨o, ho⟩ := hE.assign heard.1.assignment (heard.2.enter (.assign heard.1.assignment))
  show ((E.onAssign heard.1.assignment).run _).2.deeds = _
  rw [show ((E.onAssign heard.1.assignment).run _).2 = _ from ho, enter_eq_advance, advance_advance]
  simp [deeds, Occurrence.isLog]

/-- What an assignment fails with: the consumer's refusal, or what the listener
    failed with. -/
def assignFailure (E : Environment R) (heard : Notified × Session R) : Option Raised :=
  match (applied E heard).1 with
  | .ok () => heard.1.failure
  | .error e => some e

/-- A poll up to what it comes to. -/
theorem poll_run_heard {E : Environment R} {timeout : Option Timeout} {turn : Turn}
    {a : Assignment} {c : Consumer} (hfeed : s.feed = .consumer c) (hc : c.subscribed = true)
    (hassign : turn.assign = some a) {heard : Notified × Session R}
    (hheard : (notify E s.installed a).run (s.telling timeout a) = heard) :
    ((poll E timeout turn).run s).1 = turn.outcome (assignFailure E heard) ∧
      ((poll E timeout turn).run s).2.withoutLog = (applied E heard).2.withoutLog := by
  have hinstalled : (s.telling timeout a).installed = s.installed := installed_enterLog _ _
  have hrebalance : (s.telling timeout a).rebalance E a = heard := by
    rw [← hheard, ← hinstalled]
    rfl
  have hassigned := assignConsumer_run_of hrebalance rfl
  refine poll_run_assigned hfeed hc hassign (hassigned.trans (Prod.ext ?_ rfl))
  show (applied E heard).1.bind _ = failing (assignFailure E heard)
  unfold assignFailure
  cases (applied E heard).1 <;> rfl

/-- **A poll that an assignment comes with** has it applied. -/
theorem poll_applies (E : Environment R) (timeout : Option Timeout) {turn : Turn}
    {a : Assignment} {c : Consumer} (hfeed : s.feed = .consumer c) (hc : c.subscribed = true)
    (hassign : turn.assign = some a) :
    ∃ heard, Applied E timeout turn a s heard ((poll E timeout turn).run s) := by
  generalize hheard : (notify E s.installed a).run (s.telling timeout a) = heard
  obtain ⟨hresult, hstate⟩ := poll_run_heard hfeed hc hassign hheard
  unfold assignFailure at hresult
  refine ⟨heard, hheard.symm, hstate, fun e he => ?_, fun e hok he => ?_, fun hok he => ?_,
    fun hE => ?_, fun serial below r hinstalled hordinary hr hopen => ?_,
    fun serial below hinstalled hordinary hclosed => ?_⟩
  · simpa only [he, Turn.outcome] using hresult
  · simpa only [hok, he, Turn.outcome] using hresult
  · simpa only [hok, he, Turn.outcome] using hresult
  · obtain ⟨told, htold, hdeeds⟩ := notify_deeds hE s.installed a (s.telling timeout a)
    have hstart : (s.telling timeout a).deeds = s.deeds ++ [s.feed.polled timeout] := by
      have hlog : (s.telling timeout a).withoutLog =
          s.withoutLog.advance [s.feed.polled timeout] s.own := by
        rw [telling, withoutLog_assigning, withoutLog_enter _ (by rw [hfeed]; rfl)]
        rfl
      exact deeds_of_withoutLog hlog
    refine ⟨told, htold, ?_⟩
    rw [deeds_of_sameLog hstate, applied_deeds hE, ← hheard, hdeeds, hstart]
    simp
  · rw [← hheard, hinstalled]
    exact resumes_of_open hordinary hr hopen
  · rw [← hheard, hinstalled]
    exact passes_of_closed hordinary hclosed

/-! ## §3. Readers and listeners come and go. -/

/-- What may be done with a source between polls: a listener is installed, or a
    reader is opened or closed. -/
inductive Rearrangement where
  | install (listener : Listener)
  | openReader (name : String) (timeout : Option Timeout)
  | closeReader (serial : Nat)

/-- The session after that. -/
def rearranged (s : Session R) : Rearrangement → Session R
  | .install listener => s.install listener
  | .openReader name timeout => s.opened name timeout
  | .closeReader serial => s.closeReader serial

theorem feed_closeReader (s : Session R) (serial : Nat) : (s.closeReader serial).feed = s.feed := by
  unfold closeReader
  split
  · rfl
  · simp only
    split
    · rfl
    · show ((s.markClosed serial).enterLog _).withoutLog.feed = _
      rw [withoutLog_enterLog]
      rfl

theorem feed_rearranged (s : Session R) (change : Rearrangement) :
    (s.rearranged change).feed = s.feed := by
  cases change with
  | install listener => rfl
  | openReader name timeout => rfl
  | closeReader serial => exact feed_closeReader s serial

/-- Whatever comes and goes, the source stands on what it stood on. -/
theorem feed_foldl_rearranged (changes : List Rearrangement) (s : Session R) :
    (changes.foldl rearranged s).feed = s.feed := by
  induction changes generalizing s with
  | nil => rfl
  | cons change rest ih => exact (ih (s.rearranged change)).trans (feed_rearranged s change)

/-- A consumer that was subscribed knows its topics. -/
theorem subscribed_of_subscribe {topics : List String} {t : Session R} {c : Consumer}
    (hsubscribe : (subscribe E topics).run s = (.ok (), t)) (hfeed : t.feed = .consumer c) :
    c.subscribed = true := by
  obtain ⟨-, s₁, -, hrest⟩ := Action.ok_of_run_bind hsubscribe
  obtain ⟨-, s₂, -, hrest⟩ := Action.ok_of_run_bind hrest
  obtain ⟨-, s₃, -, hrest⟩ := Action.ok_of_run_bind hrest
  obtain rfl : s₃.knowsTopics = t := congrArg Prod.snd hrest
  cases hs₃ : s₃.feed with
  | direct => simp [knowsTopics, hs₃] at hfeed
  | consumer c' =>
    rw [feed_knowsTopics hs₃, Feed.consumer.injEq] at hfeed
    rw [← hfeed]

/-- **An assignment is always applied.**  However readers and the listener
    were changed since the source was subscribed, the listener that is
    installed when an assignment comes is told of it, and the consumer is
    given what that one left, whatever came of it. -/
theorem assignment_always_applied {E : Environment R} {topics : List String}
    {s₀ s₁ : Session R} {c : Consumer} (hsubscribe : (subscribe E topics).run s₀ = (.ok (), s₁))
    (hfeed : s₁.feed = .consumer c) (changes : List Rearrangement) (timeout : Option Timeout)
    {turn : Turn} {a : Assignment} (hassign : turn.assign = some a) :
    ∃ heard, Applied E timeout turn a (changes.foldl rearranged s₁) heard
      ((poll E timeout turn).run (changes.foldl rearranged s₁)) :=
  poll_applies E timeout ((feed_foldl_rearranged changes s₁).trans hfeed)
    (subscribed_of_subscribe hsubscribe hfeed) hassign

end Session

/-! ## §4. A listener that fails. -/

namespace Sample

/-- A source of a consumer that was told to read the topic `"t"`. -/
def subscribed : Session roles :=
  ((Session.subscribe conduct.environment ["t"]).run
    (Session.start (.consumer ⟨true, false, false⟩) .warning (0 : Nat))).2

/-- Another listener is put in place of a reader's, another reader is opened
    above it, and the first one is closed. -/
def changes : List Session.Rearrangement :=
  [.openReader "p" none, .install (.foreign "audit"), .openReader "q" none, .closeReader 0]

/-- A poll that brings an assignment of one partition. -/
def assigned : Turn := { Turn.idle with assign := some [⟨partition 0, none⟩] }

end Sample

/-- After those changes an assignment is applied. -/
theorem assignment_applied_after_changes :
    ∃ heard, Session.Applied Sample.conduct.environment none Sample.assigned
      [⟨Sample.partition 0, none⟩] (Sample.changes.foldl Session.rearranged Sample.subscribed) heard
      ((Session.poll Sample.conduct.environment none Sample.assigned).run
        (Sample.changes.foldl Session.rearranged Sample.subscribed)) :=
  Session.assignment_always_applied
    (show (Session.subscribe Sample.conduct.environment ["t"]).run
      (Session.start (.consumer ⟨true, false, false⟩) .warning (0 : Nat)) =
        (.ok (), Sample.subscribed) from rfl)
    rfl Sample.changes none rfl

/-- The listener that was put in place fails, and the consumer is given the list
    all the same. -/
example :
    ((Session.poll Sample.conduct.environment none Sample.assigned).run
      (Sample.changes.foldl Session.rearranged Sample.subscribed)).2.deeds =
        [.subscribe ["t"], .polled (some (.whole (-1))),
          .notify "audit" [⟨Sample.partition 0, none⟩], .assign [⟨Sample.partition 0, none⟩]] := by
  rfl

end ChangeFeed
