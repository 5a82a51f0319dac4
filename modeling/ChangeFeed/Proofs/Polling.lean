/-
  ChangeFeed.Proofs.Polling — one poll, in closed form.

  A poll that no assignment comes with leaves the readers alone.  One that an
  assignment comes with tells the installed listener, and then the source
  takes over what was left, whether or not the listener failed.  Direct
  sources and consumers differ in how they take it over and in nothing else
  that matters to a reader.

  Main results:
    * `poll_run_idle`, `poll_run_delivered` — a poll without an assignment,
      and one with it.
    * `poll_run` — a poll of a source with one open reader on it.
-/

import ChangeFeed.Proofs.Relay

namespace ChangeFeed

variable {R : Roles}

/-! ## §1. What comes with a poll. -/

/-- The call by which a source is asked for a message. -/
def Feed.polled (feed : Feed) (timeout : Option Timeout) : Occurrence :=
  match feed with
  | .direct => .polled timeout
  | .consumer _ => .polled (some (timeout.getD (.whole (-1))))

/-- The call by which a source takes over an assignment. -/
def Feed.applied (feed : Feed) (a : Assignment) : Occurrence :=
  match feed with
  | .direct => .assigned a
  | .consumer _ => .assign a

namespace Turn

/-- The assignment that the listener is told of at a poll. -/
def delivered (turn : Turn) (feed : Feed) : Option Assignment :=
  match feed with
  | .direct => turn.assign
  | .consumer c => if c.subscribed then turn.assign else none

/-- What a poll ends with if nothing failed before. -/
def ending (turn : Turn) : Except Raised (Option Message) :=
  match turn.failure with
  | none => .ok turn.message
  | some e => .error e

end Turn

/-- What taking over an assignment comes to: the failure that the poll ends
    with, if any, and what the users have of their own.  If a consumer refuses
    the assignment, that failure takes the place of the listener's. -/
def Conduct.apply (C : Conduct R) (feed : Feed) (left : Notified) (o : Own R) :
    Option Raised × Own R :=
  match feed with
  | .direct => (left.failure, o)
  | .consumer _ =>
    match C.onAssign left.assignment o with
    | (.ok (), o') => (left.failure, o')
    | (.error e, o') => (some e, o')

/-- The outcome of a poll, given a failure on the way. -/
def Turn.outcome (turn : Turn) (failure : Option Raised) : Except Raised (Option Message) :=
  match failure with
  | none => turn.ending
  | some e => .error e

/-- Nothing is done but failing, if there is a failure. -/
def failing (failure : Option Raised) : Except Raised Unit :=
  match failure with
  | none => .ok ()
  | some e => .error e

namespace Session

/-! ## §2. The parts of a poll. -/

theorem raiseAny_run (failure : Option Raised) (s : Session R) :
    (raiseAny failure : Action R Unit).run s = (failing failure, s) := by
  cases failure <;> rfl

/-- The last part of every poll. -/
theorem ending_run (turn : Turn) (s : Session R) :
    (do raiseAny turn.failure; pure turn.message : Action R (Option Message)).run s =
      (turn.ending, s) := by
  unfold Turn.ending
  cases h : turn.failure with
  | none => rfl
  | some e => rfl

/-- A report that is only logged. -/
theorem onReport_log_run {α : Type} (report : Option α) (condition : Session R → Bool)
    (act : α → Action R Unit) (hact : ∀ a, ∃ entry, act a = Action.log entry) (s : Session R) :
    ∃ s', (onReport report condition act).run s = (.ok (), s') ∧ s'.withoutLog = s.withoutLog := by
  cases report with
  | none => exact ⟨s, rfl, rfl⟩
  | some a =>
    simp only [onReport, Action.run_get_bind]
    cases condition s with
    | false => exact ⟨s, rfl, rfl⟩
    | true =>
      obtain ⟨entry, hentry⟩ := hact a
      refine ⟨s.enterLog entry, ?_, withoutLog_enterLog s entry⟩
      simp only [if_true, hentry]
      rfl

/-- What a consumer's poll does after the assignment. -/
theorem reports_run (turn : Turn) (s : Session R) :
    ∃ s', (do
        onReport turn.revoke isSubscribed revoke
        onReport turn.lost isSubscribed lose
        onReport turn.consumerError reportsErrors consumerFailed
        raiseAny turn.failure
        pure turn.message : Action R (Option Message)).run s = (turn.ending, s') ∧
      s'.withoutLog = s.withoutLog := by
  obtain ⟨s₁, h₁, hs₁⟩ := onReport_log_run turn.revoke isSubscribed revoke (fun _ => ⟨_, rfl⟩) s
  obtain ⟨s₂, h₂, hs₂⟩ := onReport_log_run turn.lost isSubscribed lose (fun _ => ⟨_, rfl⟩) s₁
  obtain ⟨s₃, h₃, hs₃⟩ := onReport_log_run turn.consumerError reportsErrors consumerFailed
    (fun _ => ⟨_, rfl⟩) s₂
  refine ⟨s₃, ?_, by rw [hs₃, hs₂, hs₁]⟩
  rw [Action.run_bind_ok h₁, Action.run_bind_ok h₂, Action.run_bind_ok h₃]
  exact ending_run turn s₃

/-- A consumer's poll up to the assignment, if none is reported. -/
theorem onReport_none_run {α : Type} {report : Option α} {condition : Session R → Bool}
    (act : α → Action R Unit) {s : Session R} (h : report = none ∨ condition s = false) :
    (onReport report condition act).run s = (.ok (), s) := by
  cases report with
  | none => rfl
  | some a =>
    have hc : condition s = false := h.resolve_left (by simp)
    simp only [onReport, Action.run_get_bind, hc]
    rfl

/-- An assignment is reported. -/
theorem onReport_some_run {α : Type} {report : Option α} {condition : Session R → Bool}
    (act : α → Action R Unit) {s : Session R} {a : α} (h : report = some a)
    (hc : condition s = true) : (onReport report condition act).run s = (act a).run s := by
  subst h
  simp only [onReport, Action.run_get_bind, hc]
  rfl

/-! ## §3. Polls. -/

variable {C : Conduct R} {s : Session R} {turn : Turn}

/-- **A poll that no assignment comes with.** -/
theorem poll_run_idle (E : Environment R) (timeout : Option Timeout)
    (h : turn.delivered s.feed = none) :
    ((poll E timeout turn).run s).1 = turn.ending ∧
      ((poll E timeout turn).run s).2.withoutLog =
        s.withoutLog.advance [s.feed.polled timeout] s.own := by
  simp only [poll, Action.run_get_bind]
  cases hfeed : s.feed with
  | direct =>
    have hassign : turn.assign = none := by simpa [Turn.delivered, hfeed] using h
    simp only [pollDirect, hassign]
    rw [Action.run_bind_ok (Action.run_record _ s),
      Action.run_bind_ok (onReport_none_run _ (.inl rfl)), ending_run]
    exact ⟨rfl, by rw [withoutLog_enter _ rfl, enter_eq_advance]; rfl⟩
  | consumer c =>
    -- a consumer that has not subscribed is told of no assignment
    have hassign : turn.assign = none ∨ isSubscribed (s.enter (.polled
        (some (timeout.getD (.whole (-1)))))) = false := by
      have hsubscribed : isSubscribed (s.enter (.polled (some (timeout.getD (.whole (-1)))))) =
          c.subscribed := by
        show isSubscribed s = _
        simp only [isSubscribed, hfeed]
      rw [hsubscribed]
      cases hc : c.subscribed with
      | false => exact .inr rfl
      | true => exact .inl (by simpa [Turn.delivered, hfeed, hc] using h)
    simp only [pollConsumer]
    rw [Action.run_bind_ok (Action.run_record _ s),
      Action.run_bind_ok (onReport_none_run _ hassign)]
    obtain ⟨s', hs', hlog⟩ := reports_run turn
      (s.enter (.polled (some (timeout.getD (.whole (-1))))))
    rw [hs']
    exact ⟨rfl, by rw [hlog, withoutLog_enter _ rfl, enter_eq_advance]; rfl⟩

/-- Going on after something that may have failed, where going on only makes
    log entries and ends the poll. -/
theorem ended_run {act : Action R Unit} {next : Action R (Option Message)} (turn : Turn)
    {failure : Option Raised} {s' : Session R} (hact : act.run s = (failing failure, s'))
    (hnext : ∃ s'', next.run s' = (turn.ending, s'') ∧ s''.withoutLog = s'.withoutLog) :
    ((do act; next).run s).1 = turn.outcome failure ∧
      ((do act; next).run s).2.withoutLog = s'.withoutLog := by
  obtain ⟨s'', hrun, hlog⟩ := hnext
  cases failure with
  | none =>
    rw [Action.run_bind_ok hact, hrun]
    exact ⟨rfl, hlog⟩
  | some e =>
    rw [Action.run_bind_error hact]
    exact ⟨rfl, rfl⟩

/-- A direct source takes over what its listener left. -/
theorem assignDirect_run (E : Environment R) (a : Assignment) (s : Session R) :
    (assignDirect E a).run s =
      (failing (s.rebalance E a).1.failure,
        (s.rebalance E a).2.enter (.assigned (s.rebalance E a).1.assignment)) := by
  show ((raiseAny (s.rebalance E a).1.failure : Action R Unit).run _) = _
  rw [raiseAny_run]
  rfl

/-- The session in which a consumer's source tells its listener. -/
def assigning (s : Session R) (a : Assignment) : Session R :=
  s.enterLog (.plain .info sourceLogger ("Assigned " ++ toString a.length ++ " partition(s)") none)

@[simp] theorem withoutLog_assigning (s : Session R) (a : Assignment) :
    (s.assigning a).withoutLog = s.withoutLog := withoutLog_enterLog s _

/-- A consumer takes over what its source's listener left, whether or not the
    listener failed; a failure of its own takes the place of the listener's. -/
theorem assignConsumer_run_of {E : Environment R} {a : Assignment} {s : Session R}
    {heard : Notified × Session R} (hheard : (s.assigning a).rebalance E a = heard)
    {applied : Except Raised Unit × Session R}
    (happlied : (E.onAssign heard.1.assignment).run
      (heard.2.enter (.assign heard.1.assignment)) = applied) :
    (assignConsumer E a).run s =
      (applied.1.bind fun () => failing heard.1.failure, applied.2) := by
  have hrun : (assignConsumer E a).run s = ((do
      E.onAssign heard.1.assignment
      raiseAny heard.1.failure : Action R Unit).run
        (heard.2.enter (.assign heard.1.assignment))) := by
    subst hheard
    rfl
  rw [hrun]
  -- the listener's failure is raised only if the assignment is accepted
  obtain ⟨result, t⟩ := applied
  cases result with
  | ok u => exact (Action.run_bind_ok happlied _).trans (raiseAny_run _ _)
  | error e => exact Action.run_bind_error happlied _

/-- The same if the consumer conducts itself. -/
theorem assignConsumer_run (C : Conduct R) (a : Assignment) (c : Consumer) (s : Session R) :
    ∃ s₁ : Session R, s₁.withoutLog = s.withoutLog ∧
      (assignConsumer C.environment a).run s =
        (failing (C.apply (.consumer c) (s₁.rebalance C.environment a).1
            (s₁.rebalance C.environment a).2.own).1,
          (s₁.rebalance C.environment a).2.advance
            [.assign (s₁.rebalance C.environment a).1.assignment]
            (C.apply (.consumer c) (s₁.rebalance C.environment a).1
              (s₁.rebalance C.environment a).2.own).2) := by
  refine ⟨s.assigning a, withoutLog_assigning s a, ?_⟩
  generalize hheard : (s.assigning a).rebalance C.environment a = heard
  obtain ⟨left, s₂⟩ := heard
  have happlied : (C.environment.onAssign left.assignment).run
      (s₂.enter (.assign left.assignment)) =
      ((C.onAssign left.assignment s₂.own).1,
        s₂.advance [.assign left.assignment] (C.onAssign left.assignment s₂.own).2) := by
    show (_, (s₂.enter _).advance [] _) = _
    rw [enter_eq_advance, advance_advance]
    rfl
  rw [assignConsumer_run_of hheard happlied]
  unfold Conduct.apply
  rcases C.onAssign left.assignment s₂.own with ⟨_ | _, o⟩ <;> rfl

/-- A poll of a subscribed consumer that reports an assignment: what is left to
    do after that only makes log entries and ends the poll. -/
theorem poll_run_assigned {E : Environment R} {timeout : Option Timeout} {c : Consumer}
    (hfeed : s.feed = .consumer c) (hc : c.subscribed = true) {a : Assignment}
    (hassign : turn.assign = some a) {failure : Option Raised} {s' : Session R}
    (hact : (assignConsumer E a).run (s.enter (s.feed.polled timeout)) = (failing failure, s')) :
    ((poll E timeout turn).run s).1 = turn.outcome failure ∧
      ((poll E timeout turn).run s).2.withoutLog = s'.withoutLog := by
  have hpolled : s.feed.polled timeout = .polled (some (timeout.getD (.whole (-1)))) := by
    rw [hfeed]
    rfl
  rw [hpolled] at hact
  simp only [poll, Action.run_get_bind, hfeed, pollConsumer]
  rw [Action.run_bind_ok (Action.run_record _ s)]
  have hsubscribed :
      isSubscribed (s.enter (.polled (some (timeout.getD (.whole (-1)))))) = true := by
    show isSubscribed s = true
    simp only [isSubscribed, hfeed, hc]
  exact ended_run turn ((onReport_some_run _ hassign hsubscribed).trans hact) (reports_run turn s')

/-- **A poll that an assignment comes with.**  Log entries aside, the listener
    is told first of all. -/
theorem poll_run_delivered (C : Conduct R) (timeout : Option Timeout) {a : Assignment}
    (h : turn.delivered s.feed = some a) :
    ∃ s₁ : Session R, s₁.withoutLog = s.withoutLog.advance [s.feed.polled timeout] s.own ∧
      ((poll C.environment timeout turn).run s).1 =
        turn.outcome (C.apply s.feed (s₁.rebalance C.environment a).1
          (s₁.rebalance C.environment a).2.own).1 ∧
      ((poll C.environment timeout turn).run s).2.withoutLog =
        (s₁.rebalance C.environment a).2.withoutLog.advance
          [s.feed.applied (s₁.rebalance C.environment a).1.assignment]
          (C.apply s.feed (s₁.rebalance C.environment a).1
            (s₁.rebalance C.environment a).2.own).2 := by
  simp only [poll, Action.run_get_bind]
  cases hfeed : s.feed with
  | direct =>
    have hassign : turn.assign = some a := by simpa [Turn.delivered, hfeed] using h
    simp only [pollDirect]
    rw [Action.run_bind_ok (Action.run_record _ s)]
    -- the listener is told in the session in which the poll is recorded
    set s₁ := s.enter (.polled timeout) with hs₁
    refine ⟨s₁, by rw [hs₁, withoutLog_enter _ rfl]; rfl, ?_⟩
    have hact : (onReport turn.assign (fun _ => true) (assignDirect C.environment)).run s₁ = _ :=
      (onReport_some_run _ hassign rfl).trans (assignDirect_run C.environment a s₁)
    obtain ⟨hresult, hlog⟩ := ended_run turn hact ⟨_, ending_run turn _, rfl⟩
    refine ⟨hresult, hlog.trans ?_⟩
    rw [withoutLog_enter _ rfl]
    rfl
  | consumer c =>
    have hc : c.subscribed = true := by
      cases hc : c.subscribed with
      | true => rfl
      | false => simp [Turn.delivered, hfeed, hc] at h
    have hassign : turn.assign = some a := by simpa [Turn.delivered, hfeed, hc] using h
    -- a consumer makes a log entry before it tells the listener
    obtain ⟨s₁, hs₁, hrun⟩ := assignConsumer_run C a c (s.enter (s.feed.polled timeout))
    have hpolled : s.feed.polled timeout = (Feed.consumer c).polled timeout := by rw [hfeed]
    refine ⟨s₁, ?_, ?_⟩
    · rw [hs₁, hpolled, withoutLog_enter _ rfl]
      rfl
    obtain ⟨hresult, hlog⟩ := poll_run_assigned hfeed hc hassign hrun
    simp only [poll, Action.run_get_bind, hfeed] at hresult hlog
    refine ⟨hresult, hlog.trans ?_⟩
    exact withoutLog_advance_of _ _ (by simp [Occurrence.isLog])

/-! ## §4. A poll of a source with one open reader on it. -/

end Session

/-- What something comes to that is done on behalf of one reader. -/
structure Outcome (R : Roles) (α : Type) where
  result : Except Raised α
  /-- The reader as it stands afterwards. -/
  reader : Reader R
  /-- The calls that were made, in order. -/
  calls : List Occurrence
  own : Own R

/-- A poll by which a reader above `base` is told of an assignment, if one comes
    with it. -/
def Conduct.poll (C : Conduct R) (feed : Feed) (base : Listener) (r : Reader R)
    (timeout : Option Timeout) (turn : Turn) (o : Own R) : Outcome R (Option Message) :=
  match turn.delivered feed with
  | none => ⟨turn.ending, r, [feed.polled timeout], o⟩
  | some a =>
    let h := C.relayTo (C.hear base a o) r
    let (failure, o') := C.apply feed h.left h.own
    ⟨turn.outcome failure,
      r.restrict (Assignment.partitions (C.hear base a o).left.assignment),
      feed.polled timeout :: (h.calls ++ [feed.applied h.left.assignment]), o'⟩

namespace Session

/-- Something done comes to an outcome: it has this result, and log entries
    aside this is what has changed. -/
def ComesTo {α : Type} (s : Session R) (serial : Nat) (act : Action R α) (c : Outcome R α) : Prop :=
  (act.run s).1 = c.result ∧
    (act.run s).2.withoutLog = (s.withoutLog.putReader serial c.reader).advance c.calls c.own

/-- A reader stands open on the source, right above `base`. -/
structure Stands (s : Session R) (serial : Nat) (base : Listener) (r : Reader R) : Prop where
  foreign : base.serial? = none
  installed : s.installed = .reader serial base
  reader : s.reader? serial = some r
  isOpen : r.closed = false

variable {C : Conduct R} {s : Session R}

/-- What a reader that stands alone leaves of an assignment. -/
theorem Stands.assignment_rebalance {serial : Nat} {base : Listener} {r : Reader R}
    (hs : s.Stands serial base r) (hC : C.Copes base r) (a : Assignment) :
    (s.rebalance C.environment a).1.assignment =
      r.tracker.resume (C.hear base a s.own).left.assignment := by
  have hleft := (notify_single hC hs.foreign a hs.reader hs.isOpen).1
  rw [← hs.installed] at hleft
  exact congrArg Notified.assignment hleft

/-- **A poll of a source with one open reader on it, in closed form.** -/
theorem poll_run {serial : Nat} {base : Listener} {r : Reader R} (hC : C.Copes base r)
    (hs : s.Stands serial base r) (timeout : Option Timeout) (turn : Turn) :
    s.ComesTo serial (poll C.environment timeout turn)
      (C.poll s.feed base r timeout turn s.own) := by
  unfold ComesTo Conduct.poll
  cases hD : turn.delivered s.feed with
  | none =>
    obtain ⟨hresult, hstate⟩ := poll_run_idle C.environment timeout hD
    refine ⟨hresult, ?_⟩
    rw [hstate, putReader_self (s := s.withoutLog) hs.reader]
  | some a =>
    obtain ⟨s₁, hs₁, hresult, hstate⟩ := poll_run_delivered C timeout hD
    -- up to then nothing has happened to the reader
    have hreader₁ : s₁.reader? serial = some r := (reader?_of_withoutLog hs₁ serial).trans hs.reader
    have hown₁ : s₁.own = s.own := own_of_withoutLog hs₁
    have hinstalled₁ : s₁.installed = .reader serial base :=
      (installed_of_withoutLog hs₁).trans hs.installed
    obtain ⟨hleft, htold⟩ := notify_single hC hs.foreign a hreader₁ hs.isOpen
    rw [← hinstalled₁] at hleft htold
    change (s₁.rebalance C.environment a).1 = _ at hleft
    change (s₁.rebalance C.environment a).2.withoutLog = _ at htold
    have hown₂ : (s₁.rebalance C.environment a).2.own =
        (C.relayTo (C.hear base a s₁.own) r).own := own_of_withoutLog htold
    rw [hleft, hown₂, hown₁] at hresult hstate
    refine ⟨hresult, ?_⟩
    rw [hstate, htold, hs₁, hown₁, putReader_advance, advance_advance, advance_advance]
    rfl

end Session

end ChangeFeed
