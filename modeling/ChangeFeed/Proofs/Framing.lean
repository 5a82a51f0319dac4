/-
  ChangeFeed.Proofs.Framing — how far a reader's doings reach.

  A reader itself only makes entries in the journal and changes what readers
  track; everything else that happens in a step or at a rebalance is done by
  user code.  So a relation between sessions that holds across entries, across
  such changes and across every call of user code holds across all that is
  put together from them.  Nothing is assumed about user code beyond that it
  keeps to the relation.

  Main results:
    * `Framing.notify` — telling listeners of an assignment.
    * `Framing.poll`, `Framing.step` — a poll and a step, once the source has
      been asked.
    * `Framing.subscribe` — telling the consumer which topics to read.
-/

import ChangeFeed.Proofs.Polling

namespace ChangeFeed

variable {R : Roles}

/-! ## §1. Relations between sessions. -/

/-- However it ends, the computation leads to a session that stands in the
    relation to the one it started in. -/
def Kept {α : Type} (Rel : Session R → Session R → Prop) (act : StateM (Session R) α) : Prop :=
  ∀ s, Rel s (act.run s).2

/-- One action after the other, if the second one is reached. -/
theorem Kept.bind {Rel : Session R → Session R → Prop}
    {α β : Type} {act : Action R α} {next : α → Action R β} (hact : Kept Rel act.run)
    (hnext : ∀ a, Kept Rel (next a).run) (htrans : ∀ {s t u}, Rel s t → Rel t u → Rel s u) :
    Kept Rel (act >>= next).run := by
  intro s
  show Rel s ((act >>= next).run s).2
  have hfirst : Rel s (act.run s).2 := hact s
  rcases hrun : act.run s with ⟨result, s'⟩
  rw [hrun] at hfirst
  cases result with
  | error e =>
    rw [Action.run_bind_error hrun]
    exact hfirst
  | ok a =>
    rw [Action.run_bind_ok hrun]
    exact htrans hfirst (hnext a s')

/-- Is it anything but a poll of the source or the closing of a consumer? -/
def Occurrence.isPassing : Occurrence → Bool
  | .polled _ => false
  | .closeConsumer => false
  | _ => true

/-- Is it entered in the course of what a reader does, or of a client's work with
    one?  Polls and pauses, and what belongs to the beginning and the end of a run,
    are entered elsewhere. -/
def Occurrence.isInner : Occurrence → Bool
  | .polled _ | .sleep _ | .closeConsumer | .createConsumer _ | .running _
  | .configureLogging _ | .shutDownLogging | .configuration _ => false
  | _ => true

theorem Occurrence.isPassing_of_isInner {o : Occurrence} (h : o.isInner = true) :
    o.isPassing = true := by
  cases o <;> first | rfl | cases h

/-- What of a reader is settled when it is opened, and whether it has been
    closed. -/
def Reader.place (r : Reader R) : Listener × Bool × Option Timeout := (r.below, r.closed, r.timeout)

theorem Session.places_modifyReader (s : Session R) (serial : Nat) {change : Reader R → Reader R}
    (h : ∀ r, (change r).place = r.place) :
    (s.modifyReader serial change).readers.map Reader.place = s.readers.map Reader.place := by
  refine List.ext_getElem? fun i => ?_
  rw [List.getElem?_map, List.getElem?_map]
  show ((s.modifyReader serial change).reader? i).map _ = (s.reader? i).map _
  rw [Session.reader?_modifyReader]
  -- the change shows at that serial only, and not in what is compared
  split
  · cases s.reader? i with
    | none => rfl
    | some r => exact congrArg some (h r)
  · rfl

/-- A relation between sessions that readers keep to, and all user code. -/
structure Framing (E : Environment R) (Rel : Session R → Session R → Prop) : Prop where
  refl : ∀ s, Rel s s
  trans : ∀ {s t u}, Rel s t → Rel t u → Rel s u
  /-- The journal may grow. -/
  enter : ∀ s o, o.isInner = true → Rel s (s.enter o)
  /-- Readers may change, but not where they stand. -/
  change : ∀ s serial f, (∀ r : Reader R, (f r).place = r.place) → Rel s (s.modifyReader serial f)
  /-- A consumer may be subscribed. -/
  subscribed : ∀ (s : Session R) c, s.feed = .consumer c →
    Rel s { s with feed := .consumer { c with subscribed := true } }
  decodeKey : ∀ d data, Kept Rel (E.decodeKey d data).run
  decodeValue : ∀ d key data, Kept Rel (E.decodeValue d key data).run
  onEvent : ∀ h e, Kept Rel (E.onEvent h e).run
  onError : ∀ h m code, Kept Rel (E.onError h m code).run
  onAssignment : ∀ name a, Kept Rel (E.onAssignment name a)
  onSubscribe : ∀ topics, Kept Rel (E.onSubscribe topics).run
  onAssign : ∀ a, Kept Rel (E.onAssign a).run

namespace Framing

variable {E : Environment R} {Rel : Session R → Session R → Prop}

/-- Of user code that keeps to itself only one thing has to be known. -/
theorem of_conduct {C : Conduct R} (hrefl : ∀ s, Rel s s)
    (htrans : ∀ {s t u}, Rel s t → Rel t u → Rel s u)
    (henter : ∀ s o, o.isInner = true → Rel s (s.enter o))
    (hchange : ∀ s serial f, (∀ r : Reader R, (f r).place = r.place) →
      Rel s (s.modifyReader serial f))
    (hsubscribed : ∀ (s : Session R) c, s.feed = .consumer c →
      Rel s { s with feed := .consumer { c with subscribed := true } })
    (honOwn : ∀ {α : Type} (f : Own R → α × Own R), Kept Rel (Conduct.onOwn f)) :
    Framing C.environment Rel where
  refl := hrefl
  trans := htrans
  enter := henter
  change := hchange
  subscribed := hsubscribed
  decodeKey _ _ := honOwn _
  decodeValue _ _ _ := honOwn _
  onEvent _ _ := honOwn _
  onError _ _ _ := honOwn _
  onAssignment _ _ := honOwn _
  onSubscribe _ := honOwn _
  onAssign _ := honOwn _

/-! ## §2. Putting computations together. -/

theorem pure (hF : Framing E Rel) {α : Type} (a : α) : Kept Rel (Pure.pure a : Action R α).run :=
  hF.refl

theorem throw (hF : Framing E Rel) {α : Type} (e : Raised) :
    Kept Rel (MonadExcept.throw e : Action R α).run := hF.refl

theorem bind (hF : Framing E Rel) {α β : Type} {act : Action R α} {next : α → Action R β}
    (hact : Kept Rel act.run) (hnext : ∀ a, Kept Rel (next a).run) :
    Kept Rel (act >>= next).run := hact.bind hnext hF.trans

/-- What depends on the session is settled by looking at it. -/
theorem get_bind {α : Type} {f : Session R → Action R α} (h : ∀ s, Kept Rel (f s).run) :
    Kept Rel (get >>= f).run := fun s => h s s

theorem bind_state (hF : Framing E Rel) {α β : Type} {act : StateM (Session R) α}
    {next : α → StateM (Session R) β} (hact : Kept Rel act) (hnext : ∀ a, Kept Rel (next a)) :
    Kept Rel (act >>= next) := by
  intro s
  rw [run_bind_state]
  exact hF.trans (hact s) (hnext _ _)

/-- A computation that cannot fail, as the first part of an action. -/
theorem lift_bind (hF : Framing E Rel) {α β : Type} {act : StateM (Session R) α}
    {next : α → Action R β} (hact : Kept Rel act) (hnext : ∀ a, Kept Rel (next a).run) :
    Kept Rel ((liftM act : Action R α) >>= next).run := fun s => hF.trans (hact s) (hnext _ _)

theorem get_bind_state {α : Type} {f : Session R → StateM (Session R) α}
    (h : ∀ s, Kept Rel (f s)) : Kept Rel (get >>= f) := fun s => h s s

/-- An action whose outcome is taken for a value. -/
theorem attempt_bind (hF : Framing E Rel) {α β : Type} {act : Action R α}
    {next : Except Raised α → Action R β} (hact : Kept Rel act.run)
    (hnext : ∀ result, Kept Rel (next result).run) :
    Kept Rel (Action.attempt act >>= next).run := by
  intro s
  show Rel s ((Action.attempt act >>= next).run s).2
  rw [Action.run_attempt_bind]
  exact hF.trans (hact s) (hnext _ _)

theorem andFinally (hF : Framing E Rel) {α : Type} {act : Action R α} {cleanUp : Action R Unit}
    (hact : Kept Rel act.run) (hcleanUp : Kept Rel cleanUp.run) :
    Kept Rel (Action.andFinally act cleanUp).run := by
  refine hF.attempt_bind hact fun result => hF.bind hcleanUp fun _ => ?_
  cases result with
  | ok a => exact hF.pure a
  | error e => exact hF.throw e

theorem record (hF : Framing E Rel) {o : Occurrence} (h : o.isInner = true) :
    Kept Rel (Action.record o : Action R Unit).run := fun s => hF.enter s o h

theorem enterLog (hF : Framing E Rel) (s : Session R) (entry : Log.Entry) :
    Rel s (s.enterLog entry) := by
  unfold Session.enterLog
  split
  · exact hF.enter s _ rfl
  · exact hF.refl s

theorem log (hF : Framing E Rel) (entry : Log.Entry) :
    Kept Rel (Action.log entry : Action R Unit).run := fun s => hF.enterLog s entry

theorem log_state (hF : Framing E Rel) (entry : Log.Entry) :
    Kept Rel (Action.log entry : StateM (Session R) Unit) := fun s => hF.enterLog s entry

theorem logAll (hF : Framing E Rel) (s : Session R) (entries : List Log.Entry) :
    Rel s (s.logAll entries) := by
  induction entries generalizing s with
  | nil => exact hF.refl s
  | cons entry rest ih => exact hF.trans (hF.enterLog s entry) (ih _)

/-! ## §3. Dealings with user code. -/

theorem readerDecodeKey (hF : Framing E Rel) (serial : Nat) (data : Option Octets) :
    Kept Rel (Session.decodeKey E serial data).run := by
  refine get_bind fun s => ?_
  cases s.reader? serial with
  | none => exact hF.pure _
  | some r =>
    simp only
    cases r.keyDecoding with
    | raw => exact hF.pure _
    | text => exact hF.pure _
    | custom d => exact hF.bind (hF.record rfl) fun _ => hF.decodeKey d data

theorem readerDecodeValue (hF : Framing E Rel) (serial : Nat) (key : Value) (data : Octets) :
    Kept Rel (Session.decodeValue E serial key data).run := by
  refine get_bind fun s => ?_
  cases s.reader? serial with
  | none => exact hF.pure _
  | some r =>
    simp only
    cases r.valueDecoding with
    | raw => exact hF.pure _
    | text => exact hF.pure _
    | custom d => exact hF.bind (hF.record rfl) fun _ => hF.decodeValue d key data

theorem emit (hF : Framing E Rel) (serial : Nat) (e : Event) :
    Kept Rel (Session.emit E serial e).run := by
  refine get_bind fun s => ?_
  cases s.reader? serial with
  | none => exact hF.pure _
  | some r =>
    simp only
    cases r.onEvent with
    | ignore => exact hF.pure _
    | print => exact hF.record rfl
    | custom h => exact hF.bind (hF.record rfl) fun _ => hF.onEvent h e

theorem report (hF : Framing E Rel) (serial : Nat) (m : Message) (code : ErrorCode) :
    Kept Rel (Session.report E serial m code).run := by
  refine get_bind fun s => ?_
  cases s.reader? serial with
  | none => exact hF.pure _
  | some r =>
    simp only
    cases r.onError with
    | ignore => exact hF.log _
    | print => exact hF.record rfl
    | custom h => exact hF.bind (hF.record rfl) fun _ => hF.onError h m code

/-! ## §4. Rebalances. -/

theorem giveUp (hF : Framing E Rel) (serial : Nat) (p : Partition) :
    Kept Rel (Session.giveUp serial p : Action R Unit).run := by
  refine get_bind fun s => ?_
  cases (s.tracker serial).remove p with
  | ok t => exact fun s => hF.change s serial _ fun _ => rfl
  | error f => exact hF.throw _

theorem sweep (hF : Framing E Rel) (serial : Nat) (ps : List Partition) :
    Kept Rel (Session.sweep E serial ps).run := by
  -- the induction is on the partitions still to be given up
  induction ps with
  | nil => exact hF.pure _
  | cons p rest ih =>
    refine hF.bind (hF.giveUp serial p) fun _ => hF.attempt_bind (hF.emit serial _) fun result => ?_
    cases result with
    | ok u => exact ih
    | error e =>
      simp only
      split
      · exact hF.bind (hF.log _) fun _ => hF.bind ih fun _ => hF.pure _
      · exact hF.throw e

theorem takeOver (hF : Framing E Rel) (serial : Nat) (below : Notified) :
    Kept Rel (Session.takeOver E serial below) := by
  refine get_bind_state fun s => hF.bind_state ?_ fun _ =>
    hF.bind_state (hF.log_state _) fun _ => hF.bind_state (hF.sweep serial _) fun result => ?_
  · intro s'
    rw [Session.run_forIn_log]
    exact hF.logAll s' _
  · cases result <;> exact hF.refl

/-- **Telling listeners of an assignment.**  The induction is on the chain of
    listeners. -/
theorem notify (hF : Framing E Rel) (listener : Listener) (a : Assignment) :
    Kept Rel (Session.notify E listener a) := by
  induction listener with
  | nobody => exact hF.refl
  | foreign name =>
    exact hF.bind_state (fun s => hF.enter s _ rfl) fun _ => hF.onAssignment name a
  | reader serial below ih =>
    -- whether the reader is open is looked up after the one below it was told
    have hturn : ∀ left : Notified, Kept Rel (do
        if (← get).isClosed serial then Pure.pure left else Session.takeOver E serial left :
          StateM (Session R) Notified) := fun left => get_bind_state fun s => by
      cases s.isClosed serial with
      | true => exact hF.refl
      | false => exact hF.takeOver serial left
    refine hF.bind_state ih fun left => ?_
    cases left.failure with
    | none => exact hturn left
    | some e =>
      simp only
      split
      · exact hF.bind_state (hF.log_state _) fun _ => hturn left
      · exact hF.refl

/-! ## §5. Polls and steps. -/

theorem raiseAny (hF : Framing E Rel) (failure : Option Raised) :
    Kept Rel (Session.raiseAny failure : Action R Unit).run := by
  cases failure <;> exact hF.refl

theorem onReport (hF : Framing E Rel) {α : Type} (report : Option α)
    (condition : Session R → Bool) {act : α → Action R Unit} (hact : ∀ a, Kept Rel (act a).run) :
    Kept Rel (Session.onReport report condition act).run := by
  cases report with
  | none => exact hF.pure _
  | some a =>
    refine get_bind fun s => ?_
    cases condition s with
    | true => exact hact a
    | false => exact hF.pure _

theorem assignDirect (hF : Framing E Rel) (a : Assignment) :
    Kept Rel (Session.assignDirect E a).run :=
  get_bind fun s => hF.lift_bind (hF.notify s.installed a) fun left =>
    hF.bind (hF.record rfl) fun _ => hF.raiseAny left.failure

theorem assignConsumer (hF : Framing E Rel) (a : Assignment) :
    Kept Rel (Session.assignConsumer E a).run :=
  hF.bind (hF.log _) fun _ => get_bind fun s => hF.lift_bind (hF.notify s.installed a) fun left =>
    hF.bind (hF.record rfl) fun _ => hF.bind (hF.onAssign left.assignment) fun _ =>
      hF.raiseAny left.failure

/-- **A poll, once the source has been asked.** -/
theorem poll (hF : Framing E Rel) (timeout : Option Timeout) (turn : Turn) (s : Session R) :
    Rel (s.enter (s.feed.polled timeout)) ((Session.poll E timeout turn).run s).2 := by
  simp only [Session.poll, Action.run_get_bind]
  cases s.feed with
  | direct =>
    simp only [Session.pollDirect]
    rw [Action.run_bind_ok (Action.run_record _ s)]
    exact hF.bind (hF.onReport _ _ hF.assignDirect)
      (fun _ => hF.bind (hF.raiseAny _) fun _ => hF.pure _) _
  | consumer c =>
    simp only [Session.pollConsumer]
    rw [Action.run_bind_ok (Action.run_record _ s)]
    exact hF.bind (hF.onReport _ _ hF.assignConsumer) (fun _ =>
      hF.bind (hF.onReport _ _ fun _ => hF.log _) fun _ =>
      hF.bind (hF.onReport _ _ fun _ => hF.log _) fun _ =>
      hF.bind (hF.onReport _ _ fun _ => hF.log _) fun _ =>
      hF.bind (hF.raiseAny _) fun _ => hF.pure _) _

theorem handleError (hF : Framing E Rel) (serial : Nat) (m : Message) (code : ErrorCode) :
    Kept Rel (Session.handleError E serial m code).run := by
  unfold Session.handleError
  split
  · exact hF.bind (hF.emit serial _) fun _ => hF.pure _
  · exact hF.bind (hF.report serial m code) fun _ => hF.pure _

theorem eventOf (hF : Framing E Rel) (serial : Nat) (m : Message) (key : Value) :
    Kept Rel (Session.eventOf E serial m key).run := by
  unfold Session.eventOf
  cases m.payload with
  | none => exact hF.pure _
  | some payload =>
    cases payload with
    | nil => exact hF.pure _
    | cons octet rest =>
      refine hF.bind (hF.readerDecodeValue serial key _) fun value => ?_
      cases value with
      | none => exact hF.bind (hF.log _) fun _ => hF.pure _
      | some value => exact hF.pure _

theorem handleRecord (hF : Framing E Rel) (serial : Nat) (m : Message) :
    Kept Rel (Session.handleRecord E serial m).run := by
  refine hF.bind (hF.log _) fun _ => hF.bind (hF.readerDecodeKey serial m.key) fun key => ?_
  cases key with
  | none => exact hF.bind (hF.log _) fun _ => hF.pure _
  | some key =>
    refine hF.bind (hF.eventOf serial m key) fun event => ?_
    cases event with
    | none => exact hF.pure _
    | some event => exact hF.bind (hF.emit serial event) fun _ => hF.pure _

theorem handle (hF : Framing E Rel) (serial : Nat) (m : Message) :
    Kept Rel (Session.handle E serial m).run := by
  unfold Session.handle
  cases m.error with
  | some code => exact hF.handleError serial m code
  | none =>
    -- taking over an offset changes what is tracked and nothing else
    exact hF.bind (hF.handleRecord serial m) fun _ =>
      hF.bind (fun s => hF.change s serial _ fun _ => rfl) fun _ => hF.pure _

/-- **A step, once the source has been asked.** -/
theorem step (hF : Framing E Rel) (serial : Nat) (timeout : Option Timeout) (turn : Turn)
    (s : Session R) :
    Rel (s.enter (s.feed.polled (s.effectiveTimeout serial timeout)))
      ((Session.step E serial timeout turn).run s).2 := by
  have hpoll := hF.poll (s.effectiveTimeout serial timeout) turn s
  simp only [Session.step, Action.run_get_bind]
  rcases hrun : (Session.poll E (s.effectiveTimeout serial timeout) turn).run s with ⟨result, s'⟩
  rw [hrun] at hpoll
  cases result with
  | error e =>
    rw [Action.run_bind_error hrun]
    exact hpoll
  | ok message =>
    rw [Action.run_bind_ok hrun]
    cases message with
    | none => exact hpoll
    | some m => exact hF.trans hpoll (hF.handle serial m s')

theorem subscribe (hF : Framing E Rel) (topics : List String) :
    Kept Rel (Session.subscribe E topics).run := by
  refine hF.bind (hF.log _) fun _ => hF.bind (hF.record rfl) fun _ =>
    hF.bind (hF.onSubscribe topics) fun _ s => ?_
  show Rel s s.knowsTopics
  unfold Session.knowsTopics
  cases hfeed : s.feed with
  | direct => exact hF.refl s
  | consumer c => exact hF.subscribed s c hfeed

end Framing

end ChangeFeed
