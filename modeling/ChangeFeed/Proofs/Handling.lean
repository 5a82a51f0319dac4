/-
  ChangeFeed.Proofs.Handling — what becomes of a message, in closed form.

  What a reader does with a message is a dealing with user code: decoders are
  asked and handlers are told, each with what the one before left of the
  users' own, and the first failure ends it.  Actions of a reader are shown
  to follow such dealings one by one, and so does what is put together from
  them.  The reader itself changes in one place only: its tracker takes over
  the offset once all of it went well.

  Main results:
    * `Follows.bind` — following dealings one after the other.
    * `handle_run` — handling a message.
    * `step_run` — a step of an open reader on its source.
-/

import ChangeFeed.Proofs.Polling

namespace ChangeFeed

variable {R : Roles}

/-! ## §1. Dealings. -/

/-- What a dealing with user code comes to. -/
structure Went (R : Roles) (α : Type) where
  result : Except Raised α
  calls : List Occurrence
  own : Own R

/-- A dealing with user code: what it comes to depends on what belongs to the
    users. -/
def Dealing (R : Roles) (α : Type) : Type := Own R → Went R α

namespace Dealing

/-- One dealing after the other; a failure of the first one cuts it short. -/
def bind {α β : Type} (d : Dealing R α) (next : α → Dealing R β) : Dealing R β := fun o =>
  match (d o).result with
  | .ok a =>
    ⟨(next a (d o).own).result, (d o).calls ++ (next a (d o).own).calls, (next a (d o).own).own⟩
  | .error e => ⟨.error e, (d o).calls, (d o).own⟩

instance : Monad (Dealing R) where
  pure a := fun o => ⟨.ok a, [], o⟩
  bind := bind

theorem bind_ok {α β : Type} {d : Dealing R α} {o o' : Own R} {a : α} {calls : List Occurrence}
    (h : d o = ⟨.ok a, calls, o'⟩) (next : α → Dealing R β) :
    (d >>= next) o =
      ⟨(next a o').result, calls ++ (next a o').calls, (next a o').own⟩ := by
  show Dealing.bind d next o = _
  simp only [Dealing.bind, h]

theorem bind_error {α β : Type} {d : Dealing R α} {o o' : Own R} {e : Raised}
    {calls : List Occurrence} (h : d o = ⟨.error e, calls, o'⟩) (next : α → Dealing R β) :
    (d >>= next) o = ⟨.error e, calls, o'⟩ := by
  show Dealing.bind d next o = _
  simp only [Dealing.bind, h]

end Dealing

namespace Conduct

/-- A reader asks for a key. -/
def askKey (C : Conduct R) (r : Reader R) (data : Option Octets) : Dealing R (Option Value) :=
  fun o => ⟨(C.key r.keyDecoding data o).1, r.keyCalls data, (C.key r.keyDecoding data o).2⟩

/-- A reader asks for a value. -/
def askValue (C : Conduct R) (r : Reader R) (key : Value) (data : Octets) :
    Dealing R (Option Value) := fun o =>
  ⟨(C.value r.valueDecoding key data o).1, r.valueCalls key data,
    (C.value r.valueDecoding key data o).2⟩

/-- A reader tells of an event. -/
def tell (C : Conduct R) (r : Reader R) (e : Event) : Dealing R Unit := fun o =>
  ⟨(C.event r.onEvent e o).1, r.eventCalls e, (C.event r.onEvent e o).2⟩

/-- A reader tells of a message that reports an error. -/
def tellError (C : Conduct R) (r : Reader R) (m : Message) (code : ErrorCode) :
    Dealing R Unit := fun o =>
  ⟨(C.error r.onError m code o).1, r.errorCalls m code, (C.error r.onError m code o).2⟩

/-- What becomes of a message that reports an error. -/
def handleError (C : Conduct R) (r : Reader R) (m : Message) (code : ErrorCode) :
    Dealing R (Option Event) :=
  if isEndOfPartition (some code) then do
    C.tell r (.endReached m.partition)
    pure (some (.endReached m.partition))
  else do
    C.tellError r m code
    pure none

/-- The event that a message under a key stands for. -/
def eventOf (C : Conduct R) (r : Reader R) (m : Message) (key : Value) :
    Dealing R (Option Event) :=
  match m.payload with
  | none => pure (some (.delete m.partition key))
  | some [] => pure (some (.delete m.partition key))
  | some payload => do
    match ← C.askValue r key payload with
    | some value => pure (some (.set m.partition key value))
    | none => pure none

/-- What becomes of a message that carries a record. -/
def handleRecord (C : Conduct R) (r : Reader R) (m : Message) : Dealing R (Option Event) := do
  match ← C.askKey r m.key with
  | none => pure none
  | some key =>
    match ← C.eventOf r m key with
    | none => pure none
    | some event => do
      C.tell r event
      pure (some event)

/-- What becomes of a message. -/
def handle (C : Conduct R) (r : Reader R) (m : Message) : Dealing R (Option Event) :=
  match m.error with
  | some code => C.handleError r m code
  | none => C.handleRecord r m

end Conduct

/-- The reader after a message was handled: if that went well and the message
    carried a record, its offset is tracked. -/
def Reader.handled (r : Reader R) (m : Message) (result : Except Raised (Option Event)) :
    Reader R :=
  match m.error, result with
  | none, .ok _ => { r with tracker := r.tracker.update m.partition m.offset }
  | _, _ => r

namespace Session

/-! ## §2. Actions that follow a dealing. -/

/-- On behalf of this reader the action does what the dealing says, log entries
    aside, and changes nothing but what belongs to the users. -/
def Follows {α : Type} (serial : Nat) (r : Reader R) (act : Action R α) (d : Dealing R α) :
    Prop :=
  ∀ s : Session R, s.reader? serial = some r →
    (act.run s).1 = (d s.own).result ∧
      (act.run s).2.withoutLog = s.withoutLog.advance (d s.own).calls (d s.own).own

variable {C : Conduct R} {serial : Nat} {r : Reader R}

theorem Follows.pure {α : Type} (a : α) :
    Follows serial r (Pure.pure a : Action R α) (Pure.pure a) := by
  intro s _
  refine ⟨rfl, ?_⟩
  show s.withoutLog = _
  exact (advance_nil s.withoutLog).symm

/-- **One action after the other follows one dealing after the other.** -/
theorem Follows.bind {α β : Type} {act : Action R α} {d : Dealing R α} {next : α → Action R β}
    {dnext : α → Dealing R β} (h : Follows serial r act d)
    (hnext : ∀ a, Follows serial r (next a) (dnext a)) :
    Follows serial r (act >>= next) (d >>= dnext) := by
  intro s hr
  obtain ⟨hresult, hstate⟩ := h s hr
  rcases hact : act.run s with ⟨result, s'⟩
  rcases hd : d s.own with ⟨dresult, calls, o⟩
  rw [hact, hd] at hresult hstate
  obtain rfl : result = dresult := hresult
  change s'.withoutLog = s.withoutLog.advance calls o at hstate
  cases result with
  | error e =>
    rw [Action.run_bind_error hact, Dealing.bind_error hd]
    exact ⟨rfl, hstate⟩
  | ok a =>
    -- the reader has not changed, so the next action follows its dealing too
    have hr' : s'.reader? serial = some r := (reader?_of_withoutLog hstate serial).trans hr
    obtain ⟨hresult', hstate'⟩ := hnext a s' hr'
    rw [own_of_withoutLog hstate] at hresult' hstate'
    rw [Action.run_bind_ok hact, Dealing.bind_ok hd]
    refine ⟨hresult', ?_⟩
    rw [hstate', hstate, advance_advance]

/-- Log entries make no difference. -/
theorem Follows.log_bind {α : Type} {act : Action R α} {d : Dealing R α} (entry : Log.Entry)
    (h : Follows serial r act d) : Follows serial r (do Action.log entry; act) d := by
  intro s hr
  rw [Action.run_bind_ok (Action.run_log entry s)]
  have hrun := h (s.enterLog entry) ((reader?_enterLog s entry serial).trans hr)
  rwa [withoutLog_enterLog, own_enterLog] at hrun

theorem follows_decodeKey (C : Conduct R) (data : Option Octets) :
    Follows serial r (decodeKey C.environment serial data) (C.askKey r data) := by
  intro s hr
  rw [decodeKey_run C hr]
  refine ⟨rfl, ?_⟩
  exact withoutLog_advance_of _ _ (r.isLog_keyCalls data)

theorem follows_decodeValue (C : Conduct R) (key : Value) (data : Octets) :
    Follows serial r (decodeValue C.environment serial key data) (C.askValue r key data) := by
  intro s hr
  rw [decodeValue_run C hr]
  refine ⟨rfl, ?_⟩
  exact withoutLog_advance_of _ _ (r.isLog_valueCalls key data)

theorem follows_emit (C : Conduct R) (e : Event) :
    Follows serial r (emit C.environment serial e) (C.tell r e) := by
  intro s hr
  rw [emit_run C hr]
  refine ⟨rfl, ?_⟩
  exact withoutLog_advance_of _ _ (r.isLog_eventCalls e)

theorem follows_report (C : Conduct R) (m : Message) (code : ErrorCode) :
    Follows serial r (report C.environment serial m code) (C.tellError r m code) :=
  fun _ hr => report_run C hr m code

/-! ## §3. Handling a message. -/

theorem follows_handleError (C : Conduct R) (m : Message) (code : ErrorCode) :
    Follows serial r (handleError C.environment serial m code) (C.handleError r m code) := by
  unfold handleError Conduct.handleError
  split
  · exact (follows_emit C _).bind fun _ => .pure _
  · exact (follows_report C m code).bind fun _ => .pure _

theorem follows_eventOf (C : Conduct R) (m : Message) (key : Value) :
    Follows serial r (eventOf C.environment serial m key) (C.eventOf r m key) := by
  unfold eventOf Conduct.eventOf
  cases m.payload with
  | none => exact .pure _
  | some payload =>
    cases payload with
    | nil => exact .pure _
    | cons octet rest =>
      refine (follows_decodeValue C key _).bind fun value => ?_
      cases value with
      | none => exact .log_bind _ (.pure _)
      | some value => exact .pure _

theorem follows_handleRecord (C : Conduct R) (m : Message) :
    Follows serial r (handleRecord C.environment serial m) (C.handleRecord r m) := by
  unfold handleRecord Conduct.handleRecord
  refine .log_bind _ ((follows_decodeKey C m.key).bind fun key => ?_)
  cases key with
  | none => exact .log_bind _ (.pure _)
  | some key =>
    refine (follows_eventOf C m key).bind fun event => ?_
    cases event with
    | none => exact .pure _
    | some event => exact (follows_emit C event).bind fun _ => .pure _

/-- **Handling a message, in closed form.** -/
theorem handle_run (C : Conduct R) {s : Session R} (hr : s.reader? serial = some r)
    (m : Message) :
    s.ComesTo serial (handle C.environment serial m)
      ⟨(C.handle r m s.own).result, r.handled m (C.handle r m s.own).result,
        (C.handle r m s.own).calls, (C.handle r m s.own).own⟩ := by
  unfold ComesTo handle Conduct.handle
  cases herror : m.error with
  | some code =>
    obtain ⟨hresult, hstate⟩ := follows_handleError C m code s hr
    refine ⟨hresult, ?_⟩
    -- an error never moves what is tracked
    have hsame : r.handled m (C.handleError r m code s.own).result = r := by
      simp only [Reader.handled, herror]
    show _ = (s.withoutLog.putReader serial
      (r.handled m (C.handleError r m code s.own).result)).advance _ _
    rw [hsame, putReader_self (s := s.withoutLog) hr]
    exact hstate
  | none =>
    obtain ⟨hresult, hstate⟩ := follows_handleRecord C m s hr
    rcases hact : (handleRecord C.environment serial m).run s with ⟨result, s'⟩
    rw [hact] at hresult hstate
    change s'.withoutLog = _ at hstate
    simp only
    rw [← hresult]
    cases result with
    | error e =>
      rw [Action.run_bind_error hact]
      have hsame : r.handled m (.error e) = r := by simp only [Reader.handled, herror]
      refine ⟨rfl, ?_⟩
      rw [hsame, putReader_self (s := s.withoutLog) hr]
      exact hstate
    | ok event =>
      rw [Action.run_bind_ok hact]
      refine ⟨rfl, ?_⟩
      -- the tracker takes over the offset only now, when all went well
      have htracked : r.handled m (.ok event) =
          { r with tracker := r.tracker.update m.partition m.offset } := by
        simp only [Reader.handled, herror]
      show (s'.modifyReader serial _).withoutLog = _
      rw [withoutLog_modifyReader, hstate, modifyReader_advance,
        modifyReader_eq_putReader (s := s.withoutLog) hr, htracked]

end Session

/-! ## §4. Steps. -/

/-- A step of a reader above `base`: a poll, and what becomes of the message. -/
def Conduct.step (C : Conduct R) (feed : Feed) (base : Listener) (r : Reader R)
    (timeout : Option Timeout) (turn : Turn) (o : Own R) : Outcome R (Option Event) :=
  let q := C.poll feed base r (timeout.or r.timeout) turn o
  match q.result with
  | .error e => { q with result := .error e }
  | .ok none => { q with result := .ok none }
  | .ok (some m) =>
    let w := C.handle q.reader m q.own
    ⟨w.result, q.reader.handled m w.result, q.calls ++ w.calls, w.own⟩

namespace Session

variable {C : Conduct R} {s : Session R} {serial : Nat} {base : Listener} {r : Reader R}

/-- What comes of something done is done to that reader alone. -/
theorem ComesTo.stands {α : Type} {act : Action R α} {c : Outcome R α}
    (h : s.ComesTo serial act c) (hs : s.Stands serial base r) (hopen : c.reader.closed = false) :
    (act.run s).2.Stands serial base c.reader := by
  refine ⟨hs.foreign, ?_, ?_, hopen⟩
  · exact (installed_of_withoutLog h.2).trans hs.installed
  · rw [reader?_of_withoutLog h.2]
    exact reader?_putReader_self (s := s.withoutLog) hs.reader c.reader

theorem ComesTo.own {α : Type} {act : Action R α} {c : Outcome R α}
    (h : s.ComesTo serial act c) : (act.run s).2.own = c.own :=
  own_of_withoutLog h.2

/-- What a poll makes of a reader is open if the reader was. -/
theorem closed_poll (C : Conduct R) (feed : Feed) (base : Listener) (r : Reader R)
    (timeout : Option Timeout) (turn : Turn) (o : Own R) :
    (C.poll feed base r timeout turn o).reader.closed = r.closed := by
  unfold Conduct.poll
  cases turn.delivered feed <;> rfl

theorem closed_handled (r : Reader R) (m : Message) (result : Except Raised (Option Event)) :
    (r.handled m result).closed = r.closed := by
  unfold Reader.handled
  cases m.error <;> cases result <;> rfl

theorem closed_step (C : Conduct R) (feed : Feed) (base : Listener) (r : Reader R)
    (timeout : Option Timeout) (turn : Turn) (o : Own R) :
    (C.step feed base r timeout turn o).reader.closed = r.closed := by
  rw [← closed_poll C feed base r (timeout.or r.timeout) turn o]
  unfold Conduct.step
  generalize C.poll feed base r (timeout.or r.timeout) turn o = q
  obtain ⟨result, reader, calls, own⟩ := q
  match result with
  | .error e => rfl
  | .ok none => rfl
  | .ok (some m) => exact closed_handled reader m _

/-- **A step of an open reader on its source, in closed form.** -/
theorem step_run (hC : C.Copes base r) (hs : s.Stands serial base r) (timeout : Option Timeout)
    (turn : Turn) :
    s.ComesTo serial (step C.environment serial timeout turn)
      (C.step s.feed base r timeout turn s.own) := by
  have htimeout : s.effectiveTimeout serial timeout = timeout.or r.timeout := by
    simp only [effectiveTimeout, hs.reader, Option.bind_some]
  have hpoll := poll_run hC hs (timeout.or r.timeout) turn
  have hstands := hpoll.stands hs (by rw [closed_poll, hs.isOpen])
  have hown := hpoll.own
  obtain ⟨hresult, hstate⟩ := hpoll
  unfold ComesTo step Conduct.step
  simp only [Action.run_get_bind, htimeout]
  generalize C.poll s.feed base r (timeout.or r.timeout) turn s.own = q
    at hresult hstate hstands hown ⊢
  rcases hact : (poll C.environment (timeout.or r.timeout) turn).run s with ⟨result, s'⟩
  rw [hact] at hresult hstate hstands hown
  obtain ⟨qresult, qreader, qcalls, qown⟩ := q
  obtain rfl : result = qresult := hresult
  simp only at hstate hstands hown ⊢
  cases result with
  | error e =>
    rw [Action.run_bind_error hact]
    exact ⟨rfl, hstate⟩
  | ok message =>
    rw [Action.run_bind_ok hact]
    cases message with
    | none => exact ⟨rfl, hstate⟩
    | some m =>
      -- it is handled by the reader as the poll has left it
      obtain ⟨hhandled, hhandledState⟩ := handle_run C hstands.reader m
      rw [hown] at hhandled hhandledState
      refine ⟨hhandled, ?_⟩
      rw [hhandledState, hstate, putReader_advance, putReader_putReader, advance_advance]

end Session

end ChangeFeed
