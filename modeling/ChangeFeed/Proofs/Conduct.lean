/-
  ChangeFeed.Proofs.Conduct — user code that keeps to itself.

  A session may be handed user code of any kind.  Most of what can be said of
  readers is said of code that does not act on them: decoders, handlers and
  listeners that see what they are given and what is their own, change only
  that, and succeed or fail.  A `Conduct` says what each of them does; its
  environment runs them on a session.

  What a reader does with user code then comes to a closed form: the outcome,
  the occurrences that it leaves and what the code has made of its own.

  Main results:
    * `emit_run`, `report_run` — telling the handlers of a reader.
    * `decodeKey_run`, `decodeValue_run` — asking its decoders.
-/

import ChangeFeed.Proofs.Actions

namespace ChangeFeed

variable {R : Roles}

/-! ## §1. What belongs to the users. -/

/-- The part of a session that is the users' own: what their code remembers
    and whether their client is to go on. -/
structure Own (R : Roles) where
  memory : R.Memory
  running : Bool

namespace Session

/-- What belongs to the users of a session. -/
def own (s : Session R) : Own R := ⟨s.memory, s.running⟩

/-- The session after something was done that leaves readers and source
    alone: occurrences `done`, and `o` in place of what the users had. -/
def advance (s : Session R) (done : List Occurrence) (o : Own R) : Session R :=
  { s with journal := s.journal ++ done, memory := o.memory, running := o.running }

@[simp] theorem readers_advance (s : Session R) (done : List Occurrence) (o : Own R) :
    (s.advance done o).readers = s.readers := rfl

@[simp] theorem feed_advance (s : Session R) (done : List Occurrence) (o : Own R) :
    (s.advance done o).feed = s.feed := rfl

@[simp] theorem installed_advance (s : Session R) (done : List Occurrence) (o : Own R) :
    (s.advance done o).installed = s.installed := rfl

@[simp] theorem journal_advance (s : Session R) (done : List Occurrence) (o : Own R) :
    (s.advance done o).journal = s.journal ++ done := rfl

@[simp] theorem own_advance (s : Session R) (done : List Occurrence) (o : Own R) :
    (s.advance done o).own = o := rfl

@[simp] theorem own_withoutLog (s : Session R) : s.withoutLog.own = s.own := rfl

@[simp] theorem own_enter (s : Session R) (o : Occurrence) : (s.enter o).own = s.own := rfl

@[simp] theorem own_enterLog (s : Session R) (entry : Log.Entry) :
    (s.enterLog entry).own = s.own := by
  rw [← own_withoutLog, withoutLog_enterLog, own_withoutLog]

theorem enter_eq_advance (s : Session R) (o : Occurrence) :
    s.enter o = s.advance [o] s.own := rfl

@[simp] theorem advance_nil (s : Session R) : s.advance [] s.own = s := by
  simp [advance, own]

@[simp] theorem advance_advance (s : Session R) (done more : List Occurrence) (o p : Own R) :
    (s.advance done o).advance more p = s.advance (done ++ more) p := by
  simp [advance]

theorem modifyReader_advance (s : Session R) (done : List Occurrence) (o : Own R)
    (serial : Nat) (change : Reader R → Reader R) :
    (s.advance done o).modifyReader serial change =
      (s.modifyReader serial change).advance done o := rfl

/-- Of what was done, log entries are struck. -/
theorem withoutLog_advance (s : Session R) (done : List Occurrence) (o : Own R) :
    (s.advance done o).withoutLog =
      s.withoutLog.advance (done.filter fun d => !d.isLog) o := by
  simp [withoutLog, advance, deeds]

/-! What is known of a session up to its log entries. -/

section

variable {s b : Session R} {done : List Occurrence} {o : Own R}

theorem readers_of_withoutLog (h : s.withoutLog = b.advance done o) : s.readers = b.readers := by
  rw [← readers_withoutLog, h, readers_advance]

theorem reader?_of_withoutLog (h : s.withoutLog = b.advance done o) (serial : Nat) :
    s.reader? serial = b.reader? serial := by
  unfold reader?
  rw [readers_of_withoutLog h]

theorem own_of_withoutLog (h : s.withoutLog = b.advance done o) : s.own = o := by
  rw [← own_withoutLog, h, own_advance]

theorem installed_of_withoutLog (h : s.withoutLog = b.advance done o) :
    s.installed = b.installed := by
  rw [← installed_withoutLog, h, installed_advance]

theorem feed_of_withoutLog (h : s.withoutLog = b.advance done o) : s.feed = b.feed := by
  rw [← feed_withoutLog, h, feed_advance]

theorem deeds_of_withoutLog (h : s.withoutLog = b.advance done o) :
    s.deeds = b.journal ++ done := by
  rw [← journal_withoutLog, h, journal_advance]

end

/-- Where there are no log entries, none are struck. -/
theorem withoutLog_advance_of (s : Session R) {done : List Occurrence} (o : Own R)
    (h : ∀ d ∈ done, d.isLog = false) :
    (s.advance done o).withoutLog = s.withoutLog.advance done o := by
  rw [withoutLog_advance, List.filter_eq_self.2 fun d hd => by simp [h d hd]]

end Session

/-! ## §2. Conducts. -/

/-- What user code does that keeps to itself: from what it is given and what
    is its own, an outcome and what it leaves of its own. -/
structure Conduct (R : Roles) where
  decodeKey : R.KeyDecoder → Option Octets → Own R → Except Raised (Option Value) × Own R
  decodeValue : R.ValueDecoder → Value → Octets → Own R → Except Raised (Option Value) × Own R
  onEvent : R.EventHandler → Event → Own R → Except Raised Unit × Own R
  onError : R.ErrorHandler → Message → ErrorCode → Own R → Except Raised Unit × Own R
  /-- A foreign listener, by name: it may write to the assignment and fail. -/
  onAssignment : String → Assignment → Own R → Notified × Own R
  onCreate : Own R → Except Raised Unit × Own R
  onSubscribe : List String → Own R → Except Raised Unit × Own R
  onAssign : Assignment → Own R → Except Raised Unit × Own R
  onClose : Own R → Except Raised Unit × Own R
  onSleep : Double → Own R → Except Raised Unit × Own R

namespace Conduct

/-- Something done with what belongs to the users, as a change of the
    session. -/
def onOwn {α : Type} (f : Own R → α × Own R) : StateM (Session R) α := fun s =>
  ((f s.own).1, s.advance [] (f s.own).2)

/-- The environment in which user code conducts itself in this way. -/
def environment (C : Conduct R) : Environment R where
  decodeKey d data := ExceptT.mk (onOwn (C.decodeKey d data))
  decodeValue d key data := ExceptT.mk (onOwn (C.decodeValue d key data))
  onEvent h e := ExceptT.mk (onOwn (C.onEvent h e))
  onError h m code := ExceptT.mk (onOwn (C.onError h m code))
  onAssignment name a := onOwn (C.onAssignment name a)
  onCreate := ExceptT.mk (onOwn C.onCreate)
  onSubscribe topics := ExceptT.mk (onOwn (C.onSubscribe topics))
  onAssign a := ExceptT.mk (onOwn (C.onAssign a))
  onClose := ExceptT.mk (onOwn C.onClose)
  onSleep seconds := ExceptT.mk (onOwn (C.onSleep seconds))

/-- Handlers and listeners fail in ordinary ways only, if they fail. -/
structure Ordinary (C : Conduct R) : Prop where
  event : ∀ h e o f, (C.onEvent h e o).1 = .error f → f.isOrdinary = true
  assignment : ∀ name a o f, (C.onAssignment name a o).1.failure = some f → f.isOrdinary = true

/-- The key that a way of decoding makes of octets. -/
def key (C : Conduct R) (d : Decoding R.KeyDecoder) (data : Option Octets) (o : Own R) :
    Except Raised (Option Value) × Own R :=
  match d with
  | .raw => (.ok (data.map .octets), o)
  | .text => (.ok ((Session.decodeText data).map .text), o)
  | .custom decoder => C.decodeKey decoder data o

/-- The value that a way of decoding makes of octets under a key. -/
def value (C : Conduct R) (d : Decoding R.ValueDecoder) (key : Value) (data : Octets)
    (o : Own R) : Except Raised (Option Value) × Own R :=
  match d with
  | .raw => (.ok (some (.octets data)), o)
  | .text => (.ok ((Session.decodeText (some data)).map .text), o)
  | .custom decoder => C.decodeValue decoder key data o

/-- What comes of telling a handler of an event. -/
def event (C : Conduct R) (h : Handling R.EventHandler) (e : Event) (o : Own R) :
    Except Raised Unit × Own R :=
  match h with
  | .ignore => (.ok (), o)
  | .print => (.ok (), o)
  | .custom handler => C.onEvent handler e o

/-- What comes of telling a handler of a message that reports an error. -/
def error (C : Conduct R) (h : Handling R.ErrorHandler) (m : Message) (code : ErrorCode)
    (o : Own R) : Except Raised Unit × Own R :=
  match h with
  | .ignore => (.ok (), o)
  | .print => (.ok (), o)
  | .custom handler => C.onError handler m code o

/-- The handler fails in ordinary ways only, if it fails. -/
def OrdinaryAt (C : Conduct R) (h : Handling R.EventHandler) : Prop :=
  ∀ e o f, (C.event h e o).1 = .error f → f.isOrdinary = true

theorem Ordinary.ordinaryAt {C : Conduct R} (hC : C.Ordinary) (h : Handling R.EventHandler) :
    C.OrdinaryAt h := by
  intro e o f hf
  cases h with
  | ignore => cases hf
  | print => cases hf
  | custom handler => exact hC.event handler e o f hf

end Conduct

/-! ## §3. What a reader's calls leave in the journal. -/

namespace Reader

/-- Asking the key decoder. -/
def keyCalls (r : Reader R) (data : Option Octets) : List Occurrence :=
  match r.keyDecoding with
  | .custom _ => [.decodeKey r.name data]
  | _ => []

/-- Asking the value decoder. -/
def valueCalls (r : Reader R) (key : Value) (data : Octets) : List Occurrence :=
  match r.valueDecoding with
  | .custom _ => [.decodeValue r.name key data]
  | _ => []

/-- Telling the handler of an event. -/
def eventCalls (r : Reader R) (e : Event) : List Occurrence :=
  match r.onEvent with
  | .ignore => []
  | .print => [.printed e.line]
  | .custom _ => [.event r.name e]

/-- Telling the handler of a message that reports an error. -/
def errorCalls (r : Reader R) (m : Message) (code : ErrorCode) : List Occurrence :=
  match r.onError with
  | .ignore => []
  | .print => [.complained (Session.errorLine m code)]
  | .custom _ => [.error r.name m.partition code]

theorem isLog_eventCalls (r : Reader R) (e : Event) :
    ∀ d ∈ r.eventCalls e, d.isLog = false := by
  intro d hd
  cases h : r.onEvent <;> simp only [eventCalls, h, List.mem_singleton, List.not_mem_nil] at hd <;>
    rw [hd] <;> rfl

theorem isLog_keyCalls (r : Reader R) (data : Option Octets) :
    ∀ d ∈ r.keyCalls data, d.isLog = false := by
  intro d hd
  cases h : r.keyDecoding <;> simp only [keyCalls, h, List.mem_singleton, List.not_mem_nil] at hd
  rw [hd]
  rfl

theorem isLog_valueCalls (r : Reader R) (key : Value) (data : Octets) :
    ∀ d ∈ r.valueCalls key data, d.isLog = false := by
  intro d hd
  cases h : r.valueDecoding <;>
    simp only [valueCalls, h, List.mem_singleton, List.not_mem_nil] at hd
  rw [hd]
  rfl

end Reader

namespace Session

variable (C : Conduct R) {s : Session R} {serial : Nat} {r : Reader R}

/-! ## §4. Closed forms. -/

theorem decodeKey_run (hr : s.reader? serial = some r) (data : Option Octets) :
    (decodeKey C.environment serial data).run s =
      ((C.key r.keyDecoding data s.own).1,
        s.advance (r.keyCalls data) (C.key r.keyDecoding data s.own).2) := by
  simp only [decodeKey, Action.run_get_bind, hr]
  cases h : r.keyDecoding with
  | raw => simp [Conduct.key, Reader.keyCalls, h, Action.run_pure]
  | text => simp [Conduct.key, Reader.keyCalls, h, Action.run_pure]
  | custom decoder =>
    show (_, (s.enter _).advance [] _) = _
    simp [Conduct.key, Reader.keyCalls, h, enter_eq_advance]

theorem decodeValue_run (hr : s.reader? serial = some r) (key : Value) (data : Octets) :
    (decodeValue C.environment serial key data).run s =
      ((C.value r.valueDecoding key data s.own).1,
        s.advance (r.valueCalls key data) (C.value r.valueDecoding key data s.own).2) := by
  simp only [decodeValue, Action.run_get_bind, hr]
  cases h : r.valueDecoding with
  | raw => simp [Conduct.value, Reader.valueCalls, h, Action.run_pure]
  | text => simp [Conduct.value, Reader.valueCalls, h, Action.run_pure]
  | custom decoder =>
    show (_, (s.enter _).advance [] _) = _
    simp [Conduct.value, Reader.valueCalls, h, enter_eq_advance]

theorem emit_run (hr : s.reader? serial = some r) (e : Event) :
    (emit C.environment serial e).run s =
      ((C.event r.onEvent e s.own).1,
        s.advance (r.eventCalls e) (C.event r.onEvent e s.own).2) := by
  simp only [emit, Action.run_get_bind, hr]
  cases h : r.onEvent with
  | ignore => simp [Conduct.event, Reader.eventCalls, h, Action.run_pure]
  | print =>
    show (_, s.enter _) = _
    simp [Conduct.event, Reader.eventCalls, h, enter_eq_advance]
  | custom handler =>
    show (_, (s.enter _).advance [] _) = _
    simp [Conduct.event, Reader.eventCalls, h, enter_eq_advance]

/-- An error that nobody handles leaves a log entry, and nothing else. -/
theorem report_run (hr : s.reader? serial = some r) (m : Message) (code : ErrorCode) :
    ((report C.environment serial m code).run s).1 = (C.error r.onError m code s.own).1 ∧
      ((report C.environment serial m code).run s).2.withoutLog =
        s.withoutLog.advance (r.errorCalls m code) (C.error r.onError m code s.own).2 := by
  simp only [report, Action.run_get_bind, hr]
  cases h : r.onError with
  | ignore =>
    refine ⟨rfl, ?_⟩
    show (s.enterLog _).withoutLog = _
    rw [withoutLog_enterLog]
    simpa [Conduct.error, Reader.errorCalls, h] using (advance_nil s.withoutLog).symm
  | print =>
    refine ⟨rfl, ?_⟩
    show (s.enter _).withoutLog = _
    rw [withoutLog_enter _ rfl, enter_eq_advance]
    simp [Conduct.error, Reader.errorCalls, h]
  | custom handler =>
    refine ⟨rfl, ?_⟩
    show ((s.enter _).advance [] _).withoutLog = _
    rw [withoutLog_advance, withoutLog_enter _ rfl, enter_eq_advance]
    simp [Conduct.error, Reader.errorCalls, h]

end Session

end ChangeFeed
