/-
  ChangeFeed.Proofs.Discretion — user code that looks but does not touch.

  A conduct sees what is given to it and what is its own.  Here user code may
  look at the whole session besides, at what readers track for one thing; it
  is discreet if it changes nothing but what belongs to the users.  That is
  enough to say what a reader's calls leave behind, and since such code can
  look, it makes a difference to it what had been done when it was called.

  Main results:
    * `Becomes.trans` — one change of a session after the other.
    * `becomes_decodeKey`, `becomes_decodeValue`, `becomes_emit`,
      `becomes_report` — what the calls of a reader leave behind.
    * `Conduct.discreet` — a conduct is discreet.
-/

import ChangeFeed.Proofs.Sweep

namespace ChangeFeed

variable {R : Roles}

/-! ## §1. Discreet code. -/

/-- The code may look at all of a session.  What it changes belongs to the
    users. -/
def Discreet {α : Type} (act : StateM (Session R) α) : Prop :=
  ∀ s, ∃ o, (act.run s).2 = s.advance [] o

/-- The handler that a reader tells of events is discreet, if it has one. -/
def Reader.TellsDiscreetly (E : Environment R) (r : Reader R) : Prop :=
  ∀ h, r.onEvent = .custom h → ∀ e, ChangeFeed.Discreet (E.onEvent h e).run

/-- All of a reader's decoders and handlers are discreet. -/
structure Reader.Discreet (E : Environment R) (r : Reader R) : Prop where
  key : ∀ d, r.keyDecoding = .custom d → ∀ data, ChangeFeed.Discreet (E.decodeKey d data).run
  value : ∀ d, r.valueDecoding = .custom d → ∀ key data,
    ChangeFeed.Discreet (E.decodeValue d key data).run
  event : r.TellsDiscreetly E
  error : ∀ h, r.onError = .custom h → ∀ m code, ChangeFeed.Discreet (E.onError h m code).run

/-- All user code that a rebalance calls is discreet. -/
structure Environment.Discreet (E : Environment R) : Prop where
  event : ∀ h e, ChangeFeed.Discreet (E.onEvent h e).run
  assignment : ∀ name a, ChangeFeed.Discreet (E.onAssignment name a)
  assign : ∀ a, ChangeFeed.Discreet (E.onAssign a).run

theorem Environment.Discreet.tells {E : Environment R} (hE : E.Discreet) (r : Reader R) :
    r.TellsDiscreetly E := fun h _ e => hE.event h e

namespace Conduct

theorem discreet_onOwn {α : Type} (f : Own R → α × Own R) : ChangeFeed.Discreet (onOwn f) :=
  fun s => ⟨(f s.own).2, rfl⟩

/-- A conduct does not even look. -/
theorem discreet (C : Conduct R) : C.environment.Discreet :=
  ⟨fun _ _ => discreet_onOwn _, fun _ _ => discreet_onOwn _, fun _ => discreet_onOwn _⟩

theorem reader_discreet (C : Conduct R) (r : Reader R) : r.Discreet C.environment :=
  ⟨fun _ _ _ => discreet_onOwn _, fun _ _ _ _ => discreet_onOwn _, fun _ _ _ => discreet_onOwn _,
    fun _ _ _ _ => discreet_onOwn _⟩

end Conduct

namespace Session

/-! ## §2. How a session changes on behalf of a reader. -/

/-- Log entries aside, and whatever the users have made of their own, `t` is
    the session `s` with `r` under a serial and with `done` behind it. -/
def Becomes (s : Session R) (serial : Nat) (r : Reader R) (done : List Occurrence)
    (t : Session R) : Prop :=
  ∃ o, t.withoutLog = (s.withoutLog.putReader serial r).advance done o

namespace Becomes

variable {s t u : Session R} {serial : Nat} {r₀ r r' : Reader R} {done more : List Occurrence}

theorem refl (hr : s.reader? serial = some r) : s.Becomes serial r [] s := by
  refine ⟨s.own, ?_⟩
  rw [putReader_self (s := s.withoutLog) hr]
  exact (advance_nil s.withoutLog).symm

/-- One change after the other. -/
theorem trans (h : s.Becomes serial r done t) (h' : t.Becomes serial r' more u) :
    s.Becomes serial r' (done ++ more) u := by
  obtain ⟨o, ho⟩ := h
  obtain ⟨o', ho'⟩ := h'
  refine ⟨o', ?_⟩
  rw [ho', ho, putReader_advance, putReader_putReader, advance_advance]

/-- Log entries make no difference. -/
theorem of_withoutLog (h : s.Becomes serial r done t) (hlog : u.withoutLog = t.withoutLog) :
    s.Becomes serial r done u := by
  obtain ⟨o, ho⟩ := h
  exact ⟨o, hlog.trans ho⟩

theorem enterLog (h : s.Becomes serial r done t) (entry : Log.Entry) :
    s.Becomes serial r done (t.enterLog entry) := h.of_withoutLog (withoutLog_enterLog t entry)

/-- The reader is changed once more. -/
theorem putReader (h : s.Becomes serial r done t) (r' : Reader R) :
    s.Becomes serial r' done (t.putReader serial r') := by
  obtain ⟨o, ho⟩ := h
  refine ⟨o, ?_⟩
  rw [withoutLog_putReader, ho, putReader_advance, putReader_putReader]

theorem reader? (h : s.Becomes serial r done t) (hr : s.reader? serial = some r₀) :
    t.reader? serial = some r := by
  obtain ⟨o, ho⟩ := h
  rw [reader?_of_withoutLog ho]
  exact reader?_putReader_self (s := s.withoutLog) hr r

theorem tracker (h : s.Becomes serial r done t) (hr : s.reader? serial = some r₀) :
    t.tracker serial = r.tracker := tracker_of_reader? (h.reader? hr)

theorem deeds (h : s.Becomes serial r done t) : t.deeds = s.deeds ++ done := by
  obtain ⟨o, ho⟩ := h
  exact deeds_of_withoutLog ho

end Becomes

/-! ## §3. What a reader's calls leave behind. -/

variable {E : Environment R} {s : Session R} {serial : Nat} {r : Reader R}

/-- A call of discreet code: it is entered in the journal, and that is all. -/
theorem becomes_call {α : Type} {act : Action R α} (h : ChangeFeed.Discreet act.run)
    (hr : s.reader? serial = some r) {o : Occurrence} (ho : o.isLog = false) :
    s.Becomes serial r [o] ((do Action.record o; act : Action R α).run s).2 := by
  rw [Action.run_bind_ok (Action.run_record o s)]
  obtain ⟨own, hown⟩ := h (s.enter o)
  change (act.run (s.enter o)).2 = _ at hown
  refine ⟨own, ?_⟩
  rw [hown, withoutLog_advance, withoutLog_enter s ho, putReader_self (s := s.withoutLog) hr,
    enter_eq_advance, advance_advance]
  rfl

theorem becomes_decodeKey (h : r.Discreet E) (hr : s.reader? serial = some r)
    (data : Option Octets) :
    s.Becomes serial r (r.keyCalls data) ((decodeKey E serial data).run s).2 := by
  simp only [decodeKey, Action.run_get_bind, hr, Reader.keyCalls]
  cases hd : r.keyDecoding with
  | raw => exact .refl hr
  | text => exact .refl hr
  | custom d => exact becomes_call (h.key d hd data) hr rfl

theorem becomes_decodeValue (h : r.Discreet E) (hr : s.reader? serial = some r) (key : Value)
    (data : Octets) :
    s.Becomes serial r (r.valueCalls key data) ((decodeValue E serial key data).run s).2 := by
  simp only [decodeValue, Action.run_get_bind, hr, Reader.valueCalls]
  cases hd : r.valueDecoding with
  | raw => exact .refl hr
  | text => exact .refl hr
  | custom d => exact becomes_call (h.value d hd key data) hr rfl

theorem becomes_emit (h : r.TellsDiscreetly E) (hr : s.reader? serial = some r) (e : Event) :
    s.Becomes serial r (r.eventCalls e) ((emit E serial e).run s).2 := by
  simp only [emit, Action.run_get_bind, hr, Reader.eventCalls]
  cases hd : r.onEvent with
  | ignore => exact .refl hr
  | print =>
    refine ⟨s.own, ?_⟩
    show (s.enter _).withoutLog = _
    rw [withoutLog_enter s rfl, putReader_self (s := s.withoutLog) hr, enter_eq_advance]
    rfl
  | custom handler => exact becomes_call (h handler hd e) hr rfl

theorem becomes_report (h : r.Discreet E) (hr : s.reader? serial = some r) (m : Message)
    (code : ErrorCode) :
    s.Becomes serial r (r.errorCalls m code) ((report E serial m code).run s).2 := by
  simp only [report, Action.run_get_bind, hr, Reader.errorCalls]
  cases hd : r.onError with
  | ignore => exact (Becomes.refl hr).enterLog _
  | print =>
    refine ⟨s.own, ?_⟩
    show (s.enter _).withoutLog = _
    rw [withoutLog_enter s rfl, putReader_self (s := s.withoutLog) hr, enter_eq_advance]
    rfl
  | custom handler => exact becomes_call (h.error handler hd m code) hr rfl

end Session

end ChangeFeed
