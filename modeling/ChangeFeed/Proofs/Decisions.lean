/-
  ChangeFeed.Proofs.Decisions — what a step of a reader does, as a table.

  A step polls the source and handles what it was given.  What becomes of a
  message depends on the error that it reports, on what the decoders make of
  it and on whether the handlers accept.  Each combination is a row of the
  table; a row says what the step comes to, which calls it made, and in which
  session each of them was made.  Decoders and handlers may look at the whole
  session, so it makes a difference that the tracker takes over the offset
  last of all; and a failure leaves it as it was.

  Main results:
    * `Reported` — telling an event, as the last thing but tracking.
    * `handle_decided` — what becomes of a message.
    * `step_follows_table` — what a step does.
-/

import ChangeFeed.Proofs.Discretion
import ChangeFeed.Proofs.Handling
import ChangeFeed.Proofs.History

namespace ChangeFeed

variable {R : Roles}

/-! ## §1. The table. -/

/-- The reader when it has read a message. -/
def Reader.past (r : Reader R) (m : Message) : Reader R :=
  { r with tracker := r.tracker.update m.partition m.offset }

/-- The message has a payload to decode. -/
def Message.Carries (m : Message) (data : Octets) : Prop := m.payload = some data ∧ data ≠ []

/-- The message has no payload, or an empty one. -/
def Message.IsEmpty (m : Message) : Prop := m.payload = none ∨ m.payload = some []

theorem Message.isEmpty_or_carries (m : Message) : m.IsEmpty ∨ ∃ data, m.Carries data := by
  cases hp : m.payload with
  | none => exact .inl (.inl hp)
  | some data =>
    cases data with
    | nil => exact .inl (.inr hp)
    | cons b bs => exact .inr ⟨b :: bs, hp, by simp⟩

namespace Session

/-- What something done comes to: its result, and the session afterwards. -/
abbrev Ending (R : Roles) (α : Type) := Except Raised α × Session R

/-- The end of a run from `s` that reports an event: after `calls`, the handler
    is told of it in `s'`, where the reader is still `r`.  If that goes well
    the event is returned, and the reader becomes `r'`. -/
structure Reported (E : Environment R) (serial : Nat) (r r' : Reader R) (event : Event)
    (calls : List Occurrence) (s s' : Session R) (run : Ending R (Option Event)) : Prop where
  before : s.Becomes serial r calls s'
  /-- The handler is told once, if there is one. -/
  after : s.Becomes serial r (calls ++ r.eventCalls event) ((emit E serial event).run s').2
  accepted : ((emit E serial event).run s').1 = .ok () →
    run = (.ok (some event), ((emit E serial event).run s').2.putReader serial r')
  refused : ∀ e, ((emit E serial event).run s').1 = .error e →
    run = (.error e, ((emit E serial event).run s').2)

/-- The rows for a message that carries `data` under `key`; `asked` is what
    decoding the value came to, after the key. -/
structure ValueDecided (E : Environment R) (serial : Nat) (r : Reader R) (m : Message)
    (key : Value) (data : Octets) (s : Session R) (asked : Ending R (Option Value))
    (run : Ending R (Option Event)) : Prop where
  /-- The value decoder was asked once. -/
  calls : s.Becomes serial r (r.keyCalls m.key ++ r.valueCalls key data) asked.2
  failed : ∀ e, asked.1 = .error e → run = (.error e, asked.2)
  undecodable : asked.1 = .ok none →
    run = (.ok none,
      (asked.2.enterLog (messageLog "Cannot decode value" m)).putReader serial (r.past m))
  set : ∀ value, asked.1 = .ok (some value) →
    Reported E serial r (r.past m) (.set m.partition key value)
      (r.keyCalls m.key ++ r.valueCalls key data) s asked.2 run

/-- The rows for a message that carries a record; `asked` is what decoding its
    key came to. -/
structure RecordDecided (E : Environment R) (serial : Nat) (r : Reader R) (m : Message)
    (s : Session R) (asked : Ending R (Option Value)) (run : Ending R (Option Event)) : Prop where
  /-- The key decoder was asked once. -/
  calls : s.Becomes serial r (r.keyCalls m.key) asked.2
  failed : ∀ e, asked.1 = .error e → run = (.error e, asked.2)
  undecodable : asked.1 = .ok none →
    run = (.ok none,
      (asked.2.enterLog (messageLog "Cannot decode key" m)).putReader serial (r.past m))
  delete : ∀ key, asked.1 = .ok (some key) → m.IsEmpty →
    Reported E serial r (r.past m) (.delete m.partition key) (r.keyCalls m.key) s asked.2 run
  value : ∀ key data, asked.1 = .ok (some key) → m.Carries data →
    ValueDecided E serial r m key data s ((decodeValue E serial key data).run asked.2) run

/-- A record stands for an event: its key decodes, and either there is nothing
    to decode under the key or that decodes too. -/
inductive StandsFor (E : Environment R) (serial : Nat) (m : Message)
    (asked : Ending R (Option Value)) : Event → Prop where
  | delete {key : Value} (hkey : asked.1 = .ok (some key)) (hm : m.IsEmpty) :
    StandsFor E serial m asked (.delete m.partition key)
  | set {key value : Value} {data : Octets} (hkey : asked.1 = .ok (some key))
    (hm : m.Carries data)
    (hvalue : ((decodeValue E serial key data).run asked.2).1 = .ok (some value)) :
    StandsFor E serial m asked (.set m.partition key value)

/-- The table for a message, handled in `s` by a reader that is `r`. -/
structure Decided (E : Environment R) (serial : Nat) (r : Reader R) (m : Message)
    (s : Session R) (run : Ending R (Option Event)) : Prop where
  /-- The end of a partition is an event, and nothing is tracked. -/
  endReached : m.error = some .endOfPartition →
    Reported E serial r r (.endReached m.partition) [] s s run
  /-- Any other error is reported once and comes to no event. -/
  error : ∀ code, m.error = some code → code ≠ .endOfPartition →
    run = (((report E serial m code).run s).1.map fun _ => none,
      ((report E serial m code).run s).2) ∧
    s.Becomes serial r (r.errorCalls m code) run.2
  record : m.error = none → RecordDecided E serial r m s
    ((decodeKey E serial m.key).run (s.enterLog (messageLog "Handling message" m))) run
  /-- There are no other events. -/
  events : m.error = none → ∀ event, run.1 = .ok (some event) → StandsFor E serial m
    ((decodeKey E serial m.key).run (s.enterLog (messageLog "Handling message" m))) event
  /-- What is tracked of other partitions stays. -/
  tracked : ∀ q, (r.past m).tracker.find? q =
    if q = m.partition then some m.offset else r.tracker.find? q

/-! ## §2. Handling a message. -/

variable {E : Environment R} {serial : Nat} {s t : Session R} {r : Reader R} {m : Message}

theorem handle_run_error {e : Raised} (herror : m.error = none)
    (hrun : (handleRecord E serial m).run s = (.error e, t)) :
    (handle E serial m).run s = (.error e, t) := by
  simp only [handle, herror]
  exact Action.run_bind_error hrun _

/-- The offset is taken over when all else went well. -/
theorem handle_run_ok {event : Option Event} (herror : m.error = none)
    (hrun : (handleRecord E serial m).run s = (.ok event, t)) (hr : t.reader? serial = some r) :
    (handle E serial m).run s = (.ok event, t.putReader serial (r.past m)) := by
  simp only [handle, herror]
  rw [Action.run_bind_ok hrun]
  show (_, t.modifyReader serial _) = _
  rw [modifyReader_eq_putReader hr]
  rfl

/-- What is left to do when it is known which event a message stands for. -/
def conclude (E : Environment R) (serial : Nat) : Option Event → Action R (Option Event)
  | none => pure none
  | some event => do
    emit E serial event
    pure (some event)

/-- A record in stages: its key is decoded first of all. -/
theorem handleRecord_run (E : Environment R) (serial : Nat) (m : Message) (s : Session R) :
    (handleRecord E serial m).run s =
      match (decodeKey E serial m.key).run (s.enterLog (messageLog "Handling message" m)) with
      | (.error e, s') => (.error e, s')
      | (.ok none, s') => (.ok none, s'.enterLog (messageLog "Cannot decode key" m))
      | (.ok (some key), s') => (eventOf E serial m key >>= conclude E serial).run s' := by
  rw [handleRecord, Action.run_bind_ok (Action.run_log _ s), Action.run_bind]
  rcases (decodeKey E serial m.key).run (s.enterLog (messageLog "Handling message" m)) with
    ⟨_ | _ | key, s'⟩
  · rfl
  · rfl
  · show (eventOf E serial m key >>= _).run s' = _
    refine congrArg (fun next => (eventOf E serial m key >>= next).run s') (funext fun event => ?_)
    cases event <;> rfl

theorem eventOf_run_empty (E : Environment R) (serial : Nat) (h : m.IsEmpty) (key : Value)
    (s : Session R) :
    (eventOf E serial m key).run s = (.ok (some (.delete m.partition key)), s) := by
  obtain h | h := h <;> simp only [eventOf, h, Action.run_pure]

theorem eventOf_run_carries (E : Environment R) (serial : Nat) {data : Octets}
    (h : m.Carries data) (key : Value) (s : Session R) :
    (eventOf E serial m key).run s =
      match (decodeValue E serial key data).run s with
      | (.error e, s') => (.error e, s')
      | (.ok none, s') => (.ok none, s'.enterLog (messageLog "Cannot decode value" m))
      | (.ok (some value), s') => (.ok (some (.set m.partition key value)), s') := by
  obtain ⟨hpayload, hne⟩ := h
  simp only [eventOf, hpayload]
  rw [Action.run_bind]
  rcases (decodeValue E serial key data).run s with ⟨_ | _ | value, s'⟩ <;> rfl

/-- An event is reported, and then the offset is taken over. -/
theorem reported_of_record {event : Event} {calls : List Occurrence} {s' : Session R}
    (herror : m.error = none) (hr : s.reader? serial = some r) (htells : r.TellsDiscreetly E)
    (hbefore : s.Becomes serial r calls s')
    (hrun : (handleRecord E serial m).run s = (conclude E serial (some event)).run s') :
    Reported E serial r (r.past m) event calls s s' ((handle E serial m).run s) := by
  have hr' := hbefore.reader? hr
  have hafter := becomes_emit htells hr' event
  refine ⟨hbefore, hbefore.trans hafter, fun hok => ?_, fun e he => ?_⟩
  · refine handle_run_ok herror (hrun.trans ?_) (hafter.reader? hr')
    exact Action.run_bind_ok (Prod.ext hok rfl) _
  · refine handle_run_error herror (hrun.trans ?_)
    exact Action.run_bind_error (Prod.ext he rfl) _

/-! ## §3. Row by row. -/

/-- The rows for a message with a payload to decode. -/
theorem value_decided {key : Value} {data : Octets} {s' : Session R} (herror : m.error = none)
    (hr : s.reader? serial = some r) (hE : r.Discreet E)
    (hkey : (decodeKey E serial m.key).run (s.enterLog (messageLog "Handling message" m)) =
      (.ok (some key), s'))
    (hbefore : s.Becomes serial r (r.keyCalls m.key) s') (hm : m.Carries data) :
    ValueDecided E serial r m key data s ((decodeValue E serial key data).run s')
      ((handle E serial m).run s) := by
  have hcalls := hbefore.trans (becomes_decodeValue hE (hbefore.reader? hr) key data)
  -- up to where the value is known, the record is handled like this
  have hrecord := handleRecord_run E serial m s
  have hevent := eventOf_run_carries E serial hm key s'
  simp only [hkey] at hrecord
  generalize (decodeValue E serial key data).run s' = asked at hcalls hevent ⊢
  obtain ⟨answer, t⟩ := asked
  refine ⟨hcalls, ?_, ?_, ?_⟩
  · rintro e rfl
    exact handle_run_error herror (hrecord.trans (Action.run_bind_error hevent _))
  · rintro rfl
    have hlogged := hcalls.enterLog (messageLog "Cannot decode value" m)
    exact handle_run_ok herror (hrecord.trans (Action.run_bind_ok hevent _)) (hlogged.reader? hr)
  · rintro value rfl
    exact reported_of_record herror hr hE.event hcalls
      (hrecord.trans (Action.run_bind_ok hevent _))

/-- The rows for a message that carries a record. -/
theorem record_decided (herror : m.error = none) (hr : s.reader? serial = some r)
    (hE : r.Discreet E) :
    RecordDecided E serial r m s
      ((decodeKey E serial m.key).run (s.enterLog (messageLog "Handling message" m)))
      ((handle E serial m).run s) := by
  have hstart := (Becomes.refl hr).enterLog (messageLog "Handling message" m)
  have hcalls := hstart.trans (becomes_decodeKey hE (hstart.reader? hr) m.key)
  have hrecord := handleRecord_run E serial m s
  rcases hkey : (decodeKey E serial m.key).run (s.enterLog (messageLog "Handling message" m)) with
    ⟨answer, s'⟩
  rw [hkey] at hcalls hrecord
  refine ⟨hcalls, ?_, ?_, ?_, ?_⟩
  · rintro e rfl
    exact handle_run_error herror hrecord
  · rintro rfl
    have hlogged := hcalls.enterLog (messageLog "Cannot decode key" m)
    exact handle_run_ok herror hrecord (hlogged.reader? hr)
  · rintro key rfl hm
    have hevent := eventOf_run_empty E serial hm key s'
    exact reported_of_record herror hr hE.event hcalls
      (hrecord.trans (Action.run_bind_ok hevent _))
  · rintro key data rfl hm
    exact value_decided herror hr hE hkey hcalls hm

/-- An event that was reported is the only one that may be returned. -/
theorem Reported.eq_of_returned {r' : Reader R} {event other : Event} {calls : List Occurrence}
    {s' : Session R} {run : Ending R (Option Event)}
    (h : Reported E serial r r' event calls s s' run) (hreturned : run.1 = .ok (some other)) :
    other = event := by
  cases htold : ((emit E serial event).run s').1 with
  | ok u =>
    rw [h.accepted htold] at hreturned
    exact (Option.some.inj (Except.ok.inj hreturned)).symm
  | error e =>
    rw [h.refused e htold] at hreturned
    cases hreturned

/-- No message is in none of the rows. -/
theorem RecordDecided.standsFor {asked : Ending R (Option Value)} {run : Ending R (Option Event)}
    (h : RecordDecided E serial r m s asked run) {event : Event}
    (hreturned : run.1 = .ok (some event)) : StandsFor E serial m asked event := by
  cases hkey : asked.1 with
  | error e =>
    rw [h.failed e hkey] at hreturned
    cases hreturned
  | ok key? =>
    cases key? with
    | none =>
      rw [h.undecodable hkey] at hreturned
      cases hreturned
    | some key =>
      obtain hm | ⟨data, hm⟩ := m.isEmpty_or_carries
      · rw [(h.delete key hkey hm).eq_of_returned hreturned]
        exact .delete hkey hm
      · have hrows := h.value key data hkey hm
        cases hvalue : ((decodeValue E serial key data).run asked.2).1 with
        | error e =>
          rw [hrows.failed e hvalue] at hreturned
          cases hreturned
        | ok value? =>
          cases value? with
          | none =>
            rw [hrows.undecodable hvalue] at hreturned
            cases hreturned
          | some value =>
            rw [(hrows.set value hvalue).eq_of_returned hreturned]
            exact .set hkey hm hvalue

/-- The row for the end of a partition. -/
theorem endReached_decided (herror : m.error = some .endOfPartition)
    (hr : s.reader? serial = some r) (htells : r.TellsDiscreetly E) :
    Reported E serial r r (.endReached m.partition) [] s s ((handle E serial m).run s) := by
  have hafter := becomes_emit htells hr (.endReached m.partition)
  have hrun : (handle E serial m).run s =
      (conclude E serial (some (.endReached m.partition))).run s := by
    simp only [handle, herror, handleError, isEndOfPartition, beq_self_eq_true, if_true]
    rfl
  refine ⟨.refl hr, hafter, fun hok => ?_, fun e he => ?_⟩
  · rw [putReader_self (hafter.reader? hr)]
    exact hrun.trans (Action.run_bind_ok (Prod.ext hok rfl) _)
  · exact hrun.trans (Action.run_bind_error (Prod.ext he rfl) _)

/-- The row for any other error. -/
theorem error_run {code : ErrorCode} (herror : m.error = some code)
    (hcode : code ≠ .endOfPartition) :
    (handle E serial m).run s = (((report E serial m code).run s).1.map fun _ => none,
      ((report E serial m code).run s).2) := by
  have hend : isEndOfPartition (some code) = false := by simpa [isEndOfPartition] using hcode
  simp only [handle, herror, handleError, hend, Bool.false_eq_true, if_false]
  rw [Action.run_bind]
  rcases (report E serial m code).run s with ⟨_ | _, t⟩ <;> rfl

/-- **What becomes of a message** is what the table says. -/
theorem handle_decided (hr : s.reader? serial = some r) (hE : r.Discreet E) (m : Message) :
    Decided E serial r m s ((handle E serial m).run s) := by
  refine ⟨fun herror => endReached_decided herror hr hE.event, fun code herror hcode => ?_,
    fun herror => record_decided herror hr hE,
    fun herror event => (record_decided herror hr hE).standsFor,
    fun q => Tracker.find?_update _ _ _ _⟩
  rw [error_run herror hcode]
  exact ⟨rfl, becomes_report hE hr m code⟩

/-! ## §4. Steps. -/

/-- What a step from `s` does, when `polled` is what its poll came to. -/
structure StepDecided (E : Environment R) (serial : Nat) (timeout : Option Timeout)
    (turn : Turn) (s : Session R) (polled : Ending R (Option Message))
    (run : Ending R (Option Event)) : Prop where
  /-- A poll that no assignment comes with is one entry in the journal. -/
  poll : turn.delivered s.feed = none → polled.1 = turn.ending ∧
    polled.2.withoutLog = s.withoutLog.advance
      [s.feed.polled (s.effectiveTimeout serial timeout)] s.own
  failed : ∀ e, polled.1 = .error e → run = (.error e, polled.2)
  nothing : polled.1 = .ok none → run = (.ok none, polled.2)
  message : ∀ m r, polled.1 = .ok (some m) → polled.2.reader? serial = some r →
    r.Discreet E → Decided E serial r m polled.2 run

/-- What a step does with what its poll delivers. -/
def received (E : Environment R) (serial : Nat) : Option Message → Action R (Option Event)
  | none => pure none
  | some m => handle E serial m

theorem step_eq (E : Environment R) (serial : Nat) (timeout : Option Timeout) (turn : Turn) :
    step E serial timeout turn = (do
      poll E ((← get).effectiveTimeout serial timeout) turn >>= received E serial) := by
  unfold step
  refine bind_congr fun s => bind_congr fun m => ?_
  cases m <;> rfl

/-- **What a step does**: whatever a poll comes to, the step goes on from there
    as the table says. -/
theorem step_follows_table (E : Environment R) (serial : Nat) (timeout : Option Timeout)
    (turn : Turn) (s : Session R) :
    StepDecided E serial timeout turn s
      ((poll E (s.effectiveTimeout serial timeout) turn).run s)
      ((step E serial timeout turn).run s) := by
  have hstep : (step E serial timeout turn).run s =
      (poll E (s.effectiveTimeout serial timeout) turn >>= received E serial).run s := by
    rw [step_eq]
    rfl
  refine ⟨fun h => poll_run_idle E _ h, fun e he => ?_, fun hnone => ?_, fun m r hsome hr hE => ?_⟩
  · exact hstep.trans (Action.run_bind_error (Prod.ext he rfl) _)
  · exact hstep.trans (Action.run_bind_ok (Prod.ext hnone rfl) _)
  · rw [hstep, Action.run_bind_ok (Prod.ext hsome rfl)]
    exact handle_decided hr hE m

end Session

/-! ## §5. An event that is refused. -/

namespace Sample

/-- A reader that refuses events and has read a partition up to the offset 7. -/
def reluctant : Session roles := audited.stackUp (reader "p" true [1])

/-- What a poll of that session comes to which delivers the next record. -/
def polledNext : Session.Ending roles (Option Message) :=
  (Session.poll conduct.environment (reluctant.effectiveTimeout 0 none) (delivery 1 8)).run
    reluctant

end Sample

/-- The rows for that record apply to the step. -/
theorem table_of_reluctant :
    Session.Decided Sample.conduct.environment 0
      { Sample.reader "p" true [1] with below := .foreign "audit" }
      ⟨Sample.partition 1, some 8, some [107], none, none⟩ Sample.polledNext.2
      ((Session.step Sample.conduct.environment 0 none (Sample.delivery 1 8)).run
        Sample.reluctant) :=
  (Session.step_follows_table Sample.conduct.environment 0 none (Sample.delivery 1 8)
    Sample.reluctant).message _ _ rfl rfl (Sample.conduct.reader_discreet _)

/-- The refusal is what the step fails with, and nothing is tracked of it. -/
example :
    ((Session.step Sample.conduct.environment 0 none (Sample.delivery 1 8)).run
        Sample.reluctant).1.toOption.isNone = true ∧
      (((Session.step Sample.conduct.environment 0 none (Sample.delivery 1 8)).run
        Sample.reluctant).2.tracker 0).get? (Sample.partition 1) = some 7 := by
  refine ⟨rfl, rfl⟩

end ChangeFeed
