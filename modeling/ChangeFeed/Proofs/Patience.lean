/-
  ChangeFeed.Proofs.Patience — a client waits when it polls, and pauses for no less
  than no time.

  The options of a client are checked when it is made, and its two times are used as
  they are: the reader that it opens keeps the one, and the other is how long it
  pauses before it subscribes.  So every poll of a run waits for more than no time,
  whatever the transport does, whatever fails, and even if user code opens and closes
  readers of its own, as long as user code is as patient.

  Main results:
    * `Waits.framing` — what a reader does between its polls.
    * `waits_step` — the step of a reader that waits.
    * `waits_run` — a whole run.
    * `vets_options` — which options a client is made with, and what follows.
-/

import ChangeFeed.Proofs.Acceptance
import ChangeFeed.Proofs.Creations

namespace ChangeFeed

variable {R : Roles}

/-! ## §1. Patience. -/

/-- More than no time. -/
def Timeout.Positive : Timeout → Prop
  | .whole seconds => 0 < seconds
  | .real seconds => seconds.Positive
  | .other _ => False

/-- A poll waits for more than no time, and a pause is no shorter than none. -/
def Occurrence.Patient : Occurrence → Prop
  | .polled timeout => ∃ w, timeout = some w ∧ w.Positive
  | .sleep seconds => seconds.NonNegative
  | _ => True

theorem Occurrence.patient_of_isInner {o : Occurrence} (h : o.isInner = true) : o.Patient := by
  cases o <;> first | exact trivial | cases h

namespace Session

/-- How long a reader waits at each of its steps, if there is such a reader. -/
def timeoutOf (s : Session R) (serial : Nat) : Option (Option Timeout) :=
  (s.reader? serial).map Reader.timeout

theorem timeoutOf_modifyReader (s : Session R) (serial other : Nat) {change : Reader R → Reader R}
    (h : ∀ r, (change r).timeout = r.timeout) :
    (s.modifyReader serial change).timeoutOf other = s.timeoutOf other := by
  unfold timeoutOf
  rw [reader?_modifyReader]
  by_cases hserial : serial = other
  · rw [if_pos hserial, Option.map_map]
    exact congrArg (fun f => (s.reader? other).map f) (funext h)
  · rw [if_neg hserial]

/-- On the way from one session to another every poll waited and every pause was one;
    readers wait as long as they did. -/
structure Waits (s t : Session R) : Prop where
  journal : ∃ added, t.journal = s.journal ++ added ∧ ∀ o ∈ added, o.Patient
  timeouts : ∀ serial w, s.timeoutOf serial = some w → t.timeoutOf serial = some w

namespace Waits

variable {s t u : Session R}

theorem of_same (hjournal : t.journal = s.journal)
    (htimeouts : ∀ serial, t.timeoutOf serial = s.timeoutOf serial) : Waits s t := by
  refine ⟨⟨[], ?_, by simp⟩, ?_⟩
  · rw [hjournal, List.append_nil]
  · intro serial w hw
    rw [htimeouts, hw]

theorem refl (s : Session R) : Waits s s := of_same rfl fun _ => rfl

theorem trans (h : Waits s t) (h' : Waits t u) : Waits s u := by
  obtain ⟨added, hadded, hpatient⟩ := h.journal
  obtain ⟨more, hmore, hpatient'⟩ := h'.journal
  refine ⟨⟨added ++ more, ?_, ?_⟩, fun serial w hw => h'.timeouts serial w (h.timeouts serial w hw)⟩
  · rw [hmore, hadded, List.append_assoc]
  · intro o ho
    rcases List.mem_append.1 ho with ho | ho
    · exact hpatient o ho
    · exact hpatient' o ho

theorem enter (s : Session R) {o : Occurrence} (h : o.Patient) : Waits s (s.enter o) := by
  refine ⟨⟨[o], rfl, ?_⟩, fun _ _ hw => hw⟩
  intro o' ho
  obtain rfl := List.mem_singleton.1 ho
  exact h

theorem modifyReader (s : Session R) (serial : Nat) {change : Reader R → Reader R}
    (h : ∀ r, (change r).timeout = r.timeout) : Waits s (s.modifyReader serial change) :=
  of_same rfl fun other => s.timeoutOf_modifyReader serial other h

/-- A new reader does not keep the others from waiting. -/
theorem opened (s : Session R) (name : String) (timeout : Option Timeout) :
    Waits s (s.opened name timeout) := by
  refine ⟨⟨[], (List.append_nil _).symm, by simp⟩, ?_⟩
  intro serial w hw
  obtain ⟨r, hr, hw⟩ := Option.map_eq_some_iff.1 hw
  have hr' : (s.opened name timeout).reader? serial = some r :=
    (reader?_opened_of_lt (lt_of_reader? hr) name timeout).trans hr
  unfold timeoutOf
  rw [hr', ← hw]
  rfl

end Waits

end Session

/-- User code that is as patient as a client: it may do anything but poll without
    waiting, or take the time that a reader waits from it. -/
structure Environment.Patient (E : Environment R) : Prop where
  decodeKey : ∀ d data, Kept Session.Waits (E.decodeKey d data).run
  decodeValue : ∀ d key data, Kept Session.Waits (E.decodeValue d key data).run
  onEvent : ∀ h e, Kept Session.Waits (E.onEvent h e).run
  onError : ∀ h m code, Kept Session.Waits (E.onError h m code).run
  onAssignment : ∀ name a, Kept Session.Waits (E.onAssignment name a)
  onCreate : Kept Session.Waits E.onCreate.run
  onSubscribe : ∀ topics, Kept Session.Waits (E.onSubscribe topics).run
  onAssign : ∀ a, Kept Session.Waits (E.onAssign a).run
  onClose : Kept Session.Waits E.onClose.run
  onSleep : ∀ seconds, Kept Session.Waits (E.onSleep seconds).run

/-- User code that keeps to itself is patient. -/
theorem Conduct.patient (C : Conduct R) : C.environment.Patient := by
  have honOwn : ∀ {α : Type} (f : Own R → α × Own R), Kept Session.Waits (Conduct.onOwn f) :=
    fun f s => .of_same (List.append_nil _) fun _ => rfl
  exact ⟨fun _ _ => honOwn _, fun _ _ _ => honOwn _, fun _ _ => honOwn _, fun _ _ _ => honOwn _,
    fun _ _ => honOwn _, honOwn _, fun _ => honOwn _, fun _ => honOwn _, honOwn _,
    fun _ => honOwn _⟩

/-! ## §2. The steps of a reader that waits. -/

variable {E : Environment R}

/-- A relation that is only asked for where something holds that it keeps. -/
theorem Framing.given {Rel : Session R → Session R → Prop} {P : Session R → Prop}
    (hF : Framing E Rel) (hP : ∀ {s t}, Rel s t → P s → P t) :
    Framing E fun s t => P s → Rel s t where
  refl s _ := hF.refl s
  trans hst htu hs := hF.trans (hst hs) (htu (hP (hst hs) hs))
  enter s o h _ := hF.enter s o h
  change s serial f h _ := hF.change s serial f h
  subscribed s c h _ := hF.subscribed s c h
  decodeKey d data s _ := hF.decodeKey d data s
  decodeValue d key data s _ := hF.decodeValue d key data s
  onEvent h e s _ := hF.onEvent h e s
  onError h m code s _ := hF.onError h m code s
  onAssignment name a s _ := hF.onAssignment name a s
  onSubscribe topics s _ := hF.onSubscribe topics s
  onAssign a s _ := hF.onAssign a s

namespace Session

/-- **Between its polls a reader only enters what is patient.** -/
theorem Waits.framing (hE : E.Patient) : Framing E Waits where
  refl := refl
  trans hst htu := hst.trans htu
  enter s _ h := enter s (Occurrence.patient_of_isInner h)
  change s serial f h := by
    refine modifyReader s serial fun r => ?_
    exact congrArg (fun place => place.2.2) (h r)
  subscribed _ _ _ := of_same rfl fun _ => rfl
  decodeKey := hE.decodeKey
  decodeValue := hE.decodeValue
  onEvent := hE.onEvent
  onError := hE.onError
  onAssignment := hE.onAssignment
  onSubscribe := hE.onSubscribe
  onAssign := hE.onAssign

/-- As long as one reader waits, so do all polls. -/
def WaitsBy (serial : Nat) (w : Timeout) (s t : Session R) : Prop :=
  s.timeoutOf serial = some (some w) → Waits s t

variable {serial : Nat} {w : Timeout}

theorem WaitsBy.framing (hE : E.Patient) : Framing E (WaitsBy serial w) :=
  (Waits.framing hE).given fun h hs => h.timeouts serial _ hs

/-- **A step of a reader that waits.**  It is told no other time. -/
theorem waits_step (hE : E.Patient) (hw : w.Positive) (turn : Turn) :
    Kept (WaitsBy serial w) (step E serial none turn).run := by
  intro s hs
  have htimeout : s.effectiveTimeout serial none = some w := by
    obtain ⟨r, hr, hw⟩ := Option.map_eq_some_iff.1 hs
    simp only [effectiveTimeout, hr, Option.none_or, Option.bind_some, hw]
  have hpolled : (s.feed.polled (s.effectiveTimeout serial none)).Patient := by
    rw [htimeout]
    cases s.feed with
    | direct => exact ⟨w, rfl, hw⟩
    | consumer c => exact ⟨w, rfl, hw⟩
  exact (Waits.enter s hpolled).trans ((Waits.framing hE).step serial none turn s)

end Session

/-! ## §3. One client. -/

namespace Client

open Session

variable {serial : Nat} {w : Timeout}

/-- **What a client does with a reader that waits**: that the reader goes on waiting
    carries the loop. -/
theorem waits_consume (hE : E.Patient) {c : Client R} (hw : w.Positive)
    (hinitWait : c.options.initWait.NonNegative) (turns : List Turn) :
    Kept (WaitsBy serial w) (consume E c serial turns).run := by
  have hpause : (Occurrence.sleep c.options.initWait).Patient := hinitWait
  refine kept_consume (WaitsBy.framing hE) ?_ ?_ ?_ (waits_step hE hw) turns
  · intro s b _
    exact .of_same rfl fun _ => rfl
  · intro s _
    exact .enter s hpause
  · intro s _
    exact hE.onSleep c.options.initWait s

theorem waits_closeReader (hE : E.Patient) (serial : Nat) (s : Session R) :
    Waits s (s.closeReader serial) := by
  have hF := Waits.framing hE
  refine kept_closeReader hF.refl hF.trans hF.enterLog (fun s => ?_) (fun s listener => ?_) s
  · exact .modifyReader s serial fun _ => rfl
  · exact .of_same rfl fun _ => rfl

/-- The client's reader waits from when it is opened until it is closed. -/
theorem waits_reader (hE : E.Patient) {c : Client R}
    (hpollTimeout : c.options.pollTimeout.Positive) (hinitWait : c.options.initWait.NonNegative)
    (turns : List Turn) :
    Kept Waits (do
      let serial ← openReader "" (some (.real c.options.pollTimeout))
      Action.andFinally (consume E c serial turns) (modify (·.closeReader serial)) :
        Action R Unit).run := by
  intro s
  have hwaits : (Timeout.real c.options.pollTimeout).Positive := hpollTimeout
  have hopened := Waits.opened s "" (some (.real c.options.pollTimeout))
  have htimeout : (s.opened "" (some (.real c.options.pollTimeout))).timeoutOf s.readers.length =
      some (some (.real c.options.pollTimeout)) := by
    unfold timeoutOf
    rw [reader?_opened]
    rfl
  have hclosed : ∀ serial, Kept Waits (modify (·.closeReader serial) : Action R Unit).run :=
    waits_closeReader hE
  have hconsumed : Kept (WaitsBy s.readers.length (.real c.options.pollTimeout))
      (Action.andFinally (consume E c s.readers.length turns)
        (modify (·.closeReader s.readers.length)) : Action R Unit).run :=
    (WaitsBy.framing hE).andFinally (waits_consume hE hwaits hinitWait turns)
      fun t _ => hclosed s.readers.length t
  exact hopened.trans (hconsumed _ htimeout)

/-- **In a run every poll waits and every pause is one.** -/
theorem waits_run (hE : E.Patient) {c : Client R} (hpollTimeout : c.options.pollTimeout.Positive)
    (hinitWait : c.options.initWait.NonNegative) (turns : List Turn) :
    Kept Waits (c.run E turns).run := by
  have hF := Waits.framing hE
  have hclose : Kept Waits (closeSource E).run :=
    kept_closeSource hF.refl hF.trans hF.enterLog (fun s => .enter s trivial) hE.onClose
  unfold run
  cases c.settings with
  | error f => exact hF.refl
  | ok settings =>
    -- what comes before the reader is opened neither polls nor pauses
    exact hF.bind hF.refl fun _ => hF.bind (hF.log _) fun _ =>
      hF.bind (fun s => .enter s trivial) fun _ => hF.bind hE.onCreate fun _ =>
      hF.bind (hF.log _) fun _ => hF.bind (fun s => .of_same rfl fun _ => rfl) fun _ =>
        hF.andFinally (waits_reader hE hpollTimeout hinitWait turns) hclose

/-! ## §4. Configurations. -/

/-- The section of a configuration that holds a client's options; one that is not
    there is as good as an empty one. -/
def sectionOf (config : Table) : Value := Table.getD config "client" (.table [])

/-- What becomes of the options in a configuration. -/
structure Vetting (R : Roles) (config : Table) : Prop where
  /-- They are complained about, each once and in their order, or accepted. -/
  checked : Config.Options.Checked (sectionOf config) (Config.Options.ofConfig (.table config))
  /-- They are accepted exactly if all of them are acceptable. -/
  accepted : ∀ o, Config.Options.ofConfig (.table config) = .ok o ↔
    ∃ client, sectionOf config = .table client ∧ Config.Options.Acceptable client o
  /-- Nothing else in a configuration matters. -/
  others : ∀ client config' client', sectionOf config = .table client →
    sectionOf config' = .table client' →
      (∀ field, Config.Options.given client' field = Config.Options.given client field) →
        Config.Options.ofConfig (.table config') = Config.Options.ofConfig (.table config)
  /-- A client that is made with them never polls without waiting, and does not
      pause for less than no time. -/
  patient : ∀ (E : Environment R) topics manners (c : Client R) turns s, E.Patient →
    Client.make (.table config) topics manners = .ok c → Waits s ((c.run E turns).run s).2

/-- **Options are checked exactly, and a client waits with them.**  The options
    are values of the kinds that there are here.  Two more kinds that would be
    accepted for the name of a client are not among them: octets that can be
    written to, and members of an enumeration of texts. -/
theorem vets_options (R : Roles) (config : Table) : Vetting R config := by
  have hsection : ∀ config : Table, Config.Options.ofConfig (.table config) =
      Config.Options.validate (sectionOf config) := fun _ => rfl
  refine ⟨?_, fun o => ?_, ?_, ?_⟩
  · rw [hsection]
    exact Config.Options.validate_checked _
  · rw [hsection]
    exact Config.Options.accepts_iff
  · intro client config' client' hclient hclient' hsame
    rw [hsection, hsection, hclient, hclient']
    exact Config.Options.validate_congr hsame
  · intro E topics manners c turns s hE hmake
    obtain ⟨client, -, hacceptable⟩ :=
      Config.Options.accepts_iff.1 (Program.options_of_make hmake)
    exact waits_run hE hacceptable.positive hacceptable.nonNegative turns s

end Client

/-! ## §5. A name in octets. -/

namespace Sample

/-- A section whose name is written in octets. -/
def octetsSection : Table := [("app_id", .octets [0x78])]

/-- The options that it gives. -/
theorem acceptable_octetsSection :
    Config.Options.Acceptable octetsSection ⟨"x", .one, .zero⟩ := by
  have hdecoded : Octets.decode? [0x78] = some "x" := Octets.decode?_eq_some_iff.2 rfl
  have hcalled : Config.Options.Called octetsSection "x" :=
    ⟨⟨_, rfl, .inr ⟨_, rfl, hdecoded⟩⟩, rfl⟩
  exact ⟨hcalled, .absent, Double.positive_one, .absent, Double.nonNegative_zero⟩

end Sample

/-- **Octets name a client** as well as a text does. -/
theorem octets_name_client :
    ¬ ∀ (config : Table) (o : Config.Options), Config.Options.ofConfig (.table config) = .ok o →
      ∃ client name, Client.sectionOf config = .table client ∧
        Config.Options.given client .appId = some (.text name) := by
  intro h
  have haccepted : Config.Options.ofConfig (.table [("client", .table Sample.octetsSection)]) =
      .ok ⟨"x", .one, .zero⟩ :=
    Config.Options.accepts_iff.2 ⟨_, rfl, Sample.acceptable_octetsSection⟩
  obtain ⟨client, name, hclient, hname⟩ := h _ _ haccepted
  cases hclient
  cases hname

end ChangeFeed
