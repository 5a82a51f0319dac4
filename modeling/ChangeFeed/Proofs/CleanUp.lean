/-
  ChangeFeed.Proofs.CleanUp — a client leaves nothing behind.

  Once its consumer is made, a client opens a reader, waits, subscribes and
  takes steps; and however any of that ends, the reader is closed and then the
  consumer.  Of all that a run does, what matters here is told by the polls of
  the source and the closing of consumers: user code that keeps to itself does
  neither, and a step polls once.

  Main results:
    * `Ready.step`, `Ready.rounds` — steps poll with the client's timeout, once
      each.
    * `kept_loop`, `kept_consume` — relations that each step keeps to.
    * `Ready.closeReader`, `closeSource_run` — what the clean-up does.
    * `run_cleansUp` — a whole run.
-/

import ChangeFeed.Proofs.Framing
import ChangeFeed.Proofs.History
import ChangeFeed.Proofs.Rounds

namespace ChangeFeed

variable {R : Roles}

/-! ## §1. Polls and closings. -/

/-- Is there a consumer, and is it closed together with the source? -/
def Feed.closes? : Feed → Option Bool
  | .direct => none
  | .consumer c => some c.owned

namespace Session

/-- The polls of the source and the closings of consumers, in order. -/
def marks (s : Session R) : List Occurrence := s.journal.filter fun o => !o.isPassing

/-- Readers stand where they stood, and the source is the same; of polls and
    closings these were added. -/
structure Progress (added : List Occurrence) (s t : Session R) : Prop where
  places : t.readers.map Reader.place = s.readers.map Reader.place
  installed : t.installed = s.installed
  closes : t.feed.closes? = s.feed.closes?
  marks : t.marks = s.marks ++ added

namespace Progress

theorem refl (s : Session R) : Progress [] s s := ⟨rfl, rfl, rfl, (List.append_nil _).symm⟩

theorem trans {added more : List Occurrence} {s t u : Session R} (h : Progress added s t)
    (h' : Progress more t u) : Progress (added ++ more) s u :=
  ⟨h'.places.trans h.places, h'.installed.trans h.installed, h'.closes.trans h.closes, by
    rw [h'.marks, h.marks, List.append_assoc]⟩

theorem enter (s : Session R) (o : Occurrence) :
    Progress (if o.isPassing then [] else [o]) s (s.enter o) := by
  refine ⟨rfl, rfl, rfl, ?_⟩
  show (s.journal ++ [o]).filter _ = _
  rw [List.filter_append]
  cases h : o.isPassing <;> simp [h, Session.marks]

theorem isClosed {added : List Occurrence} {s t : Session R} (h : Progress added s t)
    (serial : Nat) : t.isClosed serial = s.isClosed serial := by
  have hplace : ∀ u : Session R, u.isClosed serial =
      ((u.readers.map Reader.place)[serial]?).any fun place => place.2.1 := fun u => by
    rw [List.getElem?_map, Option.any_map]
    rfl
  rw [hplace, hplace, h.places]

/-- User code that keeps to itself. -/
theorem onOwn {α : Type} (f : Own R → α × Own R) : Kept (Progress []) (Conduct.onOwn f) := by
  intro s
  refine ⟨rfl, rfl, rfl, ?_⟩
  show (s.journal ++ []).filter _ = s.marks ++ []
  rw [List.append_nil, List.append_nil]
  rfl

theorem framing (C : Conduct R) : Framing C.environment (Progress []) := by
  refine Framing.of_conduct refl (fun hst htu => hst.trans htu) ?_ ?_ ?_ onOwn
  · intro s o h
    have hentered := enter s o
    rwa [Occurrence.isPassing_of_isInner h] at hentered
  · intro s serial f h
    exact ⟨s.places_modifyReader serial h, rfl, rfl, (List.append_nil _).symm⟩
  · intro s c h
    exact ⟨rfl, rfl, by rw [h]; rfl, (List.append_nil _).symm⟩

end Progress

/-- Closing a reader changes it, and may change who is installed or make a log
    entry. -/
theorem kept_closeReader {Rel : Session R → Session R → Prop} (hrefl : ∀ s, Rel s s)
    (htrans : ∀ {s t u}, Rel s t → Rel t u → Rel s u)
    (hlogged : ∀ s entry, Rel s (s.enterLog entry)) {serial : Nat}
    (hmarked : ∀ s, Rel s (s.markClosed serial))
    (hinstalled : ∀ s listener, Rel s (s.install listener)) (s : Session R) :
    Rel s (s.closeReader serial) := by
  unfold closeReader
  split
  · exact hrefl s
  · simp only
    split
    · exact htrans (hmarked s) (hinstalled _ _)
    · exact htrans (hmarked s) (hlogged _ _)

/-- Closing the source may close its consumer. -/
theorem kept_closeSource {E : Environment R} {Rel : Session R → Session R → Prop}
    (hrefl : ∀ s, Rel s s) (htrans : ∀ {s t u}, Rel s t → Rel t u → Rel s u)
    (hlogged : ∀ s entry, Rel s (s.enterLog entry))
    (hclosing : ∀ s, Rel s (s.enter .closeConsumer)) (hclose : Kept Rel E.onClose.run) :
    Kept Rel (closeSource E).run := by
  have hlog : ∀ entry, Kept Rel (Action.log entry : Action R Unit).run := fun entry s =>
    hlogged s entry
  have hrecord : Kept Rel (Action.record .closeConsumer : Action R Unit).run := hclosing
  refine Framing.get_bind fun s => ?_
  cases s.feed with
  | direct => exact hrefl
  | consumer c =>
    simp only
    split
    · exact (hlog _).bind (fun _ => hrecord.bind (fun _ => hclose) htrans) htrans
    · exact hrefl

/-- A consumer is closed with its source. -/
theorem closeSource_run (C : Conduct R) {s : Session R} (h : s.feed.closes? = some true) :
    ((closeSource C.environment).run s).1 = (C.onClose s.own).1 ∧
      Progress [.closeConsumer] s ((closeSource C.environment).run s).2 := by
  unfold closeSource
  rw [Action.run_get_bind]
  cases hfeed : s.feed with
  | direct =>
    rw [hfeed] at h
    cases h
  | consumer c =>
    rw [hfeed] at h
    have howned : c.owned = true := Option.some.inj h
    simp only [howned, if_true]
    rw [Action.run_bind_ok (Action.run_log _ s), Action.run_bind_ok (Action.run_record _ _)]
    have hlog := (Progress.framing C).enterLog s
      (.plain .info sourceLogger "Closing the consumer" none)
    have hown := own_enterLog s (.plain .info sourceLogger "Closing the consumer" none)
    generalize s.enterLog (.plain .info sourceLogger "Closing the consumer" none) = s₁
      at hlog hown ⊢
    refine ⟨?_, hlog.trans ((Progress.enter s₁ .closeConsumer).trans (Progress.onOwn C.onClose _))⟩
    show (C.onClose s₁.own).1 = _
    rw [hown]

end Session

namespace Client

variable {C : Conduct R} {c : Client R} {serial : Nat} {s t : Session R}

/-! ## §2. A client's reader. -/

/-- The poll of a client's consumer. -/
def polling (c : Client R) : Occurrence := .polled (some (.real c.options.pollTimeout))

/-- The client's reader stands alone on its consumer. -/
structure Ready (c : Client R) (serial : Nat) (s : Session R) : Prop where
  reader : ∃ r, s.reader? serial = some r ∧
    r.place = (.nobody, false, some (.real c.options.pollTimeout))
  installed : s.installed = .reader serial .nobody
  closes : s.feed.closes? = some true

theorem Ready.progress {added : List Occurrence} (hs : c.Ready serial s)
    (h : Session.Progress added s t) : c.Ready serial t := by
  obtain ⟨r, hr, hplace⟩ := hs.reader
  refine ⟨?_, h.installed.trans hs.installed, h.closes.trans hs.closes⟩
  have hget : (t.readers.map Reader.place)[serial]? = some r.place := by
    rw [h.places, List.getElem?_map]
    exact congrArg (Option.map _) hr
  rw [List.getElem?_map] at hget
  obtain ⟨r', hr', hplace'⟩ := Option.map_eq_some_iff.1 hget
  exact ⟨r', hr', hplace'.trans hplace⟩

/-- **A step polls once**, with the client's timeout. -/
theorem Ready.step (hs : c.Ready serial s) (turn : Turn) :
    Session.Progress [c.polling] s ((Session.step C.environment serial none turn).run s).2 := by
  have hstep := (Session.Progress.framing C).step serial none turn s
  obtain ⟨r, hr, hplace⟩ := hs.reader
  have htimeout : s.effectiveTimeout serial none = some (.real c.options.pollTimeout) := by
    simp only [Session.effectiveTimeout, hr, Option.none_or, Option.bind_some]
    exact congrArg (fun place => place.2.2) hplace
  have hpolled : s.feed.polled (s.effectiveTimeout serial none) = c.polling := by
    rw [htimeout]
    cases hfeed : s.feed <;> rfl
  rw [hpolled] at hstep
  exact (Session.Progress.enter s c.polling).trans hstep

/-- Coping with a failure makes log entries and may end the loop. -/
theorem kept_cope {Rel : Session R → Session R → Prop} (hrefl : ∀ s, Rel s s)
    (hlogged : ∀ s entry, Rel s (s.enterLog entry))
    (hstopped : ∀ s entry, Rel s { s.enterLog entry with running := false }) (e : Raised) :
    Kept Rel (cope e : Action R Unit).run := by
  intro s
  show Rel s ((cope e).run s).2
  have hcoped := cope_run e s
  generalize (cope e).run s = ran at hcoped ⊢
  cases hcoped with
  | logged entry _ _ => exact hlogged s entry
  | stopped entry _ _ => exact hstopped s entry
  | escaped _ _ => exact hrefl s

/-- Whatever becomes of the failure of a step, nobody's memory changes. -/
theorem memory_round (E : Environment R) (serial : Nat) (turn : Turn) (s : Session R) :
    ((round E serial turn).run s).2.memory = ((Session.step E serial none turn).run s).2.memory := by
  have hlog : ∀ (s : Session R) entry, (s.enterLog entry).memory = s.memory := fun s entry =>
    congrArg Own.memory (Session.own_enterLog s entry)
  rcases hstep : (Session.step E serial none turn).run s with ⟨result, s'⟩
  cases result with
  | ok event => rw [round_run_ok hstep]
  | error e =>
    rw [round_run_error hstep]
    have hkept : Kept (fun s t : Session R => t.memory = s.memory) (cope e : Action R Unit).run := by
      refine kept_cope ?_ hlog hlog e
      exact fun _ => rfl
    exact hkept s'

section

variable {E : Environment R} {Rel : Session R → Session R → Prop}

/-- A round is a step, and coping with its failure. -/
theorem kept_round (hF : Framing E Rel) (hrunning : ∀ s b, Rel s { s with running := b })
    {turn : Turn} (hstep : Kept Rel (Session.step E serial none turn).run) :
    Kept Rel (round E serial turn).run := by
  refine hF.attempt_bind hstep fun result => ?_
  cases result with
  | ok event => exact hF.refl
  | error e =>
    refine kept_cope hF.refl hF.enterLog ?_ e
    intro s entry
    exact hF.trans (hF.enterLog s entry) (hrunning _ false)

/-- **The loop keeps to what every step keeps to.**  The induction is on what the
    transport does. -/
theorem kept_loop (hF : Framing E Rel) (hrunning : ∀ s b, Rel s { s with running := b })
    (hstep : ∀ turn, Kept Rel (Session.step E serial none turn).run) (turns : List Turn) :
    Kept Rel (loop E serial turns).run := by
  induction turns with
  | nil =>
    refine Framing.get_bind fun s => ?_
    cases s.running with
    | true => exact kept_round hF hrunning (hstep .interrupt)
    | false => exact hF.pure ()
  | cons turn rest ih =>
    refine Framing.get_bind fun s => ?_
    cases s.running with
    | true => exact hF.bind (kept_round hF hrunning (hstep turn)) fun _ => ih
    | false => exact hF.pure ()

/-- What a client does with its reader: it waits, subscribes and takes steps. -/
theorem kept_consume (hF : Framing E Rel) (hrunning : ∀ s b, Rel s { s with running := b })
    (hpause : ∀ s, Rel s (s.enter (.sleep c.options.initWait)))
    (hsleep : Kept Rel (E.onSleep c.options.initWait).run)
    (hstep : ∀ turn, Kept Rel (Session.step E serial none turn).run) (turns : List Turn) :
    Kept Rel (consume E c serial turns).run :=
  hF.bind (fun s => hF.change s serial _ fun _ => rfl) fun _ => hF.bind hpause fun _ =>
    hF.bind hsleep fun _ => hF.bind (hF.subscribe c.topics) fun _ =>
      hF.bind (fun s => hrunning s true) fun _ => kept_loop hF hrunning hstep turns

end

theorem progress_cope (C : Conduct R) (e : Raised) :
    Kept (Session.Progress []) (cope e : Action R Unit).run := by
  have hF := Session.Progress.framing C
  refine kept_cope hF.refl hF.enterLog (fun s entry => ?_) e
  have hlog := hF.enterLog s entry
  exact ⟨hlog.places, hlog.installed, hlog.closes, hlog.marks⟩

/-- Coping with its failure does not poll again. -/
theorem Ready.round (hs : c.Ready serial s) (turn : Turn) :
    Session.Progress [c.polling] s ((round C.environment serial turn).run s).2 := by
  have hstep := hs.step (C := C) turn
  rcases hrun : (Session.step C.environment serial none turn).run s with ⟨result, s'⟩
  rw [hrun] at hstep
  cases result with
  | ok event =>
    rw [round_run_ok hrun]
    exact hstep
  | error e =>
    rw [round_run_error hrun]
    exact hstep.trans (progress_cope C e s')

/-- **Several steps poll once each.** -/
theorem Ready.rounds (hs : c.Ready serial s) (turns : List Turn) :
    Session.Progress (List.replicate turns.length c.polling) s
      (rounds C.environment serial s turns) := by
  induction turns generalizing s with
  | nil => exact .refl s
  | cons turn rest ih =>
    have hround := hs.round (C := C) turn
    exact hround.trans (ih (hs.progress hround))

/-- **The reader is closed and its listener taken out**; nothing else is
    done. -/
theorem Ready.closeReader (hs : c.Ready serial s) :
    (s.closeReader serial).isClosed serial = true ∧
      (s.closeReader serial).installed = .nobody ∧
      (s.closeReader serial).journal = s.journal ∧ (s.closeReader serial).feed = s.feed ∧
      (s.closeReader serial).own = s.own := by
  obtain ⟨r, hr, hplace⟩ := hs.reader
  obtain ⟨hbelow, hopen⟩ := Prod.mk.inj hplace
  obtain ⟨hopen, -⟩ := Prod.mk.inj hopen
  have hr' : (s.markClosed serial).reader? serial = some { r with closed := true } := by
    rw [Session.markClosed, Session.reader?_modifyReader, if_pos rfl, hr]
    rfl
  have htop : (s.markClosed serial).installed.serial? = some serial := by
    show s.installed.serial? = _
    rw [hs.installed]
    rfl
  -- there was nobody before the reader
  have hsuccessor : (s.markClosed serial).successor serial = .nobody := by
    rw [Session.successor, hr']
    show r.below.live _ = _
    rw [hbelow]
    rfl
  have hclosed : s.isClosed serial = false := by
    rw [Session.isClosed_of_reader? hr, hopen]
  have hclose : s.closeReader serial = { s.markClosed serial with installed := .nobody } := by
    simp only [Session.closeReader, hclosed, Bool.false_eq_true, if_false, htop, if_true,
      hsuccessor]
  refine ⟨Session.isClosed_closeReader.2 (.inr ⟨rfl, Session.lt_of_reader? hr⟩), ?_⟩
  rw [hclose]
  exact ⟨rfl, rfl, rfl, rfl⟩

/-! ## §3. Before the loop. -/

/-- What a client does before its loop: it waits and subscribes. -/
def prepare (E : Environment R) (c : Client R) (serial : Nat) : Action R Unit := do
  Action.change serial c.instruct
  Action.record (.sleep c.options.initWait)
  E.onSleep c.options.initWait
  Session.subscribe E c.topics

theorem consume_eq (E : Environment R) (c : Client R) (serial : Nat) (turns : List Turn) :
    consume E c serial turns = (do
      prepare E c serial
      modify ({ · with running := true })
      loop E serial turns) := by
  simp only [consume, prepare, bind_assoc]

theorem progress_prepare (C : Conduct R) (c : Client R) (serial : Nat) :
    Kept (Session.Progress []) (prepare C.environment c serial).run := by
  have hF := Session.Progress.framing C
  exact hF.bind (fun s => hF.change s serial _ fun _ => rfl) fun _ =>
    hF.bind (fun s => Session.Progress.enter s (.sleep _)) fun _ =>
      hF.bind (Session.Progress.onOwn _) fun _ => hF.subscribe c.topics

/-- The session in which the consumer was made. -/
def connected (C : Conduct R) (settings : Table) (s : Session R) : Session R :=
  let s₁ := (s.enterLog (.plain .info Session.clientLogger "Initializing consumer" none)).enter
    (.createConsumer settings)
  let s₂ := (s₁.advance [] (C.onCreate s₁.own).2).enterLog
    (.plain .info Session.clientLogger "Consumer initialized" none)
  { s₂ with feed := .consumer ownConsumer, installed := .nobody }

/-- The session in which the client's reader was opened as well. -/
def begun (C : Conduct R) (c : Client R) (settings : Table) (s : Session R) : Session R :=
  (connected C settings s).opened "" (some (.real c.options.pollTimeout))

theorem length_connected (C : Conduct R) (settings : Table) (s : Session R) :
    (connected C settings s).readers.length = s.readers.length := by
  show (Session.enterLog _ _).readers.length = _
  rw [Session.readers_enterLog]
  show (s.enterLog _).readers.length = _
  rw [Session.readers_enterLog]

theorem marks_begun (C : Conduct R) (c : Client R) (settings : Table) (s : Session R) :
    (begun C c settings s).marks = s.marks := by
  have hF := Session.Progress.framing C
  have hbefore := hF.enterLog s
    (.plain .info Session.clientLogger "Initializing consumer" none)
  have hprogress := hbefore.trans ((Session.Progress.enter _ (.createConsumer settings)).trans
    ((Session.Progress.onOwn C.onCreate _).trans (hF.enterLog _
      (.plain .info Session.clientLogger "Consumer initialized" none))))
  exact hprogress.marks.trans (List.append_nil _)

theorem ready_begun (C : Conduct R) (c : Client R) (settings : Table) (s : Session R) :
    c.Ready s.readers.length (begun C c settings s) := by
  rw [← length_connected C settings s]
  exact ⟨⟨_, Session.reader?_opened _ _ _, rfl⟩, rfl, rfl⟩

/-! ## §4. A whole run. -/

theorem run_connected {settings : Table} (hsettings : c.settings = .ok settings)
    (hcreate : (C.onCreate s.own).1 = .ok ()) (turns : List Turn) :
    (run C.environment c turns).run s =
      (Action.andFinally
        (do
          let serial ← Session.openReader "" (some (.real c.options.pollTimeout))
          Action.andFinally (consume C.environment c serial turns)
            (modify (·.closeReader serial)))
        (Session.closeSource C.environment)).run (connected C settings s) := by
  have hsettings' : (ofExcept c.settings : Action R Table).run s = (.ok settings, s) := by
    rw [hsettings]
    rfl
  set s₁ := (s.enterLog (.plain .info Session.clientLogger "Initializing consumer" none)).enter
    (.createConsumer settings) with hs₁
  have hcreated : C.environment.onCreate.run s₁ =
      (.ok (), s₁.advance [] (C.onCreate s₁.own).2) := by
    have hown : s₁.own = s.own := by rw [hs₁, Session.own_enter, Session.own_enterLog]
    show ((C.onCreate s₁.own).1, _) = _
    rw [hown, hcreate]
  unfold run
  rw [Action.run_bind_ok hsettings', Action.run_bind_ok (Action.run_log _ s),
    Action.run_bind_ok (Action.run_record _ _), ← hs₁, Action.run_bind_ok hcreated,
    Action.run_bind_ok (Action.run_log _ _), Action.run_bind_ok (Action.run_modify _ _)]
  rfl

/-- The reader is opened, and closed when all that is done with it is over. -/
theorem run_reader (C : Conduct R) (c : Client R) (settings : Table) (s : Session R)
    (turns : List Turn) :
    (do
        let serial ← Session.openReader "" (some (.real c.options.pollTimeout))
        Action.andFinally (consume C.environment c serial turns)
          (modify (·.closeReader serial)) : Action R Unit).run (connected C settings s) =
      (((consume C.environment c s.readers.length turns).run (begun C c settings s)).1,
        ((consume C.environment c s.readers.length turns).run
          (begun C c settings s)).2.closeReader s.readers.length) := by
  -- the reader gets the serial that follows those of the readers before it
  have hopened : (Session.openReader "" (some (.real c.options.pollTimeout))).run
      (connected C settings s) = (.ok s.readers.length, begun C c settings s) := by
    rw [← length_connected C settings s]
    rfl
  rw [Action.run_bind_ok hopened, Action.run_andFinally]
  rfl

/-- How a run ends whose preparations and loop came to `result` and left the
    session `left`, with the polls `asked` behind it. -/
structure CleanedUp (C : Conduct R) (serial : Nat) (s : Session R) (asked : List Occurrence)
    (result : Except Raised Unit) (left : Session R) (final : Except Raised Unit × Session R) :
    Prop where
  /-- First the reader is closed and its listener taken out; by then no consumer
      has been closed. -/
  closed : (left.closeReader serial).isClosed serial = true
  removed : (left.closeReader serial).installed = .nobody
  asked : (left.closeReader serial).marks = s.marks ++ asked
  /-- Then the source is closed, and with it the consumer, once. -/
  source : final.2 = ((Session.closeSource C.environment).run (left.closeReader serial)).2
  consumer : final.2.marks = (left.closeReader serial).marks ++ [.closeConsumer]
  stays : final.2.isClosed serial = true ∧ final.2.installed = .nobody
  /-- A failure to close the consumer takes the place of what the run came
      to. -/
  outcome : final.1 = match (C.onClose left.own).1 with
    | .ok () => result
    | .error e => .error e

/-- **The clean-up after a client's reader was left ready**, whatever the run
    came to until then. -/
theorem Ready.cleanedUp {settings : Table} (hsettings : c.settings = .ok settings)
    (hcreate : (C.onCreate s.own).1 = .ok ()) {turns : List Turn} {asked : List Occurrence}
    {result : Except Raised Unit} {left : Session R}
    (hconsume : (consume C.environment c s.readers.length turns).run (begun C c settings s) =
      (result, left))
    (hprogress : Session.Progress asked (begun C c settings s) left) :
    CleanedUp C s.readers.length s asked result left ((run C.environment c turns).run s) := by
  have hready := (ready_begun C c settings s).progress hprogress
  obtain ⟨hclosed, hremoved, hjournal, hfeed, hown⟩ := hready.closeReader
  obtain ⟨hresult, hsource⟩ := Session.closeSource_run C (s := left.closeReader s.readers.length)
    (by rw [hfeed]; exact hready.closes)
  rw [hown] at hresult
  have hrun := run_connected hsettings hcreate turns
  rw [Action.run_andFinally, run_reader, hconsume] at hrun
  simp only at hrun
  rcases hclose : (Session.closeSource C.environment).run (left.closeReader s.readers.length) with
    ⟨closing, s'⟩
  rw [hclose] at hrun hresult hsource
  have hstate : ((run C.environment c turns).run s).2 = s' := by
    rw [hrun]
    cases closing <;> rfl
  refine ⟨hclosed, hremoved, ?_, ?_, ?_, ⟨?_, ?_⟩, ?_⟩
  · show List.filter _ _ = _
    rw [hjournal]
    exact hprogress.marks.trans (by rw [marks_begun])
  · rw [hstate, hclose]
  · rw [hstate]
    exact hsource.marks
  · rw [hstate, hsource.isClosed, hclosed]
  · rw [hstate, hsource.installed, hremoved]
  · rw [hrun, ← hresult]
    cases closing <;> rfl

/-- A run in which waiting or subscribing fails. -/
theorem unprepared_run {settings : Table} (hsettings : c.settings = .ok settings)
    (hcreate : (C.onCreate s.own).1 = .ok ()) (turns : List Turn) {e : Raised} {left : Session R}
    (hprepare : (prepare C.environment c s.readers.length).run (begun C c settings s) =
      (.error e, left)) :
    CleanedUp C s.readers.length s [] (.error e) left ((run C.environment c turns).run s) := by
  have hprogress : Session.Progress [] (begun C c settings s)
      ((prepare C.environment c s.readers.length).run (begun C c settings s)).2 :=
    progress_prepare C c s.readers.length (begun C c settings s)
  rw [hprepare] at hprogress
  have hconsume : (consume C.environment c s.readers.length turns).run (begun C c settings s) =
      (.error e, left) := by
    rw [consume_eq, Action.run_bind_error hprepare]
  exact Ready.cleanedUp hsettings hcreate hconsume hprogress

/-- A run that gets to its loop. -/
theorem looped_run {settings : Table} (hsettings : c.settings = .ok settings)
    (hcreate : (C.onCreate s.own).1 = .ok ()) (turns : List Turn) {entry : Session R}
    (hprepare : (prepare C.environment c s.readers.length).run (begun C c settings s) =
      (.ok (), entry)) :
    ∃ taken last result left,
      Looped C.environment s.readers.length turns { entry with running := true } taken last
        (result, left) ∧
      CleanedUp C s.readers.length s (List.replicate (taken.length + 1) c.polling) result left
        ((run C.environment c turns).run s) := by
  have hprogress : Session.Progress [] (begun C c settings s)
      ((prepare C.environment c s.readers.length).run (begun C c settings s)).2 :=
    progress_prepare C c s.readers.length (begun C c settings s)
  rw [hprepare] at hprogress
  set start := { entry with running := true } with hstart
  have hentered : Session.Progress [] (begun C c settings s) start :=
    ⟨hprogress.places, hprogress.installed, hprogress.closes, hprogress.marks⟩
  obtain ⟨taken, last, hlooped⟩ := loop_run C.environment s.readers.length turns (s := start) rfl
  rcases hloop : (loop C.environment s.readers.length turns).run start with ⟨result, left⟩
  rw [hloop] at hlooped
  have hconsume : (consume C.environment c s.readers.length turns).run (begun C c settings s) =
      (result, left) := by
    rw [consume_eq, Action.run_bind_ok hprepare, Action.run_bind_ok (Action.run_modify _ _),
      ← hloop]
  -- the steps that were taken, and the last one
  have hready := (ready_begun C c settings s).progress hentered
  have hrounds := hentered.trans (hready.rounds (C := C) (taken ++ [last]))
  have hleft : left = rounds C.environment s.readers.length start (taken ++ [last]) :=
    hlooped.state
  rw [← hleft, List.length_append, List.nil_append] at hrounds
  exact ⟨taken, last, result, left, hlooped, Ready.cleanedUp hsettings hcreate hconsume hrounds⟩

/-- What a run comes to of which the consumer was made. -/
inductive Ran (C : Conduct R) (c : Client R) (settings : Table) (turns : List Turn)
    (s : Session R) : Prop where
  /-- Waiting or subscribing fails, and nothing is polled. -/
  | unprepared {e : Raised} {left : Session R}
      (hprepare : (prepare C.environment c s.readers.length).run (begun C c settings s) =
        (.error e, left))
      (hcleanedUp : CleanedUp C s.readers.length s [] (.error e) left
        ((run C.environment c turns).run s))
  /-- The loop is entered.  Each of its steps polls once. -/
  | looped {entry left : Session R} {taken : List Turn} {last : Turn} {result : Except Raised Unit}
      (hprepare : (prepare C.environment c s.readers.length).run (begun C c settings s) =
        (.ok (), entry))
      (hlooped : Looped C.environment s.readers.length turns { entry with running := true } taken
        last (result, left))
      (hcleanedUp : CleanedUp C s.readers.length s (List.replicate (taken.length + 1) c.polling)
        result left ((run C.environment c turns).run s))

/-- **A run takes steps until one ends it, and cleans up whatever happens.**
    The consumer of the client could be made.  If waiting or subscribing fails,
    nothing is polled.  Otherwise the source is polled once for each step of the
    loop, always with the client's timeout.  In either case the reader is closed,
    its listener taken out, and then the consumer closed, once; nothing is polled
    after that. -/
theorem run_cleansUp (C : Conduct R) (c : Client R) (turns : List Turn) (s : Session R)
    {settings : Table} (hsettings : c.settings = .ok settings)
    (hcreate : (C.onCreate s.own).1 = .ok ()) : Ran C c settings turns s := by
  rcases hprepare : (prepare C.environment c s.readers.length).run (begun C c settings s) with
    ⟨prepared, entry⟩
  cases prepared with
  | error e => exact .unprepared hprepare (unprepared_run hsettings hcreate turns hprepare)
  | ok u =>
    obtain ⟨taken, last, result, left, hlooped, hcleanedUp⟩ :=
      looped_run hsettings hcreate turns hprepare
    exact .looped hprepare hlooped hcleanedUp

end Client

/-! ## §5. A client whose handler fails. -/

namespace Sample

/-- A configuration that says where the broker is and what the client is
    called. -/
def configuration : Value :=
  .table [("connection", .table [("brokers", .list [.text "broker"])]),
    ("client", .table [("app_id", .text "app")])]

/-- The settings that a consumer is made with. -/
def settings : Table :=
  [("bootstrap.servers", .text "broker"), ("group.id", .text "app"),
    ("auto.offset.reset", .text "earliest"), ("enable.partition.eof", .bool true),
    ("enable.auto.commit", .bool false), ("enable.auto.offset.store", .bool false),
    ("error_cb", .builtin .errorCallback)]

/-- A client with a handler that refuses every event. -/
def client : Client roles :=
  ⟨configuration, ["t"], ⟨"app", .one, .zero⟩, .raw, .raw, .custom true, .ignore⟩

end Sample

/-- A run with two messages to deliver. -/
theorem run_cleansUp_of_sample :
    Client.Ran Sample.conduct Sample.client Sample.settings
      [Sample.delivery 0 3, Sample.delivery 0 4] Sample.blank :=
  Client.run_cleansUp Sample.conduct Sample.client _ Sample.blank rfl rfl

example : ((Client.run Sample.conduct.environment Sample.client
    [Sample.delivery 0 3, Sample.delivery 0 4]).run Sample.blank).2.marks =
      [Sample.client.polling, .closeConsumer] := by rfl

end ChangeFeed
