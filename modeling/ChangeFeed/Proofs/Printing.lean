/-
  ChangeFeed.Proofs.Printing — the command line program, from octets to what it
  prints.

  The program prints what its one reader reports, and nothing else: neither
  making the consumer nor subscribing nor cleaning up prints anything, and a
  failure of a step is only logged.  So a run tells the story of what the
  consumer brings, turn by turn, up to the turn that ends its loop.  A consumer
  that refuses its assignment brings the rebalance and no message.

  Main results:
    * `Tracks.rounds`, `Tracks.brought` — the loop, and what is delivered in it.
    * `Client.recounts_run` — a run of a client that prints.
    * `Program.main_recounts` — the whole program.
-/

import ChangeFeed.Proofs.Creations
import ChangeFeed.Proofs.Narration

namespace ChangeFeed

variable {R : Roles}

/-! ## §1. What is neither told nor polled. -/

/-- Is it a poll of the source? -/
def Occurrence.isPoll : Occurrence → Bool
  | .polled _ => true
  | _ => false

namespace Session

/-- How often the source was polled. -/
def asked (s : Session R) : Nat := s.journal.countP Occurrence.isPoll

theorem asked_eq_marks (s : Session R) : s.asked = s.marks.countP Occurrence.isPoll := by
  unfold asked marks
  rw [List.countP_filter]
  refine List.countP_congr fun o _ => ?_
  cases o <;> simp [Occurrence.isPoll, Occurrence.isPassing]

/-- Nothing became known from one session to the other, the source was not
    polled, and readers track what they tracked. -/
structure Quiet (s t : Session R) : Prop where
  news : t.news = s.news
  asked : t.asked = s.asked
  tracker : ∀ serial, t.tracker serial = s.tracker serial

namespace Quiet

theorem refl (s : Session R) : Quiet s s := ⟨rfl, rfl, fun _ => rfl⟩

theorem trans {s t u : Session R} (h : Quiet s t) (h' : Quiet t u) : Quiet s u :=
  ⟨h'.news.trans h.news, h'.asked.trans h.asked, fun serial =>
    (h'.tracker serial).trans (h.tracker serial)⟩

theorem output {s t : Session R} (h : Quiet s t) : t.output = s.output := by
  rw [output_eq_news, h.news, ← output_eq_news]

theorem complaints {s t : Session R} (h : Quiet s t) : t.complaints = s.complaints := by
  rw [complaints_eq_news, h.news, ← complaints_eq_news]

/-- The journal is the same, and so are the readers. -/
theorem of_same {s t : Session R} (hjournal : t.journal = s.journal)
    (hreaders : t.readers = s.readers) : Quiet s t := by
  refine ⟨?_, ?_, fun serial => ?_⟩
  · rw [Session.news, hjournal, Session.news]
  · rw [Session.asked, hjournal, Session.asked]
  · rw [Session.tracker, Session.reader?, hreaders, Session.tracker, Session.reader?]

theorem enter (s : Session R) {o : Occurrence} (hnews : o.isNews = false)
    (hpoll : o.isPoll = false) : Quiet s (s.enter o) := by
  refine ⟨?_, ?_, fun _ => rfl⟩
  · show (s.journal ++ [o]).filter _ = s.news
    rw [List.filter_append, List.filter_cons, hnews]
    exact List.append_nil _
  · show (s.journal ++ [o]).countP _ = s.asked
    rw [List.countP_append, List.countP_singleton, hpoll]
    rfl

theorem enterLog (s : Session R) (entry : Log.Entry) : Quiet s (s.enterLog entry) := by
  unfold Session.enterLog
  split
  · exact enter s rfl rfl
  · exact refl s

/-- User code that keeps to itself. -/
theorem onOwn {α : Type} (f : Own R → α × Own R) : Kept Quiet (Conduct.onOwn f) := by
  intro s
  refine of_same ?_ rfl
  show s.journal ++ [] = _
  rw [List.append_nil]

/-- A reader is changed, but not what it tracks. -/
theorem modifyReader (s : Session R) (serial : Nat) {change : Reader R → Reader R}
    (h : ∀ r, (change r).tracker = r.tracker) : Quiet s (s.modifyReader serial change) := by
  refine ⟨rfl, rfl, fun other => ?_⟩
  unfold Session.tracker
  rw [reader?_modifyReader]
  split
  · cases s.reader? other with
    | none => rfl
    | some r => exact h r
  · rfl

/-- A new reader tracks nothing, like one that is not there. -/
theorem opened (s : Session R) (name : String) (timeout : Option Timeout) :
    Quiet s (s.opened name timeout) := by
  refine ⟨rfl, rfl, fun serial => ?_⟩
  by_cases hserial : serial = s.readers.length
  · subst hserial
    rw [tracker_of_reader? (reader?_opened s name timeout)]
    unfold Session.tracker Session.reader?
    rw [List.getElem?_eq_none (Nat.le_refl _)]
    rfl
  · unfold Session.tracker Session.reader? Session.opened
    by_cases hlt : serial < s.readers.length
    · rw [List.getElem?_append_left hlt]
    · rw [List.getElem?_eq_none (by simp; omega), List.getElem?_eq_none (by omega)]

theorem closeReader (s : Session R) (serial : Nat) : Quiet s (s.closeReader serial) :=
  kept_closeReader refl trans enterLog (fun s => modifyReader s serial fun _ => rfl)
    (fun _ _ => of_same rfl rfl) s

theorem bind {α β : Type} {act : Action R α} {next : α → Action R β} (hact : Kept Quiet act.run)
    (hnext : ∀ a, Kept Quiet (next a).run) : Kept Quiet (act >>= next).run :=
  hact.bind hnext trans

theorem log (entry : Log.Entry) : Kept Quiet (Action.log entry : Action R Unit).run := fun s =>
  enterLog s entry

theorem record {o : Occurrence} (hnews : o.isNews = false) (hpoll : o.isPoll = false) :
    Kept Quiet (Action.record o : Action R Unit).run := fun s => enter s hnews hpoll

theorem subscribe (C : Conduct R) (topics : List String) :
    Kept Quiet (Session.subscribe C.environment topics).run := by
  refine bind (log _) fun _ => bind (record rfl rfl) fun _ => bind (onOwn _) fun _ s => ?_
  show Quiet s s.knowsTopics
  unfold knowsTopics
  cases s.feed with
  | direct => exact refl s
  | consumer c => exact of_same rfl rfl

theorem closeSource (C : Conduct R) : Kept Quiet (Session.closeSource C.environment).run :=
  kept_closeSource refl trans enterLog (fun s => enter s rfl rfl) (onOwn C.onClose)

end Quiet

end Session

/-! ## §2. A reader that asks no user code. -/

/-- It leaves alone what belongs to the users. -/
def Dealing.Spares {α : Type} (d : Dealing R α) : Prop := ∀ o, (d o).own = o

theorem Dealing.spares_pure {α : Type} (a : α) : (Pure.pure a : Dealing R α).Spares := fun _ => rfl

theorem Dealing.Spares.bind {α β : Type} {d : Dealing R α} {next : α → Dealing R β}
    (h : d.Spares) (hnext : ∀ a, (next a).Spares) : (d >>= next).Spares := by
  intro o
  show (Dealing.bind d next o).own = o
  unfold Dealing.bind
  cases (d o).result with
  | error e => exact h o
  | ok a => exact (hnext a _).trans (h o)

/-- Its keys and values are texts, and it prints what it reports. -/
structure Reader.Plain (r : Reader R) : Prop extends r.Prints where
  key : r.keyDecoding = .text
  value : r.valueDecoding = .text

namespace Reader.Plain

variable {r : Reader R}

theorem tracking (h : r.Plain) (t : Tracker) : ({ r with tracker := t } : Reader R).Plain :=
  ⟨⟨h.onEvent, h.onError⟩, h.key, h.value⟩

theorem event (h : r.Plain) (C : Conduct R) (e : Event) (o : Own R) :
    C.event r.onEvent e o = (.ok (), o) := by
  rw [h.onEvent]
  rfl

theorem spares_tell (h : r.Plain) (C : Conduct R) (e : Event) : (C.tell r e).Spares := fun o =>
  congrArg Prod.snd (h.event C e o)

theorem spares_eventOf (h : r.Plain) (C : Conduct R) (m : Message) (key : Value) :
    (C.eventOf r m key).Spares := by
  unfold Conduct.eventOf
  rcases m.payload with _ | _ | ⟨octet, rest⟩
  · exact Dealing.spares_pure _
  · exact Dealing.spares_pure _
  · refine Dealing.Spares.bind (fun o => ?_) fun value => ?_
    · show (C.value r.valueDecoding key _ o).2 = o
      rw [h.value]
      rfl
    · cases value <;> exact Dealing.spares_pure _

/-- What becomes of a message does not concern the users. -/
theorem spares_handle (h : r.Plain) (C : Conduct R) (m : Message) : (C.handle r m).Spares := by
  unfold Conduct.handle
  cases m.error with
  | some code =>
    unfold Conduct.handleError
    simp only
    split
    · exact (h.spares_tell C _).bind fun _ => Dealing.spares_pure _
    · refine Dealing.Spares.bind (fun o => ?_) fun _ => Dealing.spares_pure _
      show (C.error r.onError m code o).2 = o
      rw [h.onError]
      rfl
  | none =>
    unfold Conduct.handleRecord
    refine Dealing.Spares.bind (fun o => ?_) fun key => ?_
    · show (C.key r.keyDecoding m.key o).2 = o
      rw [h.key]
      rfl
    · cases key with
      | none => exact Dealing.spares_pure _
      | some key =>
        refine (h.spares_eventOf C m key).bind fun event => ?_
        cases event with
        | none => exact Dealing.spares_pure _
        | some event => exact (h.spares_tell C event).bind fun _ => Dealing.spares_pure _

/-- Nor does what it gives up. -/
theorem own_sweep (h : r.Plain) (C : Conduct R) (ps : List Partition) (o : Own R) :
    (C.sweep r.onEvent ps o).own = o := by
  induction ps with
  | nil => rfl
  | cons p rest ih =>
    rw [Conduct.sweep_cons_ok (h.event C (.clear p) o)]
    exact ih

/-- **A step leaves the users what the source does** that takes an assignment
    over. -/
theorem own_step (h : r.Plain) (C : Conduct R) (feed : Feed) (timeout : Option Timeout)
    (turn : Turn) (o : Own R) (hfailure : ∀ a, (C.sweepAt r a o).failure none = none) :
    (C.step feed .nobody r timeout turn o).own = (C.brings feed r.tracker o turn).2 := by
  have hpolled : (C.poll feed .nobody r (timeout.or r.timeout) turn o).own =
      (C.brings feed r.tracker o turn).2 := by
    unfold Conduct.poll Conduct.brings
    cases turn.delivered feed with
    | none => rfl
    | some a =>
      have hleft : (C.relayTo (C.hear .nobody a o) r).left = ⟨r.tracker.resume a, none⟩ :=
        congrArg (Notified.mk (r.tracker.resume a)) (hfailure a)
      have hown : (C.relayTo (C.hear .nobody a o) r).own = o := h.own_sweep C (r.dropped a) o
      simp only [hleft, hown]
      rcases C.apply feed ⟨r.tracker.resume a, none⟩ o with ⟨failure, o'⟩
      cases failure <;> rfl
  have hplain : (C.poll feed .nobody r (timeout.or r.timeout) turn o).reader.Plain := by
    unfold Conduct.poll
    cases turn.delivered feed with
    | none => exact h
    | some a => exact h.tracking _
  unfold Conduct.step
  generalize C.poll feed .nobody r (timeout.or r.timeout) turn o = q at hpolled hplain ⊢
  obtain ⟨result, reader, calls, own⟩ := q
  rcases result with e | _ | m
  · exact hpolled
  · exact hpolled
  · exact (hplain.spares_handle C m own).trans hpolled

end Reader.Plain

/-- What the turns of a client's loop bring its reader, if that tracks `t` and
    the users remember `memory` at the first of them.  Whenever a turn is taken
    the client is running. -/
def Conduct.brought (C : Conduct R) (feed : Feed) (d : Codec) :
    Tracker → R.Memory → List Turn → List Delivery
  | _, _, [] => []
  | t, memory, turn :: rest =>
    let brings := C.brings feed t ⟨memory, true⟩ turn
    brings.1 ++ C.brought feed d (brings.1.foldl d.track t) brings.2.memory rest

/-- What the users have of their own when a client has made its consumer, waited
    and subscribed. -/
def Conduct.prepared (C : Conduct R) (wait : Double) (topics : List String) (o : Own R) : Own R :=
  (C.onSubscribe topics (C.onSleep wait (C.onCreate o).2).2).2

namespace Session

/-! ## §3. The loop. -/

variable {C : Conduct R} {r : Reader R} {d : Codec} {s : Session R} {serial : Nat} {feed : Feed}
  {t : Tracker} {known : List Occurrence}

/-- Neither a log entry nor the end of the loop concerns a reader. -/
theorem Tracks.of_quiet {s' : Session R} (hs : s.Tracks serial .nobody r feed t known)
    (hreaders : s'.readers = s.readers) (hinstalled : s'.installed = s.installed)
    (hfeed : s'.feed = s.feed) (hnews : s'.news = s.news) :
    s'.Tracks serial .nobody r feed t known :=
  ⟨hs.stands.of_readers hreaders hinstalled, hfeed.trans hs.feed, hnews.trans hs.news⟩

theorem Tracks.enterLog (hs : s.Tracks serial .nobody r feed t known) (entry : Log.Entry) :
    (s.enterLog entry).Tracks serial .nobody r feed t known := by
  refine hs.of_quiet (readers_enterLog s entry) (installed_enterLog s entry) ?_
    (Quiet.enterLog s entry).news
  rw [← feed_withoutLog, withoutLog_enterLog, feed_withoutLog]

theorem Tracks.cope (hs : s.Tracks serial .nobody r feed t known) (e : Raised) :
    ((Client.cope e).run s).2.Tracks serial .nobody r feed t known := by
  have hkept : Kept (fun s u : Session R => s.Tracks serial .nobody r feed t known →
      u.Tracks serial .nobody r feed t known) (Client.cope e : Action R Unit).run :=
    Client.kept_cope (fun _ => id) (fun _ entry hs => hs.enterLog entry)
      (fun _ entry hs => (hs.enterLog entry).of_quiet rfl rfl rfl rfl) e
  exact hkept s hs

/-- **A step of the loop comes to what is delivered at it**, however it ends. -/
theorem Tracks.round (hC : C.Reads r d) (hs : s.Tracks serial .nobody r feed t known)
    (turn : Turn) :
    ((Client.round C.environment serial turn).run s).2.Tracks serial .nobody r feed
      ((s.deliveries C .nobody serial none turn).foldl d.track t)
      (known ++ d.newsOf feed r t (s.deliveries C .nobody serial none turn)) := by
  have hstep := hs.step hC C.hear_nobody none turn
  rcases hrun : (Session.step C.environment serial none turn).run s with ⟨result, s'⟩
  rw [hrun] at hstep
  cases result with
  | ok event =>
    rw [Client.round_run_ok hrun]
    exact hstep
  | error e =>
    rw [Client.round_run_error hrun]
    exact hstep.cope e

/-- What is delivered in the course of several steps of the loop. -/
def roundsBring (C : Conduct R) (serial : Nat) (s : Session R) (turns : List Turn) :
    List Delivery :=
  gathered (fun s turn => ((Client.round C.environment serial turn).run s).2)
    (fun s turn => s.deliveries C .nobody serial none turn) s turns

/-- **The loop comes to what is delivered in it.** -/
theorem Tracks.rounds (hC : C.Reads r d) (hs : s.Tracks serial .nobody r feed t known)
    (turns : List Turn) :
    (Client.rounds C.environment serial s turns).Tracks serial .nobody r feed
      ((s.roundsBring C serial turns).foldl d.track t)
      (known ++ d.newsOf feed r t (s.roundsBring C serial turns)) :=
  hs.moves (fun turn hs => hs.round hC turn) turns

/-- **A round brings what its turn does**, while the client is running. -/
theorem Tracks.round_brings (hC : C.Reads r d) (hr : r.Plain)
    (hs : s.Tracks serial .nobody r feed t known) (hrunning : s.running = true) (turn : Turn) :
    s.deliveries C .nobody serial none turn = (C.brings feed t ⟨s.memory, true⟩ turn).1 ∧
      ((Client.round C.environment serial turn).run s).2.memory =
        (C.brings feed t ⟨s.memory, true⟩ turn).2.memory := by
  obtain ⟨hstands, rfl, -⟩ := hs
  have hown : s.own = ⟨s.memory, true⟩ := congrArg (Own.mk s.memory) hrunning
  have hreads := hC.tracking t
  have hplain := hr.tracking t
  rw [← hown, Client.memory_round]
  refine ⟨deliveries_brings hreads hstands none turn fun a _ => hplain.own_sweep C _ _, ?_⟩
  have hstep := (step_run ⟨C.hear_nobody, hreads.ordinaryAt⟩ hstands none turn).own
  refine (congrArg Own.memory hstep).trans ?_
  rw [hplain.own_step C s.feed none turn s.own fun a => ?_]
  rw [Conduct.sweepAt_failure hreads.ordinaryAt]
  exact congrArg (rebalanceFailure none) (hreads.refusals _ s.own)

/-- **What is delivered in the loop is what its turns bring.**  The induction is
    on the turns that the loop goes on after. -/
theorem Tracks.brought (hC : C.Reads r d) (hr : r.Plain)
    (hs : s.Tracks serial .nobody r feed t known) (hrunning : s.running = true)
    {taken : List Turn}
    (hgoesOn : ∀ before turn after, taken = before ++ turn :: after →
      ¬ Client.Ends C.environment serial (Client.rounds C.environment serial s before) turn)
    (last : Turn) :
    s.roundsBring C serial (taken ++ [last]) = C.brought feed d t s.memory (taken ++ [last]) := by
  induction taken generalizing s t known with
  | nil =>
    show s.deliveries C .nobody serial none last ++ [] = _ ++ []
    rw [(hs.round_brings hC hr hrunning last).1]
  | cons turn rest ih =>
    obtain ⟨hbrings, hmemory⟩ := hs.round_brings hC hr hrunning turn
    have hround := hs.round hC turn
    have hgoing := (Client.round_goesOn (hgoesOn [] turn rest rfl)).2
    have hrest := ih hround hgoing fun before next after h => by
      have hnext := hgoesOn (turn :: before) next after (congrArg (turn :: ·) h)
      exact hnext
    show s.deliveries C .nobody serial none turn ++ roundsBring C serial _ (rest ++ [last]) = _
    rw [hrest, hbrings, hmemory]
    rfl

end Session

/-! ## §4. A client. -/

namespace Client

variable {C : Conduct R} {c : Client R} {s : Session R}

/-- A client whose keys and values are texts, and that prints events and
    errors. -/
structure Prints (c : Client R) : Prop where
  key : c.keyDecoding = .text
  value : c.valueDecoding = .text
  onEvent : c.onEvent = .print
  onError : c.onError = .print

/-- The reader that a client takes its steps with. -/
def ownReader (c : Client R) : Reader R :=
  c.instruct (Session.newReader "" (some (.real c.options.pollTimeout)) .nobody)

/-- The source that it stands on by then. -/
def ownFeed : Feed := .consumer { ownConsumer with subscribed := true }

theorem Prints.reads (hc : c.Prints) (C : Conduct R) : C.Reads c.ownReader Codec.utf8 := by
  refine ⟨fun data o => ?_, fun key data o => ?_, fun e o => ?_⟩
  · show (C.key c.keyDecoding data o).1 = _
    rw [hc.key]
    rfl
  · show (C.value c.valueDecoding key data o).1 = _
    rw [hc.value]
    rfl
  · show (C.event c.onEvent e o).1 = _
    rw [hc.onEvent]
    rfl

theorem Prints.plain (hc : c.Prints) : c.ownReader.Plain :=
  ⟨⟨hc.onEvent, hc.onError⟩, hc.key, hc.value⟩

theorem quiet_created (C : Conduct R) (settings : Table) (s : Session R) :
    Session.Quiet s (((s.enterLog (.plain .info Session.clientLogger "Initializing consumer"
      none)).enter (.createConsumer settings)).advance [] (C.onCreate s.own).2) := by
  have hlogged := Session.Quiet.enterLog s
    (.plain .info Session.clientLogger "Initializing consumer" none)
  have hentered := Session.Quiet.enter (s.enterLog (.plain .info Session.clientLogger
    "Initializing consumer" none)) (o := .createConsumer settings) rfl rfl
  refine hlogged.trans (hentered.trans (.of_same ?_ rfl))
  exact List.append_nil _

theorem quiet_begun (C : Conduct R) (c : Client R) (settings : Table) (s : Session R) :
    Session.Quiet s (begun C c settings s) := by
  have hconnected : Session.Quiet s (connected C settings s) := by
    have hcreated := quiet_created C settings s
    unfold connected
    simp only [Session.own_enter, Session.own_enterLog]
    exact hcreated.trans ((Session.Quiet.enterLog _ _).trans (.of_same rfl rfl))
  exact hconnected.trans (.opened _ _ _)

theorem quiet_prepare (C : Conduct R) (c : Client R) (serial : Nat) :
    Kept Session.Quiet (prepare C.environment c serial).run := by
  have hinstructed : Kept Session.Quiet (Action.change serial c.instruct : Action R Unit).run :=
    fun s => Session.Quiet.modifyReader s serial fun _ => rfl
  exact Session.Quiet.bind hinstructed fun _ => Session.Quiet.bind (.record rfl rfl) fun _ =>
    Session.Quiet.bind (.onOwn _) fun _ => Session.Quiet.subscribe C c.topics

/-- A consumer that was told its topics knows them. -/
theorem subscribe_ok {topics : List String} {after : Session R} {consumer : Consumer}
    (hfeed : s.feed = .consumer consumer)
    (h : (Session.subscribe C.environment topics).run s = (.ok (), after)) :
    after.feed = .consumer { consumer with subscribed := true } := by
  obtain ⟨_, s₁, hlog, h⟩ := Action.ok_of_run_bind h
  obtain ⟨_, s₂, hrecord, h⟩ := Action.ok_of_run_bind h
  obtain ⟨_, s₃, hcall, h⟩ := Action.ok_of_run_bind h
  obtain rfl := (Prod.mk.inj hlog).2
  obtain rfl := (Prod.mk.inj hrecord).2
  obtain rfl := (Prod.mk.inj hcall).2
  obtain rfl := (Prod.mk.inj h).2
  have hlogged : (s.enterLog (.plain .info Session.sourceLogger
      ("Subscribing to " ++ Text.join ", " topics) none)).feed = .consumer consumer := by
    rw [← Session.feed_withoutLog, Session.withoutLog_enterLog, Session.feed_withoutLog, hfeed]
  exact Session.feed_knowsTopics hlogged

/-- What is left when a client has waited and subscribed. -/
structure Prepared (C : Conduct R) (c : Client R) (serial : Nat) (consumer : Consumer)
    (s entry : Session R) : Prop where
  readers : entry.readers = (s.modifyReader serial c.instruct).readers
  installed : entry.installed = s.installed
  feed : entry.feed = .consumer { consumer with subscribed := true }
  own : entry.own = (C.onSubscribe c.topics (C.onSleep c.options.initWait s.own).2).2

theorem prepare_ok {serial : Nat} {entry : Session R} {consumer : Consumer}
    (hfeed : s.feed = .consumer consumer)
    (h : (prepare C.environment c serial).run s = (.ok (), entry)) :
    Prepared C c serial consumer s entry := by
  obtain ⟨_, s₁, hchange, h⟩ := Action.ok_of_run_bind h
  obtain ⟨_, s₂, hrecord, h⟩ := Action.ok_of_run_bind h
  obtain ⟨_, s₃, hslept, h⟩ := Action.ok_of_run_bind h
  obtain rfl := (Prod.mk.inj hchange).2
  obtain rfl := (Prod.mk.inj hrecord).2
  obtain rfl := (Prod.mk.inj hslept).2
  obtain ⟨hreaders, hinstalled, hown⟩ := Session.subscribe_run C c.topics
    (((s.modifyReader serial c.instruct).enter (.sleep c.options.initWait)).advance [] _)
  rw [h] at hreaders hinstalled hown
  refine ⟨hreaders, hinstalled, subscribe_ok ?_ h, hown⟩
  exact hfeed

theorem own_begun (C : Conduct R) (c : Client R) (settings : Table) (s : Session R) :
    (begun C c settings s).own = (C.onCreate s.own).2 := by
  show (Session.enterLog _ _).own = _
  rw [Session.own_enterLog]
  show (C.onCreate (Session.own _)).2 = _
  rw [Session.own_enter, Session.own_enterLog]

/-- When the loop is entered, the client's reader stands alone on its consumer,
    and nothing has become known yet. -/
theorem tracks_entry {settings : Table} {entry : Session R}
    (hprepare : (prepare C.environment c s.readers.length).run (begun C c settings s) =
      (.ok (), entry)) :
    ({ entry with running := true } : Session R).Tracks s.readers.length .nobody c.ownReader
      ownFeed .empty s.news := by
  have hquiet : Session.Quiet (begun C c settings s)
      ((prepare C.environment c s.readers.length).run (begun C c settings s)).2 :=
    quiet_prepare C c s.readers.length (begun C c settings s)
  rw [hprepare] at hquiet
  have hprepared : Prepared C c s.readers.length ownConsumer (begun C c settings s) entry :=
    prepare_ok rfl hprepare
  have hopened : (begun C c settings s).reader? s.readers.length =
      some (Session.newReader "" (some (.real c.options.pollTimeout)) .nobody) := by
    rw [← length_connected C settings s]
    exact Session.reader?_opened (connected C settings s) _ _
  refine ⟨⟨rfl, ?_, ?_, rfl⟩, hprepared.feed,
    hquiet.news.trans (quiet_begun C c settings s).news⟩
  · show entry.installed = _
    rw [hprepared.installed]
    show Listener.reader (connected C settings s).readers.length .nobody = _
    rw [length_connected]
  · show entry.readers[s.readers.length]? = _
    rw [hprepared.readers]
    show ((begun C c settings s).modifyReader s.readers.length c.instruct).reader? _ = _
    rw [Session.reader?_modifyReader, if_pos rfl, hopened]
    rfl

/-- What the users have of their own by then. -/
theorem own_entry {settings : Table} {entry : Session R}
    (hprepare : (prepare C.environment c s.readers.length).run (begun C c settings s) =
      (.ok (), entry)) : entry.own = C.prepared c.options.initWait c.topics s.own := by
  have hprepared : Prepared C c s.readers.length ownConsumer (begun C c settings s) entry :=
    prepare_ok rfl hprepare
  rw [hprepared.own, own_begun]
  rfl

end Client

/-! ## §5. What a run recounts. -/

/-- Between two sessions these turns were taken, one at each poll; of what they
    brought, this was printed, and nothing else.  At the first poll the users
    remembered `memory`. -/
structure Recounts (C : Conduct R) (memory : R.Memory) (serial : Nat) (turns : List Turn)
    (s final : Session R) (taken : List Turn) (ds : List Delivery) (events : List Event)
    (errors : List (Message × ErrorCode)) : Prop where
  /-- These are the first things that the transport does. -/
  script : taken <+: turns ++ [.interrupt]
  asked : final.asked = s.asked + taken.length
  brought : ds = C.brought Client.ownFeed Codec.utf8 .empty memory taken
  /-- The story starts with nothing tracked, and ends with what the reader
      tracks. -/
  narrated : Narrated .empty ds events errors (final.tracker serial)
  output : final.output = s.output ++ asText (events.map Event.line)
  complaints : final.complaints =
    s.complaints ++ asText (errors.map fun x => Session.errorLine x.1 x.2)

namespace Recounts

variable {C : Conduct R} {memory : R.Memory} {serial : Nat} {turns taken : List Turn}
  {s s' final : Session R} {ds : List Delivery} {events : List Event}
  {errors : List (Message × ErrorCode)}

/-- There is nothing to tell. -/
theorem of_quiet (memory : R.Memory) (turns : List Turn) (h : Session.Quiet s final)
    (hfresh : s.tracker serial = .empty) :
    Recounts C memory serial turns s final [] [] [] [] := by
  refine ⟨List.nil_prefix, h.asked, rfl, ?_, ?_, ?_⟩
  · rw [h.tracker, hfresh]
    exact .done .empty
  · rw [h.output]
    exact String.append_empty.symm
  · rw [h.complaints]
    exact String.append_empty.symm

/-- Nothing was told before. -/
theorem before (hr : Recounts C memory serial turns s' final taken ds events errors)
    (h : Session.Quiet s s') :
    Recounts C memory serial turns s final taken ds events errors := by
  refine ⟨hr.script, ?_, hr.brought, hr.narrated, ?_, ?_⟩
  · rw [hr.asked, h.asked]
  · rw [hr.output, h.output]
  · rw [hr.complaints, h.complaints]

/-- Nothing was told afterwards. -/
theorem after (hr : Recounts C memory serial turns s s' taken ds events errors)
    (h : Session.Quiet s' final) :
    Recounts C memory serial turns s final taken ds events errors := by
  refine ⟨hr.script, ?_, hr.brought, ?_, ?_, ?_⟩
  · rw [h.asked, hr.asked]
  · rw [h.tracker]
    exact hr.narrated
  · rw [h.output, hr.output]
  · rw [h.complaints, hr.complaints]

end Recounts

namespace Session

/-- A reader that has not been opened yet tracks nothing. -/
theorem tracker_fresh (s : Session R) : s.tracker s.readers.length = .empty := by
  unfold tracker reader?
  rw [List.getElem?_eq_none (Nat.le_refl _)]
  rfl

end Session

namespace Client

variable {C : Conduct R} {c : Client R} {s : Session R}

/-- What comes between the loop and the end of a run. -/
theorem quiet_cleanedUp {serial : Nat} {asked : List Occurrence} {result : Except Raised Unit}
    {left : Session R} {final : Except Raised Unit × Session R}
    (h : CleanedUp C serial s asked result left final) : Session.Quiet left final.2 := by
  rw [h.source]
  have hclosed : Session.Quiet (left.closeReader serial)
      ((Session.closeSource C.environment).run (left.closeReader serial)).2 :=
    Session.Quiet.closeSource C _
  exact (Session.Quiet.closeReader left serial).trans hclosed

/-- A consumer that cannot be made leaves nothing to tell. -/
theorem quiet_uncreated {settings : Table} {e : Raised} (hsettings : c.settings = .ok settings)
    (hcreate : (C.onCreate s.own).1 = .error e) (turns : List Turn) :
    Session.Quiet s ((run C.environment c turns).run s).2 := by
  have hsettings' : (ofExcept c.settings : Action R Table).run s = (.ok settings, s) := by
    rw [hsettings]
    rfl
  have hcreated : C.environment.onCreate.run ((s.enterLog (.plain .info Session.clientLogger
      "Initializing consumer" none)).enter (.createConsumer settings)) =
        (.error e, ((s.enterLog (.plain .info Session.clientLogger "Initializing consumer"
          none)).enter (.createConsumer settings)).advance [] (C.onCreate s.own).2) := by
    show ((C.onCreate (Session.own _)).1, Session.advance _ [] (C.onCreate (Session.own _)).2) = _
    rw [Session.own_enter, Session.own_enterLog, hcreate]
  unfold run
  rw [Action.run_bind_ok hsettings', Action.run_bind_ok (Action.run_log _ s),
    Action.run_bind_ok (Action.run_record _ _), Action.run_bind_error hcreated]
  exact quiet_created C settings s

/-- A run that does not get to its loop leaves nothing to tell either. -/
theorem quiet_unprepared {settings : Table} (hsettings : c.settings = .ok settings)
    (hcreate : (C.onCreate s.own).1 = .ok ()) (turns : List Turn) {e : Raised} {left : Session R}
    (hprepare : (prepare C.environment c s.readers.length).run (begun C c settings s) =
      (.error e, left)) : Session.Quiet s ((run C.environment c turns).run s).2 := by
  have hprepared : Session.Quiet (begun C c settings s)
      ((prepare C.environment c s.readers.length).run (begun C c settings s)).2 :=
    quiet_prepare C c s.readers.length (begun C c settings s)
  rw [hprepare] at hprepared
  have hended := quiet_cleanedUp (unprepared_run hsettings hcreate turns hprepare)
  exact (quiet_begun C c settings s).trans (hprepared.trans hended)

/-- A run that gets to its loop tells the story of what is delivered in it. -/
theorem recounts_looped (hc : c.Prints) {settings : Table} {turns taken : List Turn} {last : Turn}
    {entry left : Session R} {result : Except Raised Unit} {final : Except Raised Unit × Session R}
    (hprepare : (prepare C.environment c s.readers.length).run (begun C c settings s) =
      (.ok (), entry))
    (hlooped : Looped C.environment s.readers.length turns { entry with running := true } taken last
      (result, left))
    (hcleanedUp : CleanedUp C s.readers.length s (List.replicate (taken.length + 1) c.polling)
      result left final) :
    ∃ ds events errors,
      Recounts C (C.prepared c.options.initWait c.topics s.own).memory s.readers.length turns s
        final.2 (taken ++ [last]) ds events errors := by
  have hentry := tracks_entry hprepare
  have hreads := hc.reads C
  have hloop := hentry.rounds hreads (taken ++ [last])
  have hbrought := hentry.brought hreads hc.plain rfl hlooped.goesOn last
  rw [← congrArg Own.memory (own_entry hprepare)]
  generalize Session.roundsBring C s.readers.length { entry with running := true }
    (taken ++ [last]) = ds at hloop hbrought
  rw [← hlooped.state] at hloop
  have hquiet := quiet_cleanedUp hcleanedUp
  obtain ⟨events, errors, hnarrated, hprinted, hcomplained⟩ :=
    narrated_newsOf hc.plain.toPrints ownFeed ds .empty
  refine ⟨ds, events, errors, ?_, ?_, hbrought, ?_, ?_, ?_⟩
  · obtain ⟨rest, hscript⟩ := hlooped.script
    exact ⟨rest, by rw [hscript, List.append_assoc]; rfl⟩
  · have hpolls : (List.replicate (taken.length + 1) c.polling).countP Occurrence.isPoll =
        taken.length + 1 := by
      rw [List.countP_replicate]
      rfl
    rw [Session.asked_eq_marks, hcleanedUp.consumer, hcleanedUp.asked, List.countP_append,
      List.countP_append, hpolls, ← Session.asked_eq_marks, List.length_append]
    rfl
  · rw [hquiet.tracker, Session.tracker_of_reader? hloop.stands.reader]
    exact hnarrated
  · rw [hquiet.output, Session.output_eq_news, hloop.news, List.filterMap_append, asText_append,
      hprinted, ← Session.output_eq_news]
  · rw [hquiet.complaints, Session.complaints_eq_news, hloop.news, List.filterMap_append,
      asText_append, hcomplained, ← Session.complaints_eq_news]

/-- **A run of a client that prints**, however far it gets. -/
theorem recounts_run (C : Conduct R) (hc : c.Prints) (turns : List Turn) (s : Session R) :
    ∃ taken ds events errors,
      Recounts C (C.prepared c.options.initWait c.topics s.own).memory s.readers.length turns s
        ((run C.environment c turns).run s).2 taken ds events errors := by
  have hnothing : ∀ {final : Session R}, Session.Quiet s final →
      ∃ taken ds events errors,
        Recounts C (C.prepared c.options.initWait c.topics s.own).memory s.readers.length turns s
          final taken ds events errors :=
    fun h => ⟨[], [], [], [], .of_quiet _ turns h s.tracker_fresh⟩
  cases hsettings : c.settings with
  | error f =>
    have hrun : (run C.environment c turns).run s = (.error (.of f), s) := by
      unfold run
      rw [hsettings]
      rfl
    rw [hrun]
    exact hnothing (.refl s)
  | ok settings =>
    cases hcreate : (C.onCreate s.own).1 with
    | error e => exact hnothing (quiet_uncreated hsettings hcreate turns)
    | ok u =>
      rcases hprepare : (prepare C.environment c s.readers.length).run (begun C c settings s) with
        ⟨prepared, entry⟩
      cases prepared with
      | error e => exact hnothing (quiet_unprepared hsettings hcreate turns hprepare)
      | ok u =>
        obtain ⟨taken, last, result, left, hlooped, hcleanedUp⟩ :=
          looped_run hsettings hcreate turns hprepare
        exact ⟨taken ++ [last], recounts_looped hc hprepare hlooped hcleanedUp⟩

end Client

/-! ## §6. The whole program. -/

namespace Program

variable {C : Conduct R}

/-- What the users have of their own when a program enters the loop of its client,
    if it gets there: how long the client waits is an option of its
    configuration. -/
def prepared (C : Conduct R) (config : Except Failure Value) (topics : List String) (o : Own R) :
    Own R :=
  match config.bind Config.Options.ofConfig with
  | .ok options => C.prepared options.initWait topics o
  | .error _ => o

theorem prepared_of_make {config : Value} {topics : List String} {manners : Client.Manners R}
    {c : Client R} (h : Client.make config topics manners = .ok c) (o : Own R) :
    prepared C (.ok config) topics o = C.prepared c.options.initWait c.topics o := by
  have hoptions : (Except.ok config).bind Config.Options.ofConfig = .ok c.options :=
    options_of_make h
  unfold prepared
  rw [hoptions, (config_of_make h).2.1]

theorem prints_of_make {config : Value} {topics : List String} {c : Client R}
    (h : Client.make config topics printing = .ok c) : c.Prints := by
  obtain ⟨-, -, hmanners⟩ := config_of_make h
  obtain ⟨hkey, hvalue, honEvent, honError⟩ := Client.Manners.mk.inj hmanners
  exact ⟨hkey.symm, hvalue.symm, honEvent.symm, honError.symm⟩

/-- From a configuration on. -/
theorem recounts_serve (C : Conduct R) (config : Except Failure Value) (topics : List String)
    (turns : List Turn) (s : Session R) :
    ∃ taken ds events errors,
      Recounts C (prepared C config topics s.own).memory s.readers.length turns s
        ((serve C.environment config topics printing turns).run s).2 taken ds events errors := by
  have hset : ∀ settings, Session.Quiet s (s.enter (.configureLogging settings)) := fun _ =>
    .enter s rfl rfl
  have hserved := serve_run C.environment config topics printing turns s
  generalize ((serve C.environment config topics printing turns).run s).2 = final at hserved ⊢
  cases hserved with
  | unlogged => exact ⟨[], [], [], [], .of_quiet _ turns (.refl s) s.tracker_fresh⟩
  | unmade settings => exact ⟨[], [], [], [], .of_quiet _ turns (hset settings) s.tracker_fresh⟩
  | @failed given settings c hconfig hmake =>
    obtain ⟨taken, ds, events, errors, hrecounts⟩ :=
      Client.recounts_run C (prints_of_make hmake) turns (s.enter (.configureLogging settings))
    rw [hconfig, prepared_of_make hmake]
    exact ⟨taken, ds, events, errors, hrecounts.before (hset settings)⟩
  | @ended given settings c hconfig hmake =>
    obtain ⟨taken, ds, events, errors, hrecounts⟩ :=
      Client.recounts_run C (prints_of_make hmake) turns (s.enter (.configureLogging settings))
    rw [hconfig, prepared_of_make hmake]
    refine ⟨taken, ds, events, errors, (hrecounts.before (hset settings)).after ?_⟩
    exact .enter _ rfl rfl

/-- **What the program prints is what the messages and rebalances that it
    polled come to**, in order, and nothing else.  It does not matter what its
    configuration is, how the run ends, or what its consumer makes of the calls
    to it.  A consumer that refuses an assignment brings no message with it, and
    whether it does may depend on what the users remember at that call.  Octets
    are read as the text that they are written for, if there is one. -/
theorem main_recounts (C : Conduct R) (store : Config.Store) {words topics : List String}
    {config group : CommandLine.Setting}
    (hwords : CommandLine.parse words = .run topics config group) (turns : List Turn)
    (s : Session R) :
    (∃ taken ds events errors,
      Recounts C
        (prepared C (configure store (originOf config) (appIdOf group)).1 topics s.own).memory
        s.readers.length turns s ((main C.environment store words turns).1.run s).2 taken ds events
        errors) ∧
      ∀ b text, Octets.decode? b = some text ↔ Octets.encode text = b := by
  refine ⟨?_, fun b text => Octets.decode?_eq_some_iff⟩
  unfold main
  rw [hwords]
  exact recounts_serve C _ topics turns s

end Program

namespace Sample

/-- A store that remembers where the broker is and what the client is called. -/
def remembering : Config.Store :=
  { Config.Store.start Config.Files.bare none with
    cached := some
      [("connection", .table [("brokers", .list [.text "broker"])]),
        ("client", .table [("app_id", .text "app")])] }

/-- A turn that delivers a message from a partition of the topic `"t"`. -/
def brings (index : Int) (key payload : Option Octets) (error : Option ErrorCode) : Turn :=
  { Turn.idle with message := some ⟨partition index, some 7, key, payload, error⟩ }

/-- A value is written, a key is no text, the broker is gone, the first of two
    partitions is taken away and the other one read to its end. -/
def morning : List Turn :=
  [{ brings 0 (some [0x6b]) (some [0x76]) none with
      assign := some [⟨partition 0, none⟩, ⟨partition 1, none⟩] },
    brings 1 (some [0xc0, 0x80]) none none, brings 1 none none (some ⟨-195⟩),
    { brings 1 none none (some .endOfPartition) with assign := some [⟨partition 1, none⟩] }]

end Sample

theorem main_recounts_of_sample :
    CommandLine.parse ["t"] = .run ["t"] .absent .absent ∧
      (∃ taken ds events errors,
        Recounts Sample.conduct
          (Program.prepared Sample.conduct
            (Program.configure Sample.remembering .default none).1 ["t"] Sample.blank.own).memory
          Sample.blank.readers.length Sample.morning Sample.blank
          ((Program.main Sample.conduct.environment Sample.remembering ["t"] Sample.morning).1.run
            Sample.blank).2 taken ds events errors) ∧
      ∀ b text, Octets.decode? b = some text ↔ Octets.encode text = b := by
  have hwords : CommandLine.parse ["t"] = .run ["t"] .absent .absent := by rfl
  exact ⟨hwords, Program.main_recounts Sample.conduct Sample.remembering hwords Sample.morning
    Sample.blank⟩

example :
    ((Program.main Sample.conduct.environment Sample.remembering ["t"] Sample.morning).1.run
      Sample.blank).2.output = "SET    t[0] k = v\nCLEAR  t[0]\nEOF    t[1]\n" := by
  decide +kernel

end ChangeFeed
