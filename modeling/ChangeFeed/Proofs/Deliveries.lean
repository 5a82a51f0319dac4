/-
  ChangeFeed.Proofs.Deliveries — what a reader makes of what polls deliver.

  When decoders depend on nothing but what they are given, and the handler
  takes every event, a reader is a function of what is delivered to it: of the
  rebalances, each with what the listener below leaves, and of the messages.
  From these alone follow what is tracked, what the handlers are told and what
  the source takes over at each rebalance.

  Main results:
    * `Conduct.step_deliveries` — one step, from what its poll delivers.
    * `Session.Tracks.strides` — any number of steps.
    * `Session.deliveries_brings`, `Session.Tracks.delivered` — with nobody
      below the reader, what is delivered is what the transport brings.
-/

import ChangeFeed.Proofs.History

namespace ChangeFeed

variable {R : Roles}

/-! ## §1. Deliveries. -/

/-- What a poll brings a reader. -/
inductive Delivery where
  /-- An assignment, as the listener below the reader leaves it. -/
  | rebalance (left : Assignment)
  | message (m : Message)
deriving DecidableEq

namespace Session

/-- The rebalance that comes with a poll. -/
def rebalanced (C : Conduct R) (base : Listener) (s : Session R) (turn : Turn) : List Delivery :=
  match turn.delivered s.feed with
  | none => []
  | some a => [.rebalance (C.hear base a s.own).left.assignment]

/-- What comes with a poll, in order.  A poll that fails gives no message. -/
def deliveries (C : Conduct R) (base : Listener) (serial : Nat) (s : Session R)
    (timeout : Option Timeout) (turn : Turn) : List Delivery :=
  s.rebalanced C base turn ++
    match ((poll C.environment (s.effectiveTimeout serial timeout) turn).run s).1 with
    | .ok (some m) => [.message m]
    | _ => []

end Session

/-- Decoders that depend on nothing but what they are given.  They may fail. -/
structure Codec where
  key : Option Octets → Except Raised (Option Value)
  value : Value → Octets → Except Raised (Option Value)

namespace Codec

/-- The event that a payload under a key stands for. -/
def eventUnder (d : Codec) (m : Message) (key : Value) : Except Raised (Option Event) :=
  match m.payload with
  | none => .ok (some (.delete m.partition key))
  | some [] => .ok (some (.delete m.partition key))
  | some payload => (d.value key payload).map (·.map (.set m.partition key))

/-- The event that a record stands for, if it can be decoded. -/
def event? (d : Codec) (m : Message) : Except Raised (Option Event) :=
  match d.key m.key with
  | .error e => .error e
  | .ok none => .ok none
  | .ok (some key) => d.eventUnder m key

/-- What a message makes of a tracker.  One that reports an error leaves it
    alone, and so does a record on which a decoder fails. -/
def note (d : Codec) (t : Tracker) (m : Message) : Tracker :=
  match m.error, d.event? m with
  | none, .ok _ => t.update m.partition m.offset
  | _, _ => t

/-- What a delivery makes of a tracker. -/
def track (d : Codec) (t : Tracker) : Delivery → Tracker
  | .rebalance left => t.restrict (Assignment.partitions left)
  | .message m => d.note t m

/-- What a reader tells its handlers of a message. -/
def told (d : Codec) (r : Reader R) (m : Message) : List Occurrence :=
  match m.error with
  | some code =>
    if isEndOfPartition (some code) then r.eventCalls (.endReached m.partition)
    else r.errorCalls m code
  | none =>
    match d.event? m with
    | .ok (some e) => r.eventCalls e
    | _ => []

/-- What becomes known of a delivery while `t` is tracked: what the handlers are
    told, and what the source takes over. -/
def news (d : Codec) (feed : Feed) (r : Reader R) (t : Tracker) : Delivery → List Occurrence
  | .rebalance left =>
    r.clears (t.untrackedBy (Assignment.partitions left)) ++ [feed.applied (t.resume left)]
  | .message m => d.told r m

/-- What becomes known of several deliveries. -/
def newsOf (d : Codec) (feed : Feed) (r : Reader R) : Tracker → List Delivery → List Occurrence
  | _, [] => []
  | t, x :: rest => d.news feed r t x ++ newsOf d feed r (d.track t x) rest

/-- What the reader itself tracks does not matter to that. -/
theorem newsOf_tracking (d : Codec) (feed : Feed) (r : Reader R) (u t : Tracker)
    (xs : List Delivery) :
    d.newsOf feed { r with tracker := u } t xs = d.newsOf feed r t xs := by
  induction xs generalizing t with
  | nil => rfl
  | cons x rest ih =>
    have hnews : d.news feed { r with tracker := u } t x = d.news feed r t x := by
      cases x <;> rfl
    show d.news feed _ t x ++ _ = d.news feed r t x ++ _
    rw [hnews, ih]

theorem newsOf_append (d : Codec) (feed : Feed) (r : Reader R) (t : Tracker)
    (xs ys : List Delivery) :
    d.newsOf feed r t (xs ++ ys) =
      d.newsOf feed r t xs ++ d.newsOf feed r (xs.foldl d.track t) ys := by
  induction xs generalizing t with
  | nil => rfl
  | cons x rest ih =>
    show d.news feed r t x ++ d.newsOf feed r (d.track t x) (rest ++ ys) = _
    rw [ih, ← List.append_assoc]
    rfl

end Codec

/-- A reader decodes like this, and its handler takes every event. -/
structure Conduct.Reads (C : Conduct R) (r : Reader R) (d : Codec) : Prop where
  key : ∀ data o, (C.key r.keyDecoding data o).1 = d.key data
  value : ∀ key data o, (C.value r.valueDecoding key data o).1 = d.value key data
  accepts : ∀ e o, (C.event r.onEvent e o).1 = .ok ()

/-! ## §2. News among all that is done. -/

/-- Is it something that handlers are told, or an assignment that the source
    takes over? -/
def Occurrence.isNews : Occurrence → Bool
  | .assigned _ | .assign _ | .event _ _ | .error _ _ _ | .printed _ | .complained _ => true
  | _ => false

theorem filter_news_eventCalls (r : Reader R) (e : Event) :
    (r.eventCalls e).filter Occurrence.isNews = r.eventCalls e := by
  unfold Reader.eventCalls
  cases r.onEvent <;> rfl

theorem filter_news_errorCalls (r : Reader R) (m : Message) (code : ErrorCode) :
    (r.errorCalls m code).filter Occurrence.isNews = r.errorCalls m code := by
  unfold Reader.errorCalls
  cases r.onError <;> rfl

theorem filter_news_clears (r : Reader R) (ps : List Partition) :
    (r.clears ps).filter Occurrence.isNews = r.clears ps := by
  induction ps with
  | nil => rfl
  | cons p rest ih =>
    show (r.eventCalls (.clear p) ++ r.clears rest).filter _ = _
    rw [List.filter_append, filter_news_eventCalls, ih]
    rfl

theorem filter_news_keyCalls (r : Reader R) (data : Option Octets) :
    (r.keyCalls data).filter Occurrence.isNews = [] := by
  unfold Reader.keyCalls
  cases r.keyDecoding <;> rfl

theorem filter_news_valueCalls (r : Reader R) (key : Value) (data : Octets) :
    (r.valueCalls key data).filter Occurrence.isNews = [] := by
  unfold Reader.valueCalls
  cases r.valueDecoding <;> rfl

theorem isNews_applied (feed : Feed) (a : Assignment) : (feed.applied a).isNews = true := by
  cases feed <;> rfl

theorem isNews_polled (feed : Feed) (timeout : Option Timeout) :
    (feed.polled timeout).isNews = false := by
  cases feed <;> rfl

theorem filter_news_calls (base : Listener) (a : Assignment) :
    (base.calls a).filter Occurrence.isNews = [] := by
  cases base <;> rfl

/-! ## §3. One message. -/

namespace Conduct

variable {C : Conduct R} {base : Listener} {r : Reader R} {d : Codec}

/-- Reading does not depend on what is tracked. -/
theorem Reads.tracking (h : C.Reads r d) (t : Tracker) : C.Reads { r with tracker := t } d :=
  ⟨h.key, h.value, h.accepts⟩

theorem Reads.ordinaryAt (h : C.Reads r d) : C.OrdinaryAt r.onEvent := by
  intro e o f hf
  rw [h.accepts e o] at hf
  cases hf

theorem Reads.tell (h : C.Reads r d) (e : Event) (o : Own R) :
    ∃ o', C.tell r e o = ⟨.ok (), r.eventCalls e, o'⟩ := by
  refine ⟨(C.event r.onEvent e o).2, ?_⟩
  show (⟨(C.event r.onEvent e o).1, _, _⟩ : Went R Unit) = _
  rw [h.accepts]

/-- A record's payload is decoded as it stands, and nobody is told of that but
    the decoder. -/
theorem Reads.eventOf (h : C.Reads r d) (m : Message) (key : Value) (o : Own R) :
    (C.eventOf r m key o).result = d.eventUnder m key ∧
      (C.eventOf r m key o).calls.filter Occurrence.isNews = [] := by
  unfold Conduct.eventOf Codec.eventUnder
  rcases m.payload with _ | _ | ⟨octet, rest⟩
  · exact ⟨rfl, rfl⟩
  · exact ⟨rfl, rfl⟩
  · simp only
    have hvalue := h.value key (octet :: rest) o
    rcases hasked : C.askValue r key (octet :: rest) o with ⟨result, calls, o'⟩
    have hresult : result = d.value key (octet :: rest) := by
      rw [← hvalue]
      exact (congrArg Went.result hasked).symm
    have hcalls : calls = r.valueCalls key (octet :: rest) := (congrArg Went.calls hasked).symm
    rw [← hresult]
    have hnews := filter_news_valueCalls r key (octet :: rest)
    rw [← hcalls] at hnews
    cases result with
    | error e =>
      rw [Dealing.bind_error hasked]
      exact ⟨rfl, hnews⟩
    | ok value =>
      rw [Dealing.bind_ok hasked]
      cases value with
      | none => exact ⟨rfl, by rw [List.filter_append, hnews]; rfl⟩
      | some value => exact ⟨rfl, by rw [List.filter_append, hnews]; rfl⟩

/-- **What becomes of a record.** -/
theorem Reads.handleRecord (h : C.Reads r d) (m : Message) (o : Own R) :
    (C.handleRecord r m o).result = d.event? m ∧
      (C.handleRecord r m o).calls.filter Occurrence.isNews =
        match d.event? m with
        | .ok (some e) => r.eventCalls e
        | _ => [] := by
  unfold Conduct.handleRecord Codec.event?
  rcases hasked : C.askKey r m.key o with ⟨result, calls, o₁⟩
  have hresult : result = d.key m.key := by
    rw [← h.key m.key o]
    exact (congrArg Went.result hasked).symm
  have hcalls : calls.filter Occurrence.isNews = [] := by
    rw [show calls = r.keyCalls m.key from (congrArg Went.calls hasked).symm]
    exact filter_news_keyCalls r m.key
  rw [← hresult]
  rcases result with e | _ | key
  · rw [Dealing.bind_error hasked]
    exact ⟨rfl, hcalls⟩
  · rw [Dealing.bind_ok hasked]
    exact ⟨rfl, by rw [List.filter_append, hcalls]; rfl⟩
  · rw [Dealing.bind_ok hasked]
    simp only
    obtain ⟨hevent, hnews⟩ := h.eventOf m key o₁
    rcases hof : C.eventOf r m key o₁ with ⟨event, more, o₂⟩
    rw [hof] at hevent hnews
    simp only at hevent hnews
    rw [← hevent]
    -- the handler is told of the event, if there is one, and takes it
    rcases event with e | _ | event
    · rw [Dealing.bind_error hof]
      exact ⟨rfl, by rw [List.filter_append, hcalls, hnews]; rfl⟩
    · rw [Dealing.bind_ok hof]
      exact ⟨rfl, by rw [List.filter_append, List.filter_append, hcalls, hnews]; rfl⟩
    · rw [Dealing.bind_ok hof]
      simp only
      obtain ⟨o₃, htell⟩ := h.tell event o₂
      rw [Dealing.bind_ok htell]
      refine ⟨rfl, ?_⟩
      show (calls ++ (more ++ (r.eventCalls event ++ []))).filter _ = r.eventCalls event
      rw [List.append_nil, List.filter_append, List.filter_append, hcalls, hnews,
        filter_news_eventCalls]
      rfl

/-- A message that reports an error is told of, whatever comes of that. -/
theorem Reads.handleError (h : C.Reads r d) (m : Message) (code : ErrorCode) (o : Own R) :
    (C.handleError r m code o).calls.filter Occurrence.isNews =
      if isEndOfPartition (some code) then r.eventCalls (.endReached m.partition)
      else r.errorCalls m code := by
  unfold Conduct.handleError
  split
  · obtain ⟨o', htell⟩ := h.tell (.endReached m.partition) o
    rw [Dealing.bind_ok htell]
    show (r.eventCalls _ ++ []).filter _ = _
    rw [List.append_nil, filter_news_eventCalls]
  · rcases htold : C.tellError r m code o with ⟨result, calls, o'⟩
    have hcalls : calls = r.errorCalls m code := (congrArg Went.calls htold).symm
    have hnews := filter_news_errorCalls r m code
    cases result with
    | error e =>
      rw [Dealing.bind_error htold, hcalls]
      exact hnews
    | ok u =>
      rw [Dealing.bind_ok htold, hcalls]
      show (r.errorCalls m code ++ []).filter _ = _
      rw [List.append_nil, hnews]

/-- **A message, handled.** -/
theorem Reads.handle (h : C.Reads r d) (m : Message) (o : Own R) :
    r.handled m (C.handle r m o).result = { r with tracker := d.note r.tracker m } ∧
      (C.handle r m o).calls.filter Occurrence.isNews = d.told r m := by
  unfold Conduct.handle Reader.handled Codec.note Codec.told
  cases m.error with
  | some code => exact ⟨rfl, h.handleError m code o⟩
  | none =>
    obtain ⟨hresult, hnews⟩ := h.handleRecord m o
    simp only
    rw [hresult]
    refine ⟨?_, hnews⟩
    cases d.event? m <;> rfl

/-! ## §4. One step. -/

/-- A poll makes of the reader what the rebalance makes of it. -/
theorem Reads.poll (h : C.Reads r d) (base : Listener) (timeout : Option Timeout) (turn : Turn)
    (s : Session R) :
    (C.poll s.feed base r timeout turn s.own).reader =
        { r with tracker := (s.rebalanced C base turn).foldl d.track r.tracker } ∧
      (C.poll s.feed base r timeout turn s.own).calls.filter Occurrence.isNews =
        d.newsOf s.feed r r.tracker (s.rebalanced C base turn) := by
  unfold Conduct.poll Session.rebalanced
  cases turn.delivered s.feed with
  | none =>
    refine ⟨rfl, ?_⟩
    show [s.feed.polled timeout].filter _ = []
    rw [List.filter_cons, isNews_polled]
    rfl
  | some a =>
    refine ⟨rfl, ?_⟩
    set heard := C.hear base a s.own with hheard
    have hvisited : (C.sweepAt r heard.left.assignment heard.own).visited =
        r.dropped heard.left.assignment := sweepAt_visited h.ordinaryAt _ _
    have hcalls : (C.relayTo heard r).calls =
        base.calls a ++ r.clears (r.dropped heard.left.assignment) := by
      show heard.calls ++ r.clears (C.sweepAt r heard.left.assignment heard.own).visited = _
      rw [hvisited, hheard, hear_calls]
    show (s.feed.polled timeout :: ((C.relayTo heard r).calls ++
      [s.feed.applied (r.tracker.resume heard.left.assignment)])).filter _ =
        r.clears (r.dropped heard.left.assignment) ++
          [s.feed.applied (r.tracker.resume heard.left.assignment)] ++ []
    rw [hcalls, List.filter_cons, isNews_polled, List.filter_append, List.filter_append,
      filter_news_calls, filter_news_clears, List.filter_cons, isNews_applied, List.append_nil]
    rfl

/-- **A step of a reader, from what its poll delivers.** -/
theorem step_deliveries (h : C.Reads r d) {s : Session R} {serial : Nat}
    (hbase : ∀ a o, (C.hear base a o).Ordinary) (hs : s.Stands serial base r)
    (timeout : Option Timeout) (turn : Turn) :
    (C.step s.feed base r timeout turn s.own).reader =
        { r with tracker := (s.deliveries C base serial timeout turn).foldl d.track r.tracker } ∧
      (C.step s.feed base r timeout turn s.own).calls.filter Occurrence.isNews =
        d.newsOf s.feed r r.tracker (s.deliveries C base serial timeout turn) := by
  have htimeout : s.effectiveTimeout serial timeout = timeout.or r.timeout := by
    simp only [Session.effectiveTimeout, hs.reader, Option.bind_some]
  have hpolled := (Session.poll_run ⟨hbase, h.ordinaryAt⟩ hs (timeout.or r.timeout) turn).1
  obtain ⟨hreader, hnews⟩ := h.poll base (timeout.or r.timeout) turn s
  unfold Session.deliveries Conduct.step
  rw [htimeout, hpolled]
  generalize C.poll s.feed base r (timeout.or r.timeout) turn s.own = q at hreader hnews ⊢
  obtain ⟨result, reader, calls, own⟩ := q
  simp only at hreader hnews ⊢
  -- only a message changes anything after the rebalance
  rcases result with e | _ | m
  · exact ⟨by simpa using hreader, by simpa using hnews⟩
  · exact ⟨by simpa using hreader, by simpa using hnews⟩
  · subst hreader
    obtain ⟨hhandled, htold⟩ := (h.tracking
      ((s.rebalanced C base turn).foldl d.track r.tracker)).handle m own
    simp only
    refine ⟨?_, ?_⟩
    · rw [hhandled, List.foldl_append]
      rfl
    · rw [List.filter_append, hnews, htold, Codec.newsOf_append]
      show _ = _ ++ (d.told r m ++ [])
      rw [List.append_nil]
      rfl

end Conduct

/-! ## §5. Any number of steps. -/

namespace Session

/-- The news in the journal. -/
def news (s : Session R) : List Occurrence := s.journal.filter Occurrence.isNews

theorem news_withoutLog (s : Session R) : s.withoutLog.news = s.news := by
  show (s.journal.filter fun o => !o.isLog).filter Occurrence.isNews = _
  rw [List.filter_filter]
  refine List.filter_congr fun o _ => ?_
  cases o <;> rfl

/-- One step of a run: how long it may wait, and what the transport does. -/
abbrev Stride := Option Timeout × Turn

/-- The session after several steps of a reader, whatever came of them. -/
def strides (E : Environment R) (serial : Nat) (s : Session R) (run : List Stride) : Session R :=
  run.foldl (fun s x => ((step E serial x.1 x.2).run s).2) s

/-- What is delivered in the course of several moves, each of which brings
    something. -/
def gathered {X : Type} (move : Session R → X → Session R)
    (brings : Session R → X → List Delivery) : Session R → List X → List Delivery
  | _, [] => []
  | s, x :: rest => brings s x ++ gathered move brings (move s x) rest

theorem gathered_append {X : Type} (move : Session R → X → Session R)
    (brings : Session R → X → List Delivery) (s : Session R) (before after : List X) :
    gathered move brings s (before ++ after) =
      gathered move brings s before ++ gathered move brings (before.foldl move s) after := by
  induction before generalizing s with
  | nil => rfl
  | cons x rest ih =>
    show brings s x ++ gathered move brings (move s x) (rest ++ after) = _
    rw [ih, ← List.append_assoc]
    rfl

/-- What is delivered in the course of several steps. -/
def delivered (C : Conduct R) (base : Listener) (serial : Nat) (s : Session R)
    (run : List Stride) : List Delivery :=
  gathered (fun s x => ((step C.environment serial x.1 x.2).run s).2)
    (fun s x => s.deliveries C base serial x.1 x.2) s run

/-- A session in which a reader stands that tracks `t`, on this source, and of
    which this has become known. -/
structure Tracks (s : Session R) (serial : Nat) (base : Listener) (r : Reader R) (feed : Feed)
    (t : Tracker) (known : List Occurrence) : Prop where
  stands : s.Stands serial base { r with tracker := t }
  feed : s.feed = feed
  news : s.news = known

variable {C : Conduct R} {base : Listener} {r : Reader R} {d : Codec} {s : Session R}
  {serial : Nat} {feed : Feed} {t : Tracker} {known : List Occurrence}

theorem Stands.tracks (hs : s.Stands serial base r) :
    s.Tracks serial base r s.feed r.tracker s.news := ⟨hs, rfl, rfl⟩

/-- **What is delivered at a step decides what it comes to.** -/
theorem Tracks.step (hC : C.Reads r d) (hbase : ∀ a o, (C.hear base a o).Ordinary)
    (hs : s.Tracks serial base r feed t known) (timeout : Option Timeout) (turn : Turn) :
    ((Session.step C.environment serial timeout turn).run s).2.Tracks serial base r feed
      ((s.deliveries C base serial timeout turn).foldl d.track t)
      (known ++ d.newsOf feed r t (s.deliveries C base serial timeout turn)) := by
  obtain ⟨hstands, rfl, rfl⟩ := hs
  have hreads := hC.tracking t
  have hrun := step_run ⟨hbase, hreads.ordinaryAt⟩ hstands timeout turn
  obtain ⟨hreader, hnews⟩ := Conduct.step_deliveries hreads hbase hstands timeout turn
  refine ⟨?_, ?_, ?_⟩
  · have hafter := hrun.stands hstands (by rw [closed_step, hstands.isOpen])
    rwa [hreader] at hafter
  · have hfeed := feed_of_withoutLog hrun.2
    exact hfeed
  · rw [← news_withoutLog, hrun.2]
    show (s.deeds ++ _).filter Occurrence.isNews = _
    rw [List.filter_append, hnews, Codec.newsOf_tracking]
    show s.withoutLog.news ++ _ = s.news ++ _
    rw [news_withoutLog]

/-- Moves one after the other, each of which comes to what it brings.  The
    induction is on the moves. -/
theorem Tracks.moves {X : Type} {move : Session R → X → Session R}
    {brings : Session R → X → List Delivery}
    (hmove : ∀ {s t known} x, s.Tracks serial base r feed t known →
      (move s x).Tracks serial base r feed ((brings s x).foldl d.track t)
        (known ++ d.newsOf feed r t (brings s x)))
    (hs : s.Tracks serial base r feed t known) (xs : List X) :
    (xs.foldl move s).Tracks serial base r feed ((gathered move brings s xs).foldl d.track t)
      (known ++ d.newsOf feed r t (gathered move brings s xs)) := by
  induction xs generalizing s t known with
  | nil =>
    show s.Tracks serial base r feed t (known ++ [])
    rw [List.append_nil]
    exact hs
  | cons x rest ih =>
    have hrest := ih (hmove x hs)
    rw [List.append_assoc] at hrest
    show Session.Tracks (rest.foldl move (move s x)) serial base r feed
      ((brings s x ++ gathered move brings (move s x) rest).foldl d.track t)
      (known ++ d.newsOf feed r t (brings s x ++ gathered move brings (move s x) rest))
    rw [List.foldl_append, Codec.newsOf_append]
    exact hrest

/-- **What is delivered decides what a run comes to.** -/
theorem Tracks.strides (hC : C.Reads r d) (hbase : ∀ a o, (C.hear base a o).Ordinary)
    (hs : s.Tracks serial base r feed t known) (run : List Stride) :
    (s.strides C.environment serial run).Tracks serial base r feed
      ((s.delivered C base serial run).foldl d.track t)
      (known ++ d.newsOf feed r t (s.delivered C base serial run)) :=
  hs.moves (fun x hs => hs.step hC hbase x.1 x.2) run

/-! ## §6. A reader with nobody below it. -/

end Session

/-- What the transport brings at one turn, if nobody writes to its assignment. -/
def Turn.brings (turn : Turn) (feed : Feed) : List Delivery :=
  (turn.delivered feed).toList.map .rebalance ++
    match turn.ending with
    | .ok (some m) => [.message m]
    | _ => []

/-- What a turn brings a reader with nobody below it that tracks `t`, and what the
    users have of their own when the source has taken the assignment over; before
    that they have `o`.  A consumer may refuse the assignment.  Then the message
    is not polled. -/
def Conduct.brings (C : Conduct R) (feed : Feed) (t : Tracker) (o : Own R) (turn : Turn) :
    List Delivery × Own R :=
  match turn.delivered feed with
  | none => (turn.brings feed, o)
  | some a =>
    match C.apply feed ⟨t.resume a, none⟩ o with
    | (none, o') => (turn.brings feed, o')
    | (some _, o') => ([.rebalance a], o')

/-- A consumer that takes every assignment over keeps nothing from the reader. -/
theorem Conduct.brings_of_accepted {C : Conduct R}
    (hassign : ∀ a o, (C.onAssign a o).1 = .ok ()) (feed : Feed) (t : Tracker) (o : Own R)
    (turn : Turn) : (C.brings feed t o turn).1 = turn.brings feed := by
  unfold Conduct.brings Conduct.apply
  cases turn.delivered feed with
  | none => rfl
  | some a =>
    cases feed with
    | direct => rfl
    | consumer c =>
      have haccepted := hassign (t.resume a) o
      simp only
      rcases hasked : C.onAssign (t.resume a) o with ⟨result, o'⟩
      rw [hasked] at haccepted
      obtain rfl : result = .ok () := haccepted
      rfl

theorem Conduct.hear_nobody (C : Conduct R) (a : Assignment) (o : Own R) :
    (C.hear .nobody a o).Ordinary := by
  intro f hf
  cases hf

theorem Conduct.Reads.refusals {C : Conduct R} {r : Reader R} {d : Codec} (h : C.Reads r d)
    (ps : List Partition) (o : Own R) : (C.sweep r.onEvent ps o).refusals = [] := by
  induction ps generalizing o with
  | nil => rfl
  | cons p rest ih =>
    have haccepted : C.event r.onEvent (.clear p) o =
        (.ok (), (C.event r.onEvent (.clear p) o).2) := Prod.ext (h.accepts _ o) rfl
    rw [Conduct.sweep_cons_ok haccepted]
    exact ih _

namespace Session

variable {C : Conduct R} {r : Reader R} {d : Codec} {s : Session R} {serial : Nat}

/-- **A poll brings what the transport brings**, unless its consumer refuses the
    assignment.  By then the users have `o` of their own. -/
theorem deliveries_brings (hC : C.Reads r d) (hs : s.Stands serial .nobody r)
    (timeout : Option Timeout) (turn : Turn) {o : Own R}
    (ho : ∀ a, turn.delivered s.feed = some a → (C.sweepAt r a s.own).own = o) :
    s.deliveries C .nobody serial timeout turn = (C.brings s.feed r.tracker o turn).1 := by
  have hresult := (poll_run ⟨C.hear_nobody, hC.ordinaryAt⟩ hs
    (s.effectiveTimeout serial timeout) turn).1
  unfold deliveries Conduct.brings Turn.brings rebalanced
  rw [hresult]
  unfold Conduct.poll
  cases hdelivered : turn.delivered s.feed with
  | none => rfl
  | some a =>
    -- the handler takes all clear events, so the reader's listener does not fail
    have hfailure : (C.sweepAt r a s.own).failure none = none := by
      rw [Conduct.sweepAt_failure hC.ordinaryAt]
      exact congrArg (rebalanceFailure none) (hC.refusals (r.dropped a) s.own)
    have hleft : (C.relayTo (C.hear .nobody a s.own) r).left = ⟨r.tracker.resume a, none⟩ :=
      congrArg (Notified.mk (r.tracker.resume a)) hfailure
    have hown : (C.relayTo (C.hear .nobody a s.own) r).own = o := ho a hdelivered
    simp only [hleft, hown]
    rcases C.apply s.feed ⟨r.tracker.resume a, none⟩ o with ⟨failure, o'⟩
    cases failure <;> rfl

/-- Nothing on the way to the reader can fail but the transport itself. -/
theorem deliveries_of_nobody (hC : C.Reads r d) (hassign : ∀ a o, (C.onAssign a o).1 = .ok ())
    (hs : s.Stands serial .nobody r) (timeout : Option Timeout) (turn : Turn) :
    s.deliveries C .nobody serial timeout turn = turn.brings s.feed := by
  obtain ⟨o, ho⟩ : ∃ o, ∀ a, turn.delivered s.feed = some a → (C.sweepAt r a s.own).own = o := by
    cases turn.delivered s.feed with
    | none => exact ⟨s.own, fun a ha => by cases ha⟩
    | some a =>
      refine ⟨(C.sweepAt r a s.own).own, fun b hb => ?_⟩
      rw [Option.some.inj hb]
  rw [deliveries_brings hC hs timeout turn ho]
  exact Conduct.brings_of_accepted hassign s.feed r.tracker o turn

/-- **What is delivered above nobody is what the transport brings.**  The
    induction is on the steps; only what is tracked changes on the way. -/
theorem Tracks.delivered (hC : C.Reads r d) (hassign : ∀ a o, (C.onAssign a o).1 = .ok ())
    {feed : Feed} {t : Tracker} {known : List Occurrence}
    (hs : s.Tracks serial .nobody r feed t known) (run : List Stride) :
    s.delivered C .nobody serial run = run.flatMap fun x => x.2.brings feed := by
  induction run generalizing s t known with
  | nil => rfl
  | cons x rest ih =>
    have hfirst := deliveries_of_nobody (hC.tracking t) hassign hs.stands x.1 x.2
    rw [hs.feed] at hfirst
    show s.deliveries C .nobody serial x.1 x.2 ++ Session.delivered C .nobody serial _ rest = _
    rw [hfirst, ih (hs.step hC C.hear_nobody x.1 x.2)]
    rfl

end Session

end ChangeFeed
