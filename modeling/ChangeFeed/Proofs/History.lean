/-
  ChangeFeed.Proofs.History — what is tracked, told from what has happened.

  Two kinds of things happen to a reader that matter to its tracker: it
  completes a message, and a rebalance leaves it some partitions.  The history
  of a run lists them in order, from what polls delivered and what steps came
  to.  A partition is tracked at an offset exactly if the last thing in the
  history that concerns the partition is the completion of that offset.

  Main results:
    * `stands_after` — one move changes the tracker by what happens in it.
    * `find?_foldl_track` — the last word on a partition decides.
    * `tracked_iff_history` — the tracker as a function of the history.
-/

import ChangeFeed.Proofs.Dispatch
import ChangeFeed.Proofs.Handling

namespace ChangeFeed

variable {R : Roles}

/-! ## §1. Moves. -/

/-- Something that a reader is told to do from now on. -/
inductive Setting (R : Roles) where
  | key (decoding : Decoding R.KeyDecoder)
  | value (decoding : Decoding R.ValueDecoder)
  | onEvent (handling : Handling R.EventHandler)
  | onError (handling : Handling R.ErrorHandler)

/-- The reader, told to do so. -/
def Setting.apply (setting : Setting R) (r : Reader R) : Reader R :=
  match setting with
  | .key decoding => { r with keyDecoding := decoding }
  | .value decoding => { r with valueDecoding := decoding }
  | .onEvent handling => { r with onEvent := handling }
  | .onError handling => { r with onError := handling }

/-- What may be done with an open reader and its source. -/
inductive Move (R : Roles) where
  /-- The reader takes a step. -/
  | process (timeout : Option Timeout) (turn : Turn)
  /-- Somebody else polls the source. -/
  | pollSource (timeout : Option Timeout) (turn : Turn)
  | configure (setting : Setting R)
  | subscribe (topics : List String)

namespace Session

/-- The session after a move, whatever came of it. -/
def after (E : Environment R) (serial : Nat) (s : Session R) (move : Move R) : Session R :=
  match move with
  | .process timeout turn => ((step E serial timeout turn).run s).2
  | .pollSource timeout turn => ((poll E timeout turn).run s).2
  | .configure setting => s.modifyReader serial setting.apply
  | .subscribe topics => ((subscribe E topics).run s).2

/-- The session after several moves. -/
def afterAll (E : Environment R) (serial : Nat) (s : Session R) (moves : List (Move R)) :
    Session R :=
  moves.foldl (after E serial) s

end Session

/-! ## §2. What happens. -/

/-- Something that concerns what is tracked. -/
inductive Happening where
  /-- A message was completed. -/
  | completed (p : Partition) (o : Option Offset)
  /-- A rebalance left these partitions assigned. -/
  | rebalanced (kept : List Partition)

namespace Happening

/-- Does it decide about a partition, whatever happened before? -/
def settles (p : Partition) : Happening → Prop
  | .completed q _ => q = p
  | .rebalanced kept => p ∉ kept

/-- What it makes of a tracker. -/
def track (t : Tracker) : Happening → Tracker
  | .completed p o => t.update p o
  | .rebalanced kept => t.restrict kept

/-- What is tracked afterwards: what was just completed, or what was tracked
    before if nothing was decided about it. -/
theorem find?_track (t : Tracker) (h : Happening) (p : Partition) (o : Option Offset) :
    (h.track t).find? p = some o ↔
      h = .completed p o ∨ (t.find? p = some o ∧ ¬ h.settles p) := by
  cases h with
  | completed q o' =>
    show (t.update q o').find? p = some o ↔ _
    rw [Tracker.find?_update]
    by_cases hq : p = q
    · subst hq
      simp [settles]
    · have hq' : q ≠ p := fun h => hq h.symm
      simp [settles, hq, hq']
  | rebalanced kept =>
    show (t.restrict kept).find? p = some o ↔ _
    rw [Tracker.find?_restrict]
    by_cases hp : p ∈ kept <;> simp [settles, hp]

/-- **The last word on a partition decides** whether and where it is tracked. -/
theorem find?_foldl_track (hs : List Happening) (t : Tracker) (p : Partition)
    (o : Option Offset) :
    (hs.foldl track t).find? p = some o ↔
      (∃ before after, hs = before ++ .completed p o :: after ∧ ∀ h ∈ after, ¬ h.settles p) ∨
        (t.find? p = some o ∧ ∀ h ∈ hs, ¬ h.settles p) := by
  -- the induction is on what happens, from the first thing on
  induction hs generalizing t with
  | nil => simp
  | cons h rest ih =>
    rw [List.foldl_cons, ih, find?_track]
    constructor
    · rintro (⟨before, after, rfl, hafter⟩ | ⟨rfl | ⟨ht, hh⟩, hrest⟩)
      · exact .inl ⟨h :: before, after, rfl, hafter⟩
      · exact .inl ⟨[], rest, rfl, hrest⟩
      · exact .inr ⟨ht, List.forall_mem_cons.2 ⟨hh, hrest⟩⟩
    · rintro (⟨before, after, heq, hafter⟩ | ⟨ht, hall⟩)
      -- the completion is the first thing of all, or is among the rest
      · cases before with
        | nil =>
          obtain ⟨rfl, rfl⟩ := List.cons.inj heq
          exact .inr ⟨.inl rfl, hafter⟩
        | cons h' before =>
          obtain ⟨rfl, rfl⟩ := List.cons.inj heq
          exact .inl ⟨before, after, rfl, hafter⟩
      · obtain ⟨hh, hrest⟩ := List.forall_mem_cons.1 hall
        exact .inr ⟨.inr ⟨ht, hh⟩, hrest⟩

end Happening

namespace Session

/-- A rebalance happens at a poll if an assignment comes with it; what counts
    is what the listener below the reader leaves of it. -/
def rebalances (C : Conduct R) (base : Listener) (s : Session R) (turn : Turn) :
    List Happening :=
  match turn.delivered s.feed with
  | none => []
  | some a => [.rebalanced (Assignment.partitions (C.hear base a s.own).left.assignment)]

/-- A message is completed by a step that does not fail, if the step's poll
    gave one that carries a record. -/
def completions (E : Environment R) (serial : Nat) (s : Session R) (timeout : Option Timeout)
    (turn : Turn) : List Happening :=
  match ((poll E (s.effectiveTimeout serial timeout) turn).run s).1,
      ((step E serial timeout turn).run s).1 with
  | .ok (some m), .ok _ =>
    match m.error with
    | none => [.completed m.partition m.offset]
    | some _ => []
  | _, _ => []

/-- What happens in a move. -/
def happenings (C : Conduct R) (base : Listener) (serial : Nat) (s : Session R)
    (move : Move R) : List Happening :=
  match move with
  | .process timeout turn =>
    s.rebalances C base turn ++ s.completions C.environment serial timeout turn
  | .pollSource _ turn => s.rebalances C base turn
  | .configure _ => []
  | .subscribe _ => []

/-- What happens in several moves. -/
def history (C : Conduct R) (base : Listener) (serial : Nat) :
    Session R → List (Move R) → List Happening
  | _, [] => []
  | s, move :: rest =>
    s.happenings C base serial move ++
      history C base serial (s.after C.environment serial move) rest

/-! ## §3. One move. -/

variable {C : Conduct R} {base : Listener} {serial : Nat} {s : Session R} {r : Reader R}

/-- What a poll makes of the tracker. -/
theorem tracker_poll (C : Conduct R) (base : Listener) (r : Reader R) (timeout : Option Timeout)
    (turn : Turn) (s : Session R) :
    (C.poll s.feed base r timeout turn s.own).reader.tracker =
      (s.rebalances C base turn).foldl Happening.track r.tracker := by
  unfold Conduct.poll rebalances
  cases turn.delivered s.feed <;> rfl

/-- What a step makes of the tracker. -/
theorem tracker_step (hC : C.Copes base r) (hs : s.Stands serial base r) (timeout : Option Timeout)
    (turn : Turn) :
    (C.step s.feed base r timeout turn s.own).reader.tracker =
      (s.rebalances C base turn ++ s.completions C.environment serial timeout turn).foldl
        Happening.track r.tracker := by
  have htimeout : s.effectiveTimeout serial timeout = timeout.or r.timeout := by
    simp only [effectiveTimeout, hs.reader, Option.bind_some]
  rw [List.foldl_append, ← tracker_poll C base r (timeout.or r.timeout) turn s]
  unfold completions
  rw [htimeout, (poll_run hC hs _ turn).1, (step_run hC hs timeout turn).1]
  unfold Conduct.step
  generalize C.poll s.feed base r (timeout.or r.timeout) turn s.own = q
  obtain ⟨result, reader, calls, own⟩ := q
  -- a step completes something only if its poll gave it a message
  rcases result with e | _ | m
  · rfl
  · rfl
  · simp only
    generalize (C.handle reader m own).result = handled
    unfold Reader.handled
    cases handled with
    | error e => cases m.error <;> rfl
    | ok event => cases herror : m.error <;> simp only [herror] <;> rfl

/-- The reader keeps standing where it stands when readers are not touched. -/
theorem Stands.of_readers {s' : Session R} (hs : s.Stands serial base r)
    (hreaders : s'.readers = s.readers) (hinstalled : s'.installed = s.installed) :
    s'.Stands serial base r := by
  refine ⟨hs.foreign, hinstalled.trans hs.installed, ?_, hs.isOpen⟩
  simp only [reader?, hreaders]
  exact hs.reader

theorem subscribe_run (C : Conduct R) (topics : List String) (s : Session R) :
    ((subscribe C.environment topics).run s).2.readers = s.readers ∧
      ((subscribe C.environment topics).run s).2.installed = s.installed ∧
      ((subscribe C.environment topics).run s).2.own = (C.onSubscribe topics s.own).2 := by
  unfold subscribe
  rw [Action.run_bind_ok (Action.run_log _ s), Action.run_bind_ok (Action.run_record _ _)]
  generalize hs₁ : (s.enterLog _).enter (.subscribe topics) = s₁
  have hreaders : s₁.readers = s.readers := by
    rw [← hs₁]
    exact readers_enterLog s _
  have hinstalled : s₁.installed = s.installed := by
    rw [← hs₁]
    exact installed_enterLog s _
  have hown : s₁.own = s.own := by
    rw [← hs₁, own_enter, own_enterLog]
  have hcall : (C.environment.onSubscribe topics).run s₁ =
      ((C.onSubscribe topics s₁.own).1, s₁.advance [] (C.onSubscribe topics s₁.own).2) := rfl
  cases hresult : (C.onSubscribe topics s₁.own).1 with
  | error e =>
    rw [hresult] at hcall
    rw [Action.run_bind_error hcall, ← hown]
    exact ⟨hreaders, hinstalled, rfl⟩
  | ok u =>
    rw [hresult] at hcall
    rw [Action.run_bind_ok hcall, Action.run_modify, ← hown]
    cases hfeed : (s₁.advance [] (C.onSubscribe topics s₁.own).2).feed <;>
      exact ⟨hreaders, hinstalled, rfl⟩

/-- **One move changes the tracker by what happens in it.** -/
theorem stands_after (hC : C.Ordinary) (hs : s.Stands serial base r) (move : Move R) :
    ∃ r', (s.after C.environment serial move).Stands serial base r' ∧
      r'.tracker = (s.happenings C base serial move).foldl Happening.track r.tracker := by
  cases move with
  | process timeout turn =>
    have hcopes := hC.copes base r
    have hstep := step_run hcopes hs timeout turn
    refine ⟨_, hstep.stands hs ?_, tracker_step hcopes hs timeout turn⟩
    rw [closed_step, hs.isOpen]
  | pollSource timeout turn =>
    have hpoll := poll_run (hC.copes base r) hs timeout turn
    refine ⟨_, hpoll.stands hs ?_, tracker_poll C base r timeout turn s⟩
    rw [closed_poll, hs.isOpen]
  | configure setting =>
    -- a setting touches neither the tracker nor where the reader stands
    refine ⟨setting.apply r, ⟨hs.foreign, hs.installed, ?_, ?_⟩, ?_⟩
    · show (s.modifyReader serial setting.apply).reader? serial = _
      rw [reader?_modifyReader, if_pos rfl, hs.reader]
      rfl
    · rw [← hs.isOpen]
      cases setting <;> rfl
    · show (setting.apply r).tracker = r.tracker
      cases setting <;> rfl
  | subscribe topics =>
    obtain ⟨hreaders, hinstalled, -⟩ := subscribe_run C topics s
    exact ⟨r, hs.of_readers hreaders hinstalled, rfl⟩

/-! ## §4. Runs. -/

/-- What a run makes of the tracker.  The induction is on the moves. -/
theorem stands_afterAll (hC : C.Ordinary) (hs : s.Stands serial base r)
    (moves : List (Move R)) :
    ∃ r', (s.afterAll C.environment serial moves).Stands serial base r' ∧
      r'.tracker = (s.history C base serial moves).foldl Happening.track r.tracker := by
  induction moves generalizing s r with
  | nil => exact ⟨r, hs, rfl⟩
  | cons move rest ih =>
    obtain ⟨r₁, hs₁, ht₁⟩ := stands_after hC hs move
    obtain ⟨r₂, hs₂, ht₂⟩ := ih hs₁
    refine ⟨r₂, hs₂, ?_⟩
    rw [ht₂, ht₁, ← List.foldl_append]
    rfl

/-- A reader that was just opened stands above the listener that was installed
    before. -/
theorem stands_opened (hbase : s.installed.serial? = none) (name : String)
    (timeout : Option Timeout) :
    (s.opened name timeout).Stands s.readers.length s.installed
      (newReader name timeout s.installed) :=
  ⟨hbase, rfl, reader?_opened s name timeout, rfl⟩

/-- **The tracker is a function of the history.**  After any moves of a reader
    opened above a listener that is no reader's, a partition is tracked at an
    offset exactly if that was completed and nothing happened since that
    decides about the partition.  A move in which nothing happens leaves the
    tracker as it was. -/
theorem tracked_iff_history (hC : C.Ordinary) (hbase : s.installed.serial? = none)
    (name : String) (timeout : Option Timeout) (moves : List (Move R)) :
    (∀ p o, (((s.opened name timeout).afterAll C.environment s.readers.length moves).tracker
          s.readers.length).find? p = some o ↔
        ∃ before after,
          (s.opened name timeout).history C s.installed s.readers.length moves =
            before ++ .completed p o :: after ∧
          ∀ h ∈ after, ¬ h.settles p) ∧
      ∀ move, ((s.opened name timeout).afterAll C.environment s.readers.length moves).happenings
          C s.installed s.readers.length move = [] →
        ((s.opened name timeout).afterAll C.environment s.readers.length (moves ++ [move])).tracker
            s.readers.length =
          ((s.opened name timeout).afterAll C.environment s.readers.length moves).tracker
            s.readers.length := by
  obtain ⟨r, hr, htracker⟩ := stands_afterAll hC (stands_opened hbase name timeout) moves
  refine ⟨fun p o => ?_, fun move hmove => ?_⟩
  -- a reader that was just opened tracks nothing
  · rw [tracker_of_reader? hr.reader, htracker, Happening.find?_foldl_track]
    have hempty : (newReader name timeout s.installed : Reader R).tracker.find? p = none :=
      Tracker.find?_empty p
    rw [hempty]
    simp
  · obtain ⟨r', hr', htracker'⟩ := stands_after hC hr move
    rw [hmove] at htracker'
    have hlast : (s.opened name timeout).afterAll C.environment s.readers.length (moves ++ [move]) =
        ((s.opened name timeout).afterAll C.environment s.readers.length moves).after
          C.environment s.readers.length move := by
      unfold afterAll
      rw [List.foldl_append]
      rfl
    rw [hlast, tracker_of_reader? hr'.reader, tracker_of_reader? hr.reader, htracker']
    rfl

end Session

namespace Sample

/-- A poll that delivers a record of the topic `"t"`. -/
def delivery (index : Int) (offset : Offset) : Turn :=
  { Turn.idle with message := some ⟨partition index, some offset, some [107], none, none⟩ }

/-- A message is completed; the next one is refused by the handler; a rebalance
    leaves only another partition, and a message of that one is completed. -/
def moves : List (Move roles) :=
  [.process none { delivery 0 3 with assign := some [⟨partition 0, none⟩] },
    .configure (.onEvent (.custom true)), .process none (delivery 0 4),
    .configure (.onEvent .ignore),
    .process none { delivery 1 9 with assign := some [⟨partition 1, none⟩] }]

/-- A session without readers, on a source that nobody listens to. -/
def blank : Session roles := Session.start .direct .warning (0 : Nat)

end Sample

/-- The history of a sample run decides what is tracked after it. -/
theorem tracked_iff_history_of_sample :
    (∀ p o, (((Sample.blank.opened "p" none).afterAll Sample.conduct.environment
          Sample.blank.readers.length Sample.moves).tracker
            Sample.blank.readers.length).find? p = some o ↔
        ∃ before after, (Sample.blank.opened "p" none).history Sample.conduct
            Sample.blank.installed Sample.blank.readers.length Sample.moves =
              before ++ .completed p o :: after ∧
          ∀ h ∈ after, ¬ h.settles p) ∧
      ∀ move, ((Sample.blank.opened "p" none).afterAll Sample.conduct.environment
            Sample.blank.readers.length Sample.moves).happenings Sample.conduct
              Sample.blank.installed Sample.blank.readers.length move = [] →
        ((Sample.blank.opened "p" none).afterAll Sample.conduct.environment
            Sample.blank.readers.length (Sample.moves ++ [move])).tracker
              Sample.blank.readers.length =
          ((Sample.blank.opened "p" none).afterAll Sample.conduct.environment
            Sample.blank.readers.length Sample.moves).tracker Sample.blank.readers.length :=
  Session.tracked_iff_history Sample.conduct_ordinary rfl "p" none Sample.moves

end ChangeFeed
