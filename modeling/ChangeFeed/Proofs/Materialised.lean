/-
  ChangeFeed.Proofs.Materialised — a view kept up to date by a reader's events.

  A reader stands alone on a source that serves a log per partition and
  honours what is left of each assignment.  Its handler folds the events into
  a view.  What ties reader, source and view together is `Held`: a tracked
  partition is read on right behind the offset tracked, the view holds what
  the records read so far leave, and of a partition that is not tracked it
  holds nothing.

  Main results:
    * `Held.rebalanced`, `Held.record` — what a rebalance and the next record
      do to it.
    * `held_step` — one step of the reader.
    * `view_eq_replay` — the view after any run.
-/

import ChangeFeed.Proofs.Handling
import ChangeFeed.Proofs.Replay

namespace ChangeFeed

variable {R : Roles}

/-! ## §1. A source that serves logs. -/

/-- Where reading starts at an entry: at its offset, or at the start of the log
    if that is left unset. -/
def Entry.start (e : Entry) : Nat := (e.offset.getD 0).toNat

/-- A source that serves a log per partition. -/
structure Supply where
  ledger : Partition → Ledger
  /-- Where reading goes on, for every partition that is assigned. -/
  next : Partition → Option Nat
  /-- Where the reading that goes on there has begun. -/
  since : Partition → Nat

namespace Supply

/-- An assignment is honoured: what it names is read from where its entries
    say, and nothing else is read.  Where that is where reading goes on
    anyway, it goes on; anywhere else it begins anew. -/
structure Honours (v : Supply) (left : Assignment) (v' : Supply) : Prop where
  ledger : v'.ledger = v.ledger
  assigned : ∀ p n, v'.next p = some n → ∃ e ∈ left, e.partition = p ∧ e.start = n
  unassigned : ∀ p, v'.next p = none → p ∉ Assignment.partitions left
  since : ∀ p n, v'.next p = some n →
    v'.since p = if v.next p = some n then v.since p else n

/-- Only what is assigned is read, and resuming assigns nothing else. -/
theorem Honours.named {v v' : Supply} {t : Tracker} {a : Assignment}
    (h : v.Honours (t.resume a) v') {p : Partition} {n : Nat} (hn : v'.next p = some n) :
    p ∈ Assignment.partitions a := by
  obtain ⟨e, he, rfl, -⟩ := h.assigned p n hn
  rw [← t.partitions_resume a]
  exact List.mem_map_of_mem he

/-- What happens to the source at a poll that comes with an assignment, or does
    not. -/
inductive Takes (v : Supply) : Option Assignment → Supply → Prop where
  | nothing : Takes v none v
  | assignment {left : Assignment} {v' : Supply} (h : v.Honours left v') :
    Takes v (some left) v'

/-- What a poll returns: nothing, a message that reports an error, or the next
    record of some partition. -/
inductive Delivers (v : Supply) : Option Message → Supply → Prop where
  | nothing : Delivers v none v
  | report {m : Message} {code : ErrorCode} (h : m.error = some code) : Delivers v (some m) v
  | record {p : Partition} {n : Nat} {x : Record} (hnext : v.next p = some n)
      (hread : (v.ledger p).read? n = some x) :
    Delivers v (some (x.message p))
      { v with next := fun q => if q = p then some (x.offset + 1) else v.next q }

/-- A poll: the logs may have grown, an assignment is honoured, and something
    is returned. -/
inductive Serves (v : Supply) (left : Option Assignment) (message : Option Message) :
    Supply → Prop where
  | poll {ledger : Partition → Ledger} {v₁ v' : Supply}
      (hgrows : ∀ p, (v.ledger p).Grows (ledger p))
      (htakes : Takes { v with ledger := ledger } left v₁)
      (hdelivers : v₁.Delivers message v') : Serves v left message v'

end Supply

namespace Session

/-- What is left of the assignment that comes with a poll, if one does. -/
def leftAt (E : Environment R) (s : Session R) (turn : Turn) : Option Assignment :=
  (turn.delivered s.feed).map fun a => (s.rebalance E a).1.assignment

/-- The runs of a reader that takes step after step on a source that serves
    logs. -/
inductive Run (C : Conduct R) (serial : Nat) (s : Session R) (v : Supply) :
    List Turn → Session R → Supply → Prop where
  | start : Run C serial s v [] s v
  | step {turns : List Turn} {s' : Session R} {v' v'' : Supply} (timeout : Option Timeout)
      {turn : Turn} (h : Run C serial s v turns s' v') (hfailure : turn.failure = none)
      (hserves : v'.Serves (s'.leftAt C.environment turn) turn.message v'') :
    Run C serial s v (turns ++ [turn])
      ((Session.step C.environment serial timeout turn).run s').2 v''

end Session

/-! ## §2. A handler that keeps a view. -/

section

variable (C : Conduct R) (same : Value → Value → Bool) (d : Decoders) (view : R.Memory → View)

/-- The reader's decoders do not fail, and its handler folds events into the
    view, without fail; nobody else touches the view. -/
structure Materialises (r : Reader R) : Prop where
  key : ∀ data o, C.key r.keyDecoding data o = (.ok (d.key data), o)
  value : ∀ key data o, C.value r.valueDecoding key data o = (.ok (d.value key data), o)
  event : ∀ e o, (C.event r.onEvent e o).1 = .ok () ∧
    view (C.event r.onEvent e o).2.memory = (view o.memory).apply same e
  error : ∀ m code o, view (C.error r.onError m code o).2.memory = view o.memory
  assign : ∀ a o, (C.onAssign a o).1 = .ok () ∧ view (C.onAssign a o).2.memory = view o.memory

end

variable {C : Conduct R} {same : Value → Value → Bool} {d : Decoders} {view : R.Memory → View}
  {r : Reader R}

namespace Materialises

/-- What is tracked has no bearing on it. -/
theorem tracking (h : Materialises C same d view r) (t : Tracker) :
    Materialises C same d view { r with tracker := t } :=
  ⟨h.key, h.value, h.event, h.error, h.assign⟩

theorem copes (h : Materialises C same d view r) : C.Copes .nobody r := by
  refine ⟨fun a o f hf => ?_, fun e o f hf => ?_⟩
  · cases hf
  · rw [(h.event e o).1] at hf
    cases hf

/-- A sweep clears the partitions that are given up. -/
theorem sweep (h : Materialises C same d view r) (ps : List Partition) (o : Own R) :
    (C.sweep r.onEvent ps o).refusals = [] ∧
      view (C.sweep r.onEvent ps o).own.memory =
        ps.foldl (fun w p => w.apply same (.clear p)) (view o.memory) := by
  induction ps generalizing o with
  | nil => exact ⟨rfl, rfl⟩
  | cons p rest ih =>
    -- the handler accepts the event, so the sweep goes on
    obtain ⟨hok, hview⟩ := h.event (.clear p) o
    rcases he : C.event r.onEvent (.clear p) o with ⟨result, o'⟩
    rw [he] at hok hview
    obtain rfl : result = .ok () := hok
    obtain ⟨hrefusals, hrest⟩ := ih o'
    rw [Conduct.sweep_cons_ok he, List.foldl_cons, ← hview]
    exact ⟨hrefusals, hrest⟩

/-- A poll that no assignment comes with. -/
theorem poll_idle {feed : Feed} {turn : Turn} (hD : turn.delivered feed = none)
    (hfailure : turn.failure = none) (timeout : Option Timeout) (o : Own R) :
    C.poll feed .nobody r timeout turn o = ⟨.ok turn.message, r, [feed.polled timeout], o⟩ := by
  simp only [Conduct.poll, hD, Turn.ending, hfailure]

/-- A poll that an assignment comes with: it does not fail, and of the view what
    is given up is cleared. -/
theorem poll_delivered (h : Materialises C same d view r) {feed : Feed} {turn : Turn}
    {a : Assignment} (hD : turn.delivered feed = some a) (hfailure : turn.failure = none)
    (timeout : Option Timeout) (o : Own R) :
    (C.poll feed .nobody r timeout turn o).result = .ok turn.message ∧
      (C.poll feed .nobody r timeout turn o).reader = r.restrict (Assignment.partitions a) ∧
      ∀ p, view (C.poll feed .nobody r timeout turn o).own.memory p =
        if p ∈ r.dropped a then .empty else view o.memory p := by
  obtain ⟨hrefusals, hview⟩ := h.sweep (r.dropped a) o
  have hnone : (C.relayTo (C.hear .nobody a o) r).left.failure = none := by
    show (C.sweepAt r a o).failure none = none
    rw [Conduct.sweepAt_failure h.copes.handler]
    show rebalanceFailure none (C.sweep r.onEvent (r.dropped a) o).refusals = none
    rw [hrefusals]
    rfl
  have hown : ∀ p, view (C.relayTo (C.hear .nobody a o) r).own.memory p =
      if p ∈ r.dropped a then .empty else view o.memory p := by
    intro p
    show view (C.sweep r.onEvent (r.dropped a) o).own.memory p = _
    rw [hview, View.foldl_clear]
  -- taking the assignment over does not fail, and does nothing to the view
  have happly : ∀ left : Notified, ∀ o' : Own R, left.failure = none →
      (C.apply feed left o').1 = none ∧ view (C.apply feed left o').2.memory = view o'.memory := by
    intro left o' hleft
    cases feed with
    | direct => exact ⟨hleft, rfl⟩
    | consumer c =>
      obtain ⟨hok, hassign⟩ := h.assign left.assignment o'
      rcases hx : C.onAssign left.assignment o' with ⟨result, o''⟩
      rw [hx] at hok hassign
      obtain rfl : result = .ok () := hok
      simp only [Conduct.apply, hx]
      exact ⟨hleft, hassign⟩
  obtain ⟨happlied, hsame⟩ := happly _ (C.relayTo (C.hear .nobody a o) r).own hnone
  simp only [Conduct.poll, hD, happlied]
  refine ⟨?_, rfl, fun p => ?_⟩
  · simp only [Turn.outcome, Turn.ending, hfailure]
  · rw [hsame, hown]

theorem askKey (h : Materialises C same d view r) (data : Option Octets) (o : Own R) :
    C.askKey r data o = ⟨.ok (d.key data), r.keyCalls data, o⟩ := by
  simp only [Conduct.askKey, h.key]

theorem askValue (h : Materialises C same d view r) (key : Value) (data : Octets) (o : Own R) :
    C.askValue r key data o = ⟨.ok (d.value key data), r.valueCalls key data, o⟩ := by
  simp only [Conduct.askValue, h.value]

/-- The reader tells of an event: that does not fail, and the view is changed
    by the event. -/
theorem tell (h : Materialises C same d view r) (e : Event) (o : Own R) :
    ∃ o', C.tell r e o = ⟨.ok (), r.eventCalls e, o'⟩ ∧
      view o'.memory = (view o.memory).apply same e := by
  obtain ⟨hok, hview⟩ := h.event e o
  refine ⟨(C.event r.onEvent e o).2, ?_, hview⟩
  simp only [Conduct.tell, hok]

/-- The event that a record stands for, if it can be decoded. -/
theorem eventOf (h : Materialises C same d view r) (x : Record) (p : Partition) (key : Value)
    (o : Own R) :
    ∃ calls, C.eventOf r (x.message p) key o =
      ⟨.ok ((d.valueOf key x.payload).map (Event.ofChange p key)), calls, o⟩ := by
  unfold Conduct.eventOf Record.message
  cases x.payload with
  | none => exact ⟨[], rfl⟩
  | some payload =>
    cases payload with
    | nil => exact ⟨[], rfl⟩
    | cons octet rest =>
      simp only
      rw [Dealing.bind_ok (h.askValue key (octet :: rest) o)]
      simp only [Decoders.valueOf]
      cases d.value key (octet :: rest) <;> exact ⟨_, rfl⟩

/-- A record that cannot be decoded: nobody is told of anything. -/
theorem handleRecord_undecoded (h : Materialises C same d view r) {x : Record}
    (hchange : d.change x = none) (p : Partition) (o : Own R) :
    ∃ calls, C.handleRecord r (x.message p) o = ⟨.ok none, calls, o⟩ := by
  have hkey := h.askKey x.key o
  unfold Decoders.change at hchange
  cases hk : d.key x.key with
  | none =>
    rw [hk] at hkey
    exact ⟨_, Dealing.bind_ok hkey _⟩
  | some key =>
    rw [hk, Option.bind_some, Option.map_eq_none_iff] at hchange
    obtain ⟨calls, hevent⟩ := h.eventOf x p key o
    rw [hchange, Option.map_none] at hevent
    rw [hk] at hkey
    have hrun : C.handleRecord r (x.message p) o = ⟨.ok none, _, o⟩ :=
      (Dealing.bind_ok hkey _).trans (by simp only; rw [Dealing.bind_ok hevent]; rfl)
    exact ⟨_, hrun⟩

/-- A record that says something of a key: the handler is told, and the view is
    changed by the event. -/
theorem handleRecord_decoded (h : Materialises C same d view r) {x : Record} {key : Value}
    {value : Option Value} (hchange : d.change x = some (key, value)) (p : Partition)
    (o : Own R) :
    ∃ calls o', C.handleRecord r (x.message p) o =
        ⟨.ok (some (Event.ofChange p key value)), calls, o'⟩ ∧
      view o'.memory = (view o.memory).apply same (Event.ofChange p key value) := by
  obtain ⟨key', hk, hvalue⟩ := Option.bind_eq_some_iff.1 hchange
  obtain ⟨value', hv, hpair⟩ := Option.map_eq_some_iff.1 hvalue
  obtain ⟨rfl, rfl⟩ := Prod.mk.inj hpair
  have hkey := h.askKey x.key o
  obtain ⟨calls, hevent⟩ := h.eventOf x p key' o
  obtain ⟨o', htell, hview⟩ := h.tell (Event.ofChange p key' value') o
  rw [hk] at hkey
  rw [hv, Option.map_some] at hevent
  have hrun : C.handleRecord r (x.message p) o =
      ⟨.ok (some (Event.ofChange p key' value')), _, o'⟩ :=
    (Dealing.bind_ok hkey _).trans (by
      simp only
      rw [Dealing.bind_ok hevent]
      simp only
      rw [Dealing.bind_ok htell]
      rfl)
  exact ⟨_, o', hrun, hview⟩

/-- **A record is handled without fail**, and the view takes over what it
    says. -/
theorem handle_record (h : Materialises C same d view r) (x : Record) (p : Partition)
    (o : Own R) :
    ∃ event, (C.handle r (x.message p) o).result = .ok event ∧
      view (C.handle r (x.message p) o).own.memory =
        (view o.memory).set p ((view o.memory p).record same d x) := by
  show ∃ event, (C.handleRecord r (x.message p) o).result = .ok event ∧
    view (C.handleRecord r (x.message p) o).own.memory = _
  cases hchange : d.change x with
  | none =>
    obtain ⟨calls, hrun⟩ := h.handleRecord_undecoded hchange p o
    rw [hrun]
    refine ⟨none, rfl, ?_⟩
    -- so the view has to stay as it is, and a replay passes over the record too
    simp only [Elements.record, hchange, View.set_same]
  | some change =>
    obtain ⟨key, value⟩ := change
    obtain ⟨calls, o', hrun, hview⟩ := h.handleRecord_decoded hchange p o
    rw [hrun]
    refine ⟨_, rfl, ?_⟩
    simp only [Elements.record, hchange]
    rw [hview, View.apply_ofChange]

/-- A message that reports an error leaves the view alone. -/
theorem handle_report (h : Materialises C same d view r) {m : Message} {code : ErrorCode}
    (hm : m.error = some code) (o : Own R) :
    view (C.handle r m o).own.memory = view o.memory := by
  simp only [Conduct.handle, hm, Conduct.handleError]
  cases isEndOfPartition (some code) with
  | true =>
    -- the end of a partition is an event like any other, but changes no view
    obtain ⟨o', htell, hview⟩ := h.tell (.endReached m.partition) o
    simp only [if_true]
    rw [Dealing.bind_ok htell]
    exact hview
  | false =>
    have herror := h.error m code o
    simp only [Bool.false_eq_true, if_false]
    rcases htell : C.tellError r m code o with ⟨result, calls, o'⟩
    have hown : o' = (C.error r.onError m code o).2 := by
      simpa [Conduct.tellError] using (congrArg Went.own htell).symm
    cases result with
    | ok u =>
      rw [Dealing.bind_ok htell]
      show view o'.memory = _
      rw [hown, herror]
    | error e =>
      rw [Dealing.bind_error htell]
      show view o'.memory = _
      rw [hown, herror]

end Materialises

/-! ## §3. What ties reader, source and view together. -/

/-- A tracked partition is read on right behind the offset tracked, where a
    record has been read.  Of a partition that is read the view holds what was
    read since reading began.  Of one that is not tracked nothing was read, and
    the view holds nothing. -/
structure Held (same : Value → Value → Bool) (d : Decoders) (t : Tracker) (w : View)
    (v : Supply) : Prop where
  tracked : ∀ p o, t.find? p = some o → ∃ k : Nat, o = some (k : Int) ∧
    v.next p = some (k + 1) ∧ (v.ledger p).Ends (k + 1)
  reading : ∀ p n, v.next p = some n → v.since p ≤ n ∧
    w p = (v.ledger p).replay same d (v.since p) n
  untracked : ∀ p, t.find? p = none → w p = .empty ∧ ∀ n, v.next p = some n → v.since p = n

namespace Held

variable {t : Tracker} {w : View} {v v' : Supply}

theorem start (hv : ∀ p n, v.next p = some n → v.since p = n) :
    Held same d .empty .empty v := by
  refine ⟨fun p o ho => ?_, fun p n hn => ?_, fun p _ => ⟨rfl, hv p⟩⟩
  · rw [Tracker.find?_empty] at ho
    cases ho
  · rw [hv p n hn, Ledger.replay_self]
    exact ⟨Nat.le_refl n, rfl⟩

/-- What is appended to the logs has not been read. -/
theorem grown (h : Held same d t w v) {ledger : Partition → Ledger}
    (hgrows : ∀ p, (v.ledger p).Grows (ledger p)) :
    Held same d t w { v with ledger := ledger } := by
  refine ⟨fun p o ho => ?_, fun p n hn => ?_, h.untracked⟩
  · obtain ⟨k, hk, hnext, hends⟩ := h.tracked p o ho
    exact ⟨k, hk, hnext, hends.grown (hgrows p)⟩
  · obtain ⟨hle, hw⟩ := h.reading p n hn
    -- either something was read, or reading is about to begin
    have hend : (v.ledger p).Ends n ∨ v.since p = n := by
      cases ht : t.find? p with
      | none => exact .inr ((h.untracked p ht).2 n hn)
      | some o =>
        obtain ⟨k, -, hnext, hends⟩ := h.tracked p o ht
        obtain rfl : k + 1 = n := Option.some.inj (hnext.symm.trans hn)
        exact .inl hends
    exact ⟨hle, hw.trans (Ledger.replay_grown same d (hgrows p) hend).symm⟩

/-- A tracked partition is resumed right behind the offset tracked. -/
theorem start_resume {a : Assignment} {p : Partition} {k : Nat}
    (ht : t.find? p = some (some (k : Int))) {e : Entry} (he : e ∈ t.resume a)
    (hep : e.partition = p) : e.start = k + 1 := by
  obtain ⟨e₀, -, rfl⟩ := List.mem_map.1 he
  have hp : e₀.partition = p := hep
  rw [Tracker.resumeEntry_of_tracked (hp ▸ ht)]
  show ((k : Int) + 1).toNat = k + 1
  omega

/-- A partition that stays tracked is read on where it was. -/
theorem resumed (h : Held same d t w v) {a : Assignment} (hhonours : v.Honours (t.resume a) v')
    {p : Partition} {o : Option Offset} (ho : t.find? p = some o) {n : Nat}
    (hn : v'.next p = some n) : v.next p = some n := by
  obtain ⟨k, rfl, hnext, -⟩ := h.tracked p o ho
  obtain ⟨e, he, hep, hstart⟩ := hhonours.assigned p n hn
  rw [hnext, ← hstart, start_resume ho he hep]

/-- Where reading goes on at a partition that is not tracked, it also begins:
    nothing has been read there so far. -/
theorem fresh (h : Held same d t w v) {left : Assignment} (hhonours : v.Honours left v')
    {p : Partition} (hp : t.find? p = none) {n : Nat} (hn : v'.next p = some n) :
    v'.since p = n := by
  rw [hhonours.since p n hn]
  by_cases hsame : v.next p = some n
  · rw [if_pos hsame, (h.untracked p hp).2 n hsame]
  · rw [if_neg hsame]

/-- **A rebalance**: what is given up is cleared, what stays is read on, and
    what comes is read from where it says. -/
theorem rebalanced (h : Held same d t w v) {a : Assignment} {w' : View}
    (hhonours : v.Honours (t.resume a) v')
    (hw : ∀ p, w' p =
      if p ∈ t.untrackedBy (Assignment.partitions a) then .empty else w p) :
    Held same d (t.restrict (Assignment.partitions a)) w' v' := by
  have hkept : ∀ p, p ∈ Assignment.partitions a → w' p = w p := by
    intro p hp
    rw [hw p, if_neg fun hdropped => ((t.mem_untrackedBy _ p).1 hdropped).2 hp]
  refine ⟨fun p o ho => ?_, fun p n hn => ?_, fun p hp => ?_⟩
  -- what is tracked now was tracked before, and is assigned
  · rw [Tracker.find?_restrict] at ho
    by_cases hp : p ∈ Assignment.partitions a
    · rw [if_pos hp] at ho
      obtain ⟨k, hk, hnext, hends⟩ := h.tracked p o ho
      cases hn : v'.next p with
      | none =>
        refine absurd hp ?_
        rw [← t.partitions_resume a]
        exact hhonours.unassigned p hn
      | some n =>
        rw [← h.resumed hhonours ho hn, hnext, hhonours.ledger]
        exact ⟨k, hk, rfl, hends⟩
    · rw [if_neg hp] at ho
      cases ho
  -- what is read is read on if it was tracked, and begun anew if not
  · rw [hkept p (hhonours.named hn), hhonours.ledger]
    cases ht : t.find? p with
    | none =>
      rw [h.fresh hhonours ht hn, Ledger.replay_self]
      exact ⟨Nat.le_refl n, (h.untracked p ht).1⟩
    | some o =>
      have hn' := h.resumed hhonours ht hn
      rw [hhonours.since p n hn, if_pos hn']
      exact h.reading p n hn'
  -- what is not tracked now was not before, or has been given up
  · rw [Tracker.find?_restrict] at hp
    by_cases hmem : p ∈ Assignment.partitions a
    · rw [if_pos hmem] at hp
      exact ⟨(hkept p hmem).trans (h.untracked p hp).1, fun n hn => h.fresh hhonours hp hn⟩
    · refine ⟨?_, fun n hn => absurd (hhonours.named hn) hmem⟩
      rw [hw p]
      cases ht : t.find? p with
      | none =>
        split
        · rfl
        · exact (h.untracked p ht).1
      | some o =>
        have hcontains : t.contains p = true := by simp [Tracker.contains, ht]
        rw [if_pos ((t.mem_untrackedBy _ p).2 ⟨hcontains, hmem⟩)]

/-- **The next record of a partition**: it is tracked, and the view takes over
    what it says. -/
theorem record (h : Held same d t w v) {p : Partition} {n : Nat} {x : Record}
    (hnext : v.next p = some n) (hread : (v.ledger p).read? n = some x) :
    Held same d (t.update p (some (x.offset : Int))) (w.set p ((w p).record same d x))
      { v with next := fun q => if q = p then some (x.offset + 1) else v.next q } := by
  obtain ⟨hle, hw⟩ := h.reading p n hnext
  have hn := Ledger.le_offset_of_read hread
  -- of the other partitions nothing has changed
  refine ⟨fun q o ho => ?_, fun q m hm => ?_, fun q hq => ?_⟩
  · rw [Tracker.find?_update] at ho
    by_cases hq : q = p
    · subst hq
      rw [if_pos rfl] at ho
      refine ⟨x.offset, (Option.some.inj ho).symm, ?_, Ledger.ends_read hread⟩
      simp only [if_true]
    · rw [if_neg hq] at ho
      simp only [if_neg hq]
      exact h.tracked q o ho
  · simp only at hm ⊢
    by_cases hq : q = p
    · subst hq
      rw [if_pos rfl] at hm
      obtain rfl : x.offset + 1 = m := Option.some.inj hm
      rw [View.set_self, hw, Ledger.replay_read same d hread hle]
      exact ⟨by omega, rfl⟩
    · rw [if_neg hq] at hm
      rw [View.set_of_ne hq]
      exact h.reading q m hm
  · rw [Tracker.find?_update] at hq
    by_cases hqp : q = p
    · rw [if_pos hqp] at hq
      cases hq
    · rw [if_neg hqp] at hq
      rw [View.set_of_ne hqp]
      simp only [if_neg hqp]
      exact h.untracked q hq

end Held

/-! ## §4. Reading from the start. -/

/-- Does an assignment, if one comes with the poll, leave open where to
    start? -/
def Turn.Unset (turn : Turn) : Prop := ∀ a, turn.assign = some a → ∀ e ∈ a, e.start = 0

/-- Has all reading that goes on begun at the start of the logs? -/
def Supply.FromStart (v : Supply) : Prop := ∀ p n, v.next p = some n → v.since p = 0

theorem Turn.assign_of_delivered {turn : Turn} {feed : Feed} {a : Assignment}
    (h : turn.delivered feed = some a) : turn.assign = some a := by
  cases feed with
  | direct => exact h
  | consumer c =>
    simp only [Turn.delivered] at h
    split at h
    · exact h
    · cases h

theorem Held.fromStart {t : Tracker} {w : View} {v v' : Supply} (h : Held same d t w v)
    {a : Assignment} (hhonours : v.Honours (t.resume a) v') (hv : v.FromStart)
    (hunset : ∀ e ∈ a, e.start = 0) : v'.FromStart := by
  intro p n hn
  rw [hhonours.since p n hn]
  by_cases hsame : v.next p = some n
  · rw [if_pos hsame, hv p n hsame]
  · rw [if_neg hsame]
    -- reading begins anew, so the reader did not move the entry
    obtain ⟨e, he, hep, rfl⟩ := hhonours.assigned p n hn
    obtain ⟨e₀, he₀, rfl⟩ := List.mem_map.1 he
    have huntracked : t.contains e₀.partition = false := by
      cases ht : t.find? p with
      | none =>
        have hp : e₀.partition = p := hep
        simp [Tracker.contains, hp, ht]
      | some o => exact absurd (h.resumed hhonours ht hn) hsame
    rw [Tracker.resumeEntry_of_untracked huntracked, hunset e₀ he₀]

/-! ## §5. Steps and runs. -/

section

variable {s : Session R} {serial : Nat} {t : Tracker} {v v' : Supply} {turn : Turn}

/-- What is left of an assignment by a reader that stands alone, with nobody
    below it. -/
theorem assignment_rebalance (hC : C.Copes .nobody { r with tracker := t })
    (hs : s.Stands serial .nobody { r with tracker := t }) (a : Assignment) :
    (s.rebalance C.environment a).1.assignment = t.resume a :=
  hs.assignment_rebalance hC a

/-- A poll keeps together what belongs together. -/
theorem held_poll (hM : Materialises C same d view r)
    (hs : s.Stands serial .nobody { r with tracker := t })
    (hheld : Held same d t (view s.own.memory) v) (hfailure : turn.failure = none)
    (htakes : v.Takes (s.leftAt C.environment turn) v') (timeout : Option Timeout) :
    ∃ t', (C.poll s.feed .nobody { r with tracker := t } timeout turn s.own).result =
        .ok turn.message ∧
      (C.poll s.feed .nobody { r with tracker := t } timeout turn s.own).reader =
        { r with tracker := t' } ∧
      Held same d t'
        (view (C.poll s.feed .nobody { r with tracker := t } timeout turn s.own).own.memory) v' ∧
      (v.FromStart → turn.Unset → v'.FromStart) := by
  cases hD : turn.delivered s.feed with
  | none =>
    simp only [Session.leftAt, hD, Option.map_none] at htakes
    cases htakes
    rw [Materialises.poll_idle hD hfailure]
    exact ⟨t, rfl, rfl, hheld, fun hv _ => hv⟩
  | some a =>
    have hM' := hM.tracking t
    -- the source honours what the reader has left of the assignment
    simp only [Session.leftAt, hD, Option.map_some, assignment_rebalance hM'.copes hs] at htakes
    cases htakes with
    | assignment hhonours =>
      obtain ⟨hresult, hreader, hview⟩ := hM'.poll_delivered hD hfailure timeout s.own
      refine ⟨t.restrict (Assignment.partitions a), hresult, hreader, ?_, fun hv hunset => ?_⟩
      · exact hheld.rebalanced hhonours hview
      · exact hheld.fromStart hhonours hv (hunset a (Turn.assign_of_delivered hD))

/-- So does handling what the poll returned. -/
theorem held_handle (hM : Materialises C same d view r) {o : Own R}
    (hheld : Held same d t (view o.memory) v) {m : Message} (hdelivers : v.Delivers (some m) v') :
    ∃ t', Reader.handled { r with tracker := t } m
        (C.handle { r with tracker := t } m o).result = { r with tracker := t' } ∧
      Held same d t' (view (C.handle { r with tracker := t } m o).own.memory) v' ∧
      (v.FromStart → v'.FromStart) := by
  have hM' := hM.tracking t
  cases hdelivers with
  | report hm =>
    refine ⟨t, ?_, ?_, id⟩
    · simp only [Reader.handled, hm]
    · rw [hM'.handle_report hm]
      exact hheld
  | @record p n x hnext hread =>
    obtain ⟨event, hok, hview⟩ := hM'.handle_record x p o
    refine ⟨t.update p (some (x.offset : Int)), ?_, ?_, fun hv q m hm => ?_⟩
    · rw [hok]
      rfl
    · rw [hview]
      exact hheld.record hnext hread
    · simp only at hm
      by_cases hq : q = p
      · rw [hq]
        exact hv p n hnext
      · rw [if_neg hq] at hm
        exact hv q m hm

/-- **One step of the reader keeps together what belongs together.** -/
theorem held_step (hM : Materialises C same d view r)
    (hs : s.Stands serial .nobody { r with tracker := t })
    (hheld : Held same d t (view s.own.memory) v) (hfailure : turn.failure = none)
    (hserves : v.Serves (s.leftAt C.environment turn) turn.message v')
    (timeout : Option Timeout) :
    ∃ t', ((Session.step C.environment serial timeout turn).run s).2.Stands serial .nobody
        { r with tracker := t' } ∧
      Held same d t'
        (view ((Session.step C.environment serial timeout turn).run s).2.own.memory) v' ∧
      (v.FromStart → turn.Unset → v'.FromStart) := by
  have hstep := Session.step_run (hM.tracking t).copes hs timeout turn
  have hown := hstep.own
  have hstands := hstep.stands hs (by rw [Session.closed_step, hs.isOpen])
  obtain ⟨hgrows, htakes, hdelivers⟩ := hserves
  -- the logs grow before the poll, and are the same throughout it
  obtain ⟨t₁, hresult, hreader, hheld₁, hstart₁⟩ := held_poll hM hs (hheld.grown hgrows) hfailure
    htakes (timeout.or r.timeout)
  rw [hown]
  -- what the step comes to, after its poll
  unfold Conduct.step at hstands ⊢
  simp only at hstands ⊢
  generalize C.poll s.feed .nobody { r with tracker := t } (timeout.or r.timeout) turn s.own = q
    at hresult hreader hheld₁ hstands ⊢
  obtain ⟨result, reader, calls, own⟩ := q
  obtain rfl : result = .ok turn.message := hresult
  obtain rfl : reader = { r with tracker := t₁ } := hreader
  cases hmessage : turn.message with
  | none =>
    rw [hmessage] at hdelivers
    simp only [hmessage] at hstands ⊢
    cases hdelivers
    exact ⟨t₁, hstands, hheld₁, hstart₁⟩
  | some m =>
    rw [hmessage] at hdelivers
    simp only [hmessage] at hstands ⊢
    obtain ⟨t₂, hhandled, hheld₂, hstart₂⟩ := held_handle hM hheld₁ hdelivers
    rw [hhandled] at hstands
    exact ⟨t₂, hstands, hheld₂, fun hv hunset => hstart₂ (hstart₁ hv hunset)⟩

/-- A whole run does.  The induction is on the run. -/
theorem held_run (hM : Materialises C same d view r)
    (hs : s.Stands serial .nobody { r with tracker := t })
    (hheld : Held same d t (view s.own.memory) v) {turns : List Turn} {s' : Session R}
    (hrun : Session.Run C serial s v turns s' v') :
    ∃ t', s'.Stands serial .nobody { r with tracker := t' } ∧
      Held same d t' (view s'.own.memory) v' ∧
      (v.FromStart → (∀ turn ∈ turns, turn.Unset) → v'.FromStart) := by
  induction hrun with
  | start => exact ⟨t, hs, hheld, fun hv _ => hv⟩
  | @step turns s' v' v'' timeout turn _ hfailure hserves ih =>
    obtain ⟨t₁, hs₁, hheld₁, hstart₁⟩ := ih
    obtain ⟨t₂, hs₂, hheld₂, hstart₂⟩ := held_step hM hs₁ hheld₁ hfailure hserves timeout
    refine ⟨t₂, hs₂, hheld₂, fun hv hunset => ?_⟩
    have hbefore : ∀ turn ∈ turns, turn.Unset := fun u hu =>
      hunset u (List.mem_append_left _ hu)
    exact hstart₂ (hstart₁ hv hbefore) (hunset turn (by simp))

/-- **The view is what the logs say.**  A reader that tracks nothing yet takes
    steps on a source that serves logs, and its handler keeps a view that is
    empty at first.  After any run the view holds, of each partition that is
    tracked, what the records leave from where reading has begun up to and with
    the offset tracked; and of any other partition nothing.  Reading has begun
    at the start of the log if assignments never said otherwise. -/
theorem view_eq_replay (hM : Materialises C same d view r) (hs : s.Stands serial .nobody r)
    (hr : r.tracker = .empty) (hview : view s.own.memory = .empty)
    (hv : ∀ p n, v.next p = some n → v.since p = n) {turns : List Turn} {s' : Session R}
    (hrun : Session.Run C serial s v turns s' v') :
    (∀ p o, (s'.tracker serial).find? p = some o → ∃ k : Nat, o = some (k : Int) ∧
        view s'.own.memory p = (v'.ledger p).replay same d (v'.since p) (k + 1)) ∧
      (∀ p, (s'.tracker serial).find? p = none → view s'.own.memory p = .empty) ∧
      ((∀ p, v.next p = none) → (∀ turn ∈ turns, turn.Unset) →
        ∀ p o, (s'.tracker serial).find? p = some o → v'.since p = 0) := by
  have hs₀ : s.Stands serial .nobody { r with tracker := .empty } := by
    rw [← hr]
    exact hs
  have hheld₀ : Held same d .empty (view s.own.memory) v := by
    rw [hview]
    exact Held.start hv
  obtain ⟨t, hs', hheld, hstart⟩ := held_run hM hs₀ hheld₀ hrun
  rw [Session.tracker_of_reader? hs'.reader]
  refine ⟨fun p o ho => ?_, fun p hp => (hheld.untracked p hp).1, fun hnone hunset p o ho => ?_⟩
  · obtain ⟨k, hk, hnext, -⟩ := hheld.tracked p o ho
    exact ⟨k, hk, (hheld.reading p (k + 1) hnext).2⟩
  · obtain ⟨k, -, hnext, -⟩ := hheld.tracked p o ho
    have hv₀ : v.FromStart := fun q n hn => by
      rw [hnone q] at hn
      cases hn
    exact hstart hv₀ hunset p (k + 1) hnext

end

/-! ## §6. A run of one step. -/

namespace Sample

/-- The users remember a view. -/
abbrev keeping : Roles := ⟨Unit, Unit, Unit, Unit, View⟩

/-- Keys are the same if they are equal. -/
def sameKey (k l : Value) : Bool := decide (k = l)

/-- Handlers fold events into the view. -/
def keeper : Conduct keeping where
  decodeKey _ data o := (.ok (data.map .octets), o)
  decodeValue _ _ data o := (.ok (some (.octets data)), o)
  onEvent _ e o := (.ok (), ⟨View.apply sameKey o.memory e, o.running⟩)
  onError _ _ _ o := (.ok (), o)
  onAssignment _ a o := (⟨a, none⟩, o)
  onCreate o := (.ok (), o)
  onSubscribe _ o := (.ok (), o)
  onAssign _ o := (.ok (), o)
  onClose o := (.ok (), o)
  onSleep _ o := (.ok (), o)

/-- Keys and values are the octets themselves. -/
def decoders : Decoders := ⟨fun data => data.map .octets, fun _ data => some (.octets data)⟩

/-- A reader whose handler keeps the view. -/
def keepingReader : Reader keeping :=
  { Session.newReader "p" none .nobody with onEvent := .custom () }

theorem materialises : Materialises keeper sameKey decoders id keepingReader :=
  ⟨fun _ _ => rfl, fun _ _ _ => rfl, fun _ _ => ⟨rfl, rfl⟩, fun _ _ _ => rfl, fun _ _ => ⟨rfl, rfl⟩⟩

/-- The reader stands alone on a direct source. -/
def session : Session keeping :=
  { Session.start .direct .warning View.empty with
    readers := [keepingReader]
    installed := .reader 0 .nobody }

/-- A record that gives a value to a key. -/
def record : Record := ⟨4, some [107], some [118]⟩

/-- Every partition holds that record, and `assigned` are read from the
    start. -/
def supply (assigned : Partition → Bool) (next : Nat) : Supply where
  ledger _ := ⟨[record], List.pairwise_singleton _ _⟩
  next p := if assigned p then some next else none
  since _ := 0

/-- A partition is assigned, and its record is delivered. -/
def turn : Turn :=
  { Turn.idle with
    assign := some [⟨⟨"t", 0⟩, none⟩]
    message := some (record.message ⟨"t", 0⟩) }

end Sample

/-- The view after a step by which a partition is assigned and its first record
    is read. -/
theorem view_eq_replay_of_sample :
    ∃ s' v', Session.Run Sample.keeper 0 Sample.session (Sample.supply (fun _ => false) 0)
        [Sample.turn] s' v' ∧
      (∀ p o, (s'.tracker 0).find? p = some o → ∃ k : Nat, o = some (k : Int) ∧
        s'.own.memory p = (v'.ledger p).replay Sample.sameKey Sample.decoders (v'.since p) (k + 1)) ∧
      (∀ p, (s'.tracker 0).find? p = none → s'.own.memory p = .empty) ∧
      ((∀ p, (Sample.supply (fun _ => false) 0).next p = none) →
        (∀ turn ∈ [Sample.turn], turn.Unset) →
        ∀ p o, (s'.tracker 0).find? p = some o → v'.since p = 0) := by
  have hhonours : (Sample.supply (fun _ => false) 0).Honours [⟨⟨"t", 0⟩, none⟩]
      (Sample.supply (fun p => p = ⟨"t", 0⟩) 0) := by
    refine ⟨rfl, fun p n hn => ?_, fun p hp => ?_, fun p n hn => ?_⟩
    · simp only [Sample.supply, decide_eq_true_eq] at hn
      split at hn
      · next h => exact ⟨_, List.mem_singleton_self _, h.symm, Option.some.inj hn⟩
      · cases hn
    · simp only [Sample.supply, decide_eq_true_eq] at hp
      split at hp
      · cases hp
      · next h => simpa [Assignment.partitions] using h
    · simp only [Sample.supply, decide_eq_true_eq] at hn ⊢
      split at hn
      · cases hn
        rfl
      · cases hn
  have hserves : (Sample.supply (fun _ => false) 0).Serves
      (Sample.session.leftAt Sample.keeper.environment Sample.turn) Sample.turn.message _ :=
    .poll (fun _ => ⟨[], rfl⟩) (.assignment hhonours)
      (.record (p := ⟨"t", 0⟩) (n := 0) (x := Sample.record) rfl rfl)
  have hrun : Session.Run Sample.keeper 0 Sample.session (Sample.supply (fun _ => false) 0)
      [Sample.turn] _ _ := .step none .start rfl hserves
  exact ⟨_, _, hrun, view_eq_replay Sample.materialises ⟨rfl, rfl, rfl, rfl⟩ rfl rfl
    (fun p n hn => by cases hn) hrun⟩

end ChangeFeed
