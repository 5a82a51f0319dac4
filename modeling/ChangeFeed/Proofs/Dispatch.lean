/-
  ChangeFeed.Proofs.Dispatch — a rebalance reaches every open reader once.

  Readers are stacked on a source in whatever order they are opened and
  closed.  A rebalance tells the listener that was there before all of them
  once and first; then every open reader, in the order of opening, resumes
  what is assigned and gives up the rest.  Closed readers might as well never
  have been opened: the same stack without them fares the same.

  Main results:
    * `dispatch_through_stack` — what a rebalance does to a stack of readers.
    * `relay_calls`, `relay_assignment` — the calls made on the way and what
      becomes of the entries.
    * `StackOn.withoutClosed` — the stack in which closed readers were never
      opened.
-/

import ChangeFeed.Proofs.Relay

namespace ChangeFeed

variable {R : Roles}

/-! ## §1. What becomes of calls and entries. -/

/-- Only the partitions of an assignment matter to what is given up. -/
theorem Reader.dropped_congr (r : Reader R) {a b : Assignment}
    (h : Assignment.partitions a = Assignment.partitions b) : r.dropped a = r.dropped b := by
  unfold Reader.dropped
  rw [h]

/-- Which partitions a reader gives up. -/
theorem Reader.mem_dropped (r : Reader R) (a : Assignment) (p : Partition) :
    p ∈ r.dropped a ↔ r.tracker.contains p = true ∧ p ∉ Assignment.partitions a :=
  r.tracker.mem_untrackedBy _ p

/-- A handler of the user's is told of each partition once. -/
theorem Reader.clears_of_custom {r : Reader R} {h : R.EventHandler}
    (hr : r.onEvent = .custom h) (ps : List Partition) :
    r.clears ps = ps.map fun p => .event r.name (.clear p) := by
  induction ps with
  | nil => rfl
  | cons p rest ih =>
    show r.eventCalls (.clear p) ++ r.clears rest = _
    rw [ih]
    simp [Reader.eventCalls, hr]

/-- The reader, wherever in a chain it stands. -/
def Reader.detached (r : Reader R) : Reader R := { r with below := .nobody }

/-- The entry, moved by several readers one after the other. -/
def resumedBy (rs : List (Reader R)) (e : Entry) : Entry :=
  rs.foldl (fun e r => r.tracker.resumeEntry e) e

/-- An entry that none of the readers tracks stays as it is. -/
theorem resumedBy_of_untracked {rs : List (Reader R)} {e : Entry}
    (h : ∀ r ∈ rs, r.tracker.contains e.partition = false) : resumedBy rs e = e := by
  induction rs with
  | nil => rfl
  | cons r rest ih =>
    show resumedBy rest (r.tracker.resumeEntry e) = e
    rw [Tracker.resumeEntry_of_untracked (h r List.mem_cons_self)]
    exact ih fun r' hr' => h r' (List.mem_cons_of_mem _ hr')

namespace Conduct

variable {C : Conduct R}

/-- Every reader's handler is told of what that reader gives up, in the order
    of the readers. -/
theorem relay_calls (hC : C.Ordinary) (h : Relayed R) (rs : List (Reader R)) :
    (C.relay h rs).calls =
      h.calls ++ rs.flatMap fun r => r.clears (r.dropped h.left.assignment) := by
  induction rs generalizing h with
  | nil => simp [relay]
  | cons r rest ih =>
    have hcalls : (C.relayTo h r).calls = h.calls ++ r.clears (r.dropped h.left.assignment) := by
      show h.calls ++ r.clears (C.sweepAt r h.left.assignment h.own).visited = _
      rw [sweepAt_visited (hC.ordinaryAt r.onEvent)]
    -- resuming moves offsets only, so the later readers drop the same
    have hdropped : ∀ r' : Reader R,
        r'.dropped (C.relayTo h r).left.assignment = r'.dropped h.left.assignment :=
      fun r' => r'.dropped_congr (r.tracker.partitions_resume h.left.assignment)
    rw [relay_cons, ih, hcalls, List.flatMap_cons, List.append_assoc]
    simp only [hdropped]

/-- Each entry is moved by the readers in their order. -/
theorem relay_assignment (h : Relayed R) (rs : List (Reader R)) :
    (C.relay h rs).left.assignment = h.left.assignment.map (resumedBy rs) := by
  induction rs generalizing h with
  | nil =>
    show h.left.assignment = h.left.assignment.map id
    rw [List.map_id]
  | cons r rest ih =>
    rw [relay_cons, ih]
    show (h.left.assignment.map r.tracker.resumeEntry).map (resumedBy rest) = _
    rw [List.map_map]
    rfl

end Conduct

namespace Session

/-! ## §2. A rebalance. -/

theorem restrictBelow_length (s : Session R) (kept : List Partition) :
    (s.restrictBelow s.readers.length kept).readers =
      s.readers.map fun r => if r.closed then r else r.restrict kept := by
  refine List.ext_getElem? fun i => ?_
  show (s.restrictBelow s.readers.length kept).reader? i = _
  rw [reader?_restrictBelow, List.getElem?_map]
  show _ = (s.reader? i).map _
  cases hr : s.reader? i with
  | none => rfl
  | some r =>
    have hi : i < s.readers.length := lt_of_reader? hr
    cases hrc : r.closed <;> simp [hi, hrc]

/-- A rebalance on a stack of readers, in closed form. -/
theorem rebalance_run {C : Conduct R} (hC : C.Ordinary) {base : Listener} {s : Session R}
    (hs : StackOn base s) (a : Assignment) :
    (s.rebalance C.environment a).1 = (C.relay (C.hear base a s.own) s.openReaders).left ∧
      (s.rebalance C.environment a).2.withoutLog =
        (s.withoutLog.restrictBelow s.readers.length
          (Assignment.partitions (C.hear base a s.own).left.assignment)).advance
            (C.relay (C.hear base a s.own) s.openReaders).calls
            (C.relay (C.hear base a s.own) s.openReaders).own := by
  have hupright := hs.upright
  rw [← openBelow_length]
  exact notify_spine hC hupright.foreign a hupright.installed

variable {C : Conduct R} {base : Listener} {a : Assignment} {s t : Session R}

theorem readers_rebalance (hC : C.Ordinary) (hs : StackOn base s) :
    (s.rebalance C.environment a).2.readers = s.readers.map fun r =>
      if r.closed then r
      else r.restrict (Assignment.partitions (C.hear base a s.own).left.assignment) := by
  rw [readers_of_withoutLog (rebalance_run hC hs a).2]
  exact restrictBelow_length s.withoutLog _

theorem deeds_rebalance (hC : C.Ordinary) (hs : StackOn base s) :
    (s.rebalance C.environment a).2.deeds =
      s.deeds ++ (C.relay (C.hear base a s.own) s.openReaders).calls :=
  deeds_of_withoutLog (rebalance_run hC hs a).2

theorem own_rebalance (hC : C.Ordinary) (hs : StackOn base s) :
    (s.rebalance C.environment a).2.own = (C.relay (C.hear base a s.own) s.openReaders).own :=
  own_of_withoutLog (rebalance_run hC hs a).2

/-! ## §3. The same stack without closed readers. -/

/-- What users can tell of a stack: the open readers, wherever they stand in
    the chain, and what is their own. -/
structure Visible (R : Roles) where
  readers : List (Reader R)
  own : Own R

def visible (s : Session R) : Visible R := ⟨s.openReaders.map Reader.detached, s.own⟩

/-- The session with a reader put on top, as it is. -/
def stackUp (s : Session R) (r : Reader R) : Session R :=
  { s with
    readers := s.readers ++ [{ r with below := s.installed }]
    installed := .reader s.readers.length s.installed }

/-- The session in which the closed readers were never opened. -/
def withoutClosed (s : Session R) (base : Listener) : Session R :=
  s.openReaders.foldl stackUp { s with readers := [], installed := base }

theorem StackOn.stackUp (hs : StackOn base s) {r : Reader R} (hopen : r.closed = false) :
    StackOn base (s.stackUp r) := by
  -- a reader that is put on top might as well have been opened there
  refine .between (.opened r.name r.timeout hs) ⟨rfl, ?_⟩
  simp [Session.stackUp, Session.opened, newReader, hopen]

theorem openReaders_stackUp {r : Reader R} (hopen : r.closed = false) (s : Session R) :
    (s.stackUp r).openReaders = s.openReaders ++ [{ r with below := s.installed }] := by
  simp [openReaders, Session.stackUp, hopen]

/-- Putting open readers on top of a stack gives a stack with those readers. -/
theorem StackOn.foldl_stackUp (hs : StackOn base s) {rs : List (Reader R)}
    (hopen : ∀ r ∈ rs, r.closed = false) :
    StackOn base (rs.foldl Session.stackUp s) ∧
      (rs.foldl Session.stackUp s).visible =
        ⟨s.openReaders.map Reader.detached ++ rs.map Reader.detached, s.own⟩ := by
  induction rs generalizing s with
  | nil => exact ⟨hs, by simp [visible]⟩
  | cons r rest ih =>
    have hr : r.closed = false := hopen r List.mem_cons_self
    obtain ⟨hstack, hvisible⟩ := ih (hs.stackUp hr) fun r' hr' =>
      hopen r' (List.mem_cons_of_mem _ hr')
    refine ⟨hstack, hvisible.trans ?_⟩
    rw [openReaders_stackUp hr, List.map_append, List.append_assoc]
    rfl

/-- **The stack without closed readers is one, and users cannot tell it from
    the one that it stands for.** -/
theorem StackOn.withoutClosed (hs : StackOn base s) :
    StackOn base (s.withoutClosed base) ∧ (s.withoutClosed base).visible = s.visible := by
  have hstart : StackOn base { s with readers := [], installed := base } :=
    .start hs.upright.foreign rfl rfl
  have hopen : ∀ r ∈ s.openReaders, r.closed = false := fun r hr => by
    simpa using (List.mem_filter.1 hr).2
  exact hstart.foldl_stackUp hopen

/-- Has a rebalance the same effect on two sessions, log entries aside?  The
    same is left, the same calls are made, and users still cannot tell one
    from the other. -/
structure SameEffect (E : Environment R) (a : Assignment) (s t : Session R) : Prop where
  left : (t.rebalance E a).1 = (s.rebalance E a).1
  visible : (t.rebalance E a).2.visible = (s.rebalance E a).2.visible
  deeds : ∃ done, (s.rebalance E a).2.deeds = s.deeds ++ done ∧
    (t.rebalance E a).2.deeds = t.deeds ++ done

/-- Where in the chain a reader stands does not matter to what it does. -/
theorem relay_detached (h : Relayed R) (rs : List (Reader R)) :
    C.relay h (rs.map Reader.detached) = C.relay h rs := by
  unfold Conduct.relay
  rw [List.foldl_map]
  rfl

/-- What users can tell after a rebalance. -/
theorem visible_rebalance (hC : C.Ordinary) (hs : StackOn base s) :
    (s.rebalance C.environment a).2.visible =
      ⟨s.visible.readers.map fun r =>
          r.restrict (Assignment.partitions (C.hear base a s.own).left.assignment),
        (C.relay (C.hear base a s.own) s.visible.readers).own⟩ := by
  have hopen : (s.rebalance C.environment a).2.openReaders = s.openReaders.map fun r =>
      r.restrict (Assignment.partitions (C.hear base a s.own).left.assignment) := by
    set kept := Assignment.partitions (C.hear base a s.own).left.assignment with hkept
    -- a rebalance neither opens nor closes readers
    have hfilter : s.readers.filter ((fun r => !r.closed) ∘ fun r =>
        if r.closed then r else r.restrict kept) = s.openReaders := by
      refine List.filter_congr fun r _ => ?_
      cases h : r.closed <;> simp [h, Reader.restrict]
    show (s.rebalance C.environment a).2.readers.filter _ = _
    rw [readers_rebalance hC hs, ← hkept, List.filter_map, hfilter]
    refine List.map_congr_left fun r hr => ?_
    have hr' : r.closed = false := by simpa using (List.mem_filter.1 hr).2
    simp [hr']
  unfold visible
  rw [hopen, own_rebalance hC hs, relay_detached, List.map_map, List.map_map]
  rfl

/-- **What users cannot tell apart fares the same at a rebalance.** -/
theorem sameEffect_of_visible (hC : C.Ordinary) (hs : StackOn base s) (ht : StackOn base t)
    (h : t.visible = s.visible) (a : Assignment) : SameEffect C.environment a s t := by
  have hreaders : t.openReaders.map Reader.detached = s.openReaders.map Reader.detached :=
    congrArg Visible.readers h
  have hown : t.own = s.own := congrArg Visible.own h
  -- everything a rebalance does is a matter of what is relayed
  have hrelay : C.relay (C.hear base a t.own) t.openReaders =
      C.relay (C.hear base a s.own) s.openReaders := by
    rw [← relay_detached, hreaders, hown, relay_detached]
  refine ⟨?_, ?_, (C.relay (C.hear base a s.own) s.openReaders).calls, ?_, ?_⟩
  · rw [(rebalance_run hC hs a).1, (rebalance_run hC ht a).1, hrelay]
  · rw [visible_rebalance hC hs, visible_rebalance hC ht, h, hown]
  · exact deeds_rebalance hC hs
  · rw [deeds_rebalance hC ht, hrelay]

/-! ## §4. Dispatch. -/

/-- The entry, moved by the open readers one after the other. -/
def resumed (s : Session R) (e : Entry) : Entry := resumedBy s.openReaders e

/-- What a rebalance does to a stack of readers above `base`, of which `a` was
    proposed, `final` was left by `base`, and `s'` and `left` come of it. -/
structure Dispatched (C : Conduct R) (base : Listener) (a final : Assignment) (s s' : Session R)
    (left : Notified) : Prop where
  /-- The base is told what was proposed, with nothing done before. -/
  heard : final = (C.hear base a s.own).left.assignment
  /-- It is told once and first.  Then each open reader has its handler told
      of what it gives up.  Nothing else is called. -/
  deeds : s'.deeds = s.deeds ++ base.calls a ++
    s.openReaders.flatMap fun r => r.clears (r.dropped final)
  /-- The handler of an open reader is told of each partition once. -/
  cleared : ∀ r ∈ s.openReaders, ∀ h, r.onEvent = .custom h →
    r.clears (r.dropped final) = (r.dropped final).map fun p => .event r.name (.clear p)
  /-- What is given up is what is tracked and not assigned, in order. -/
  dropped : ∀ r ∈ s.openReaders, (r.dropped final).Pairwise (· < ·) ∧
    ∀ p, p ∈ r.dropped final ↔ r.tracker.contains p = true ∧ p ∉ Assignment.partitions final
  /-- Open readers go on tracking what is assigned; closed ones stay as they
      were. -/
  readers : s'.readers = s.readers.map fun r =>
    if r.closed then r else r.restrict (Assignment.partitions final)
  /-- The entries are moved by the open readers only. -/
  entries : left.assignment = final.map s.resumed
  untracked : ∀ e, (∀ r ∈ s.openReaders, r.tracker.contains e.partition = false) →
    s.resumed e = e
  /-- What belongs to the users is handed from one call to the next. -/
  own : s'.own = (C.relay (C.hear base a s.own) s.openReaders).own
  feed : s'.feed = s.feed
  installed : s'.installed = s.installed

/-- **A rebalance is dispatched through a stack of readers**, and has the same
    effect as if those that are closed had never been opened. -/
theorem dispatch_through_stack (hC : C.Ordinary) (hs : StackOn base s) (a : Assignment) :
    Dispatched C base a (C.hear base a s.own).left.assignment s (s.rebalance C.environment a).2
        (s.rebalance C.environment a).1 ∧
      SameEffect C.environment a s (s.withoutClosed base) ∧
      ∀ t : Session R, StackOn base t → t.visible = s.visible →
        SameEffect C.environment a s t := by
  obtain ⟨hleft, hstate⟩ := rebalance_run hC hs a
  obtain ⟨hbare, hvisible⟩ := hs.withoutClosed
  refine ⟨⟨rfl, ?_, ?_, ?_, ?_, ?_, ?_, ?_, ?_, ?_⟩, ?_, ?_⟩
  -- the calls: those of the base come first
  · rw [deeds_rebalance hC hs, Conduct.relay_calls hC, Conduct.hear_calls, List.append_assoc]
  · intro r _ h hr
    exact Reader.clears_of_custom hr _
  · intro r _
    exact ⟨r.tracker.untrackedBy_ascending _, r.mem_dropped _⟩
  · exact readers_rebalance hC hs
  -- the entries that are left
  · rw [hleft]
    exact Conduct.relay_assignment _ _
  · intro e he
    exact resumedBy_of_untracked he
  · exact own_rebalance hC hs
  · exact (feed_of_withoutLog hstate).trans rfl
  · exact (installed_of_withoutLog hstate).trans rfl
  -- the same stack without closed readers
  · exact sameEffect_of_visible hC hs hbare hvisible a
  · intro t ht h
    exact sameEffect_of_visible hC hs ht h a

end Session

/-! ## §5. A stack of three readers. -/

namespace Sample

/-- Handlers that refuse events, or do not; they count how often they are
    called. -/
abbrev roles : Roles := ⟨Unit, Unit, Bool, Unit, Nat⟩

/-- Nobody writes to assignments, and the listener named `"audit"` fails. -/
def conduct : Conduct roles where
  decodeKey _ data o := (.ok (data.map .octets), o)
  decodeValue _ _ data o := (.ok (some (.octets data)), o)
  onEvent (refuses : Bool) _ o :=
    (if refuses then .error (.of (.runtime "refused")) else .ok (), ⟨Nat.succ o.memory, o.running⟩)
  onError _ _ _ o := (.ok (), o)
  onAssignment name a o :=
    (⟨a, if name = "audit" then some (.of (.invalid "audit")) else none⟩, o)
  onCreate o := (.ok (), o)
  onSubscribe _ o := (.ok (), o)
  onAssign _ o := (.ok (), o)
  onClose o := (.ok (), o)
  onSleep _ o := (.ok (), o)

theorem conduct_ordinary : conduct.Ordinary := by
  refine ⟨fun h e o f hf => ?_, fun name a o f hf => ?_⟩
  · cases h with
    | true => cases hf; rfl
    | false => cases hf
  · simp only [conduct] at hf
    split at hf
    · cases hf; rfl
    · cases hf

/-- A partition of the topic `"t"`. -/
def partition (index : Int) : Partition := ⟨"t", index⟩

/-- A reader that tracks some partitions of the topic `"t"` at the offset 7. -/
def reader (name : String) (refuses : Bool) (indices : List Int) : Reader roles :=
  { Session.newReader name none .nobody with
    onEvent := .custom refuses
    tracker := indices.foldl (fun t i => t.update (partition i) (some 7)) .empty }

/-- A source that the listener named `"audit"` listens to. -/
def audited : Session roles :=
  { Session.start .direct .warning (0 : Nat) with installed := .foreign "audit" }

/-- Three readers above the listener `"audit"`, of which the second one is
    closed. -/
def stack : Session roles :=
  (((({ Session.start .direct .warning (0 : Nat) with installed := .foreign "audit" }).stackUp
    (reader "p1" true [0, 1])).stackUp (reader "p2" true [0, 2])).stackUp
      (reader "p3" true [1, 3])).closeReader 1

theorem stackOn_stack : Session.StackOn (.foreign "audit") stack := by
  refine .closed 1 (Session.StackOn.stackUp (Session.StackOn.stackUp
    (Session.StackOn.stackUp (.start ?_ ?_ ?_) ?_) ?_) ?_) <;> rfl

end Sample

/-- Dispatch through three readers, of which only the second partition stays
    assigned. -/
theorem dispatch_through_sample :
    Session.Dispatched Sample.conduct (.foreign "audit") [⟨Sample.partition 1, none⟩]
        [⟨Sample.partition 1, none⟩] Sample.stack
        (Sample.stack.rebalance Sample.conduct.environment [⟨Sample.partition 1, none⟩]).2
        (Sample.stack.rebalance Sample.conduct.environment [⟨Sample.partition 1, none⟩]).1 ∧
      Session.SameEffect Sample.conduct.environment [⟨Sample.partition 1, none⟩] Sample.stack
        (Sample.stack.withoutClosed (.foreign "audit")) ∧
      ∀ t, Session.StackOn (.foreign "audit") t → t.visible = Sample.stack.visible →
        Session.SameEffect Sample.conduct.environment [⟨Sample.partition 1, none⟩] Sample.stack t :=
  Session.dispatch_through_stack Sample.conduct_ordinary Sample.stackOn_stack
    [⟨Sample.partition 1, none⟩]

example : (Sample.stack.rebalance Sample.conduct.environment [⟨Sample.partition 1, none⟩]).2.deeds =
    [.notify "audit" [⟨Sample.partition 1, none⟩], .event "p1" (.clear (Sample.partition 0)),
      .event "p3" (.clear (Sample.partition 3))] := by rfl

end ChangeFeed
