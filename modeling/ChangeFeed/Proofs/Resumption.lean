/-
  ChangeFeed.Proofs.Resumption — where a stack of readers has reading go on.

  At a rebalance each open reader moves the entries of the partitions that it
  tracks to right after what it has read itself, one reader after the other.
  So the reader that was opened last among those that track a partition has
  the last word, whether or not another one has read further.  Nobody is
  handed again what was read already exactly if that reader is not behind any
  of the others.

  Main results:
    * `resumedBy_offset` — the last reader that tracks a partition decides.
    * `passes_resumed` — when reading goes on beyond all that was read.
    * `resumption_of_stack` — what a rebalance makes of the entries.
    * `reread_below_upper` — a stack on which a message is read twice.
-/

import ChangeFeed.Proofs.History

namespace ChangeFeed

variable {R : Roles}

/-! ## §1. The last word on an entry. -/

/-- The offset tracked by the last of several readers that tracks one. -/
def lastRead (rs : List (Reader R)) (p : Partition) : Option Offset :=
  (rs.filterMap fun r => r.tracker.get? p).getLast?

theorem lastRead_cons (r : Reader R) (rs : List (Reader R)) (p : Partition) :
    lastRead (r :: rs) p = (lastRead rs p).or (r.tracker.get? p) := by
  unfold lastRead
  rw [List.filterMap_cons]
  cases r.tracker.get? p with
  | none => simp
  | some o =>
    rw [List.getLast?_cons]
    cases (rs.filterMap fun r => r.tracker.get? p).getLast? <;> rfl

theorem lastRead_isSome {rs : List (Reader R)} {r : Reader R} (hr : r ∈ rs) {p : Partition}
    {o : Offset} (ho : r.tracker.get? p = some o) : ∃ last, lastRead rs p = some last := by
  have hmem : o ∈ rs.filterMap fun r => r.tracker.get? p := List.mem_filterMap.2 ⟨r, hr, ho⟩
  exact ⟨_, List.getLast?_eq_some_getLast (List.ne_nil_of_mem hmem)⟩

theorem resumedBy_partition (rs : List (Reader R)) (e : Entry) :
    (resumedBy rs e).partition = e.partition := by
  induction rs generalizing e with
  | nil => rfl
  | cons r rest ih => exact ih (r.tracker.resumeEntry e)

/-- **The last reader that tracks a partition decides** where reading it goes
    on.  The induction is on the readers, from the first one on. -/
theorem resumedBy_offset (rs : List (Reader R)) (e : Entry) :
    (resumedBy rs e).offset = ((lastRead rs e.partition).map (· + 1)).or e.offset := by
  induction rs generalizing e with
  | nil => rfl
  | cons r rest ih =>
    show (resumedBy rest (r.tracker.resumeEntry e)).offset = _
    rw [ih, lastRead_cons]
    show ((lastRead rest e.partition).map _).or (((r.tracker.get? e.partition).map _).or _) = _
    cases lastRead rest e.partition <;> rfl

namespace Session

/-! ## §2. Beyond all that was read. -/

/-- At this entry reading goes on beyond whatever an open reader has read of
    the partition. -/
def Passes (s : Session R) (e : Entry) : Prop :=
  ∀ r ∈ s.openReaders, ∀ o, r.tracker.get? e.partition = some o → ∃ n, e.offset = some n ∧ o < n

/-- No open reader has read more of the partition than the last one that tracks
    it. -/
def LastLeads (s : Session R) (p : Partition) : Prop :=
  ∀ r ∈ s.openReaders, ∀ o, r.tracker.get? p = some o →
    ∀ last, lastRead s.openReaders p = some last → o ≤ last

/-- **When reading goes on beyond all that was read.** -/
theorem passes_resumed (s : Session R) (e : Entry) :
    s.Passes (s.resumed e) ↔ s.LastLeads e.partition := by
  have hpartition : (s.resumed e).partition = e.partition := resumedBy_partition _ e
  have hoffset : ∀ last, lastRead s.openReaders e.partition = some last →
      (s.resumed e).offset = some (last + 1) := fun last h => by
    show (resumedBy s.openReaders e).offset = _
    rw [resumedBy_offset, h]
    rfl
  unfold Passes LastLeads
  rw [hpartition]
  constructor
  · intro h r hr o ho last hlast
    obtain ⟨n, hn, hlt⟩ := h r hr o ho
    rw [hoffset last hlast] at hn
    obtain rfl : last + 1 = n := Option.some.inj hn
    exact Int.lt_add_one_iff.1 hlt
  · intro h r hr o ho
    obtain ⟨last, hlast⟩ := lastRead_isSome hr ho
    have hle := h r hr o ho last hlast
    exact ⟨last + 1, hoffset last hlast, Int.lt_add_one_iff.2 hle⟩

/-- What a rebalance on a stack makes of the entries in `final`. -/
structure Resumption (s : Session R) (final left : Assignment) : Prop where
  /-- No entry comes or goes, and each is moved for itself. -/
  entries : left = final.map s.resumed
  partition : ∀ e, (s.resumed e).partition = e.partition
  /-- It is moved to right after what the last open reader that tracks the
      partition has read. -/
  offset : ∀ e, (s.resumed e).offset =
    ((lastRead s.openReaders e.partition).map (· + 1)).or e.offset
  /-- What others have read does not matter; they are passed only if they are
      not ahead. -/
  passes : ∀ e, s.Passes (s.resumed e) ↔ s.LastLeads e.partition

/-- **Where reading goes on after a rebalance.**  On every stack of readers,
    whatever each of them tracks, the entries that the listener at the base
    leaves are moved to right after what the reader opened last has read,
    among the open ones that track the partition.  So every open reader that
    tracks it is passed exactly if none is ahead of that one. -/
theorem resumption_of_stack {C : Conduct R} {base : Listener} {s : Session R} (hC : C.Ordinary)
    (hs : StackOn base s) (a : Assignment) :
    Resumption s (C.hear base a s.own).left.assignment
      (s.rebalance C.environment a).1.assignment := by
  refine ⟨?_, resumedBy_partition _, resumedBy_offset _, s.passes_resumed⟩
  rw [(rebalance_run hC hs a).1]
  exact Conduct.relay_assignment _ _

end Session

/-! ## §3. A reader that is behind. -/

namespace Sample

/-- Some readers take steps, one after the other. -/
def stepping (s : Session roles) (steps : List (Nat × Turn)) : Session roles :=
  steps.foldl (fun s (serial, turn) =>
    ((Session.step conduct.environment serial none turn).run s).2) s

/-- Two readers.  The one opened last reads the first message of a partition,
    the other one reads the next two. -/
def overtaken : Session roles :=
  stepping ((blank.opened "lower" none).opened "upper" none)
    [(1, delivery 0 0), (0, delivery 0 1), (0, delivery 0 2)]

theorem stackOn_overtaken : Session.StackOn .nobody overtaken :=
  .between (.opened "upper" none (.opened "lower" none (.start rfl rfl rfl))) ⟨rfl, rfl⟩

end Sample

/-- Where reading goes on when the reader opened last is behind. -/
theorem resumption_of_overtaken :
    Session.Resumption Sample.overtaken [⟨Sample.partition 0, none⟩]
      (Sample.overtaken.rebalance Sample.conduct.environment
        [⟨Sample.partition 0, none⟩]).1.assignment :=
  Session.resumption_of_stack Sample.conduct_ordinary Sample.stackOn_overtaken
    [⟨Sample.partition 0, none⟩]

/-- **A message is read twice.**  A rebalance on that stack does not fail, and
    leaves the entry at an offset that the reader opened first has read; when
    that reader is handed the message there, what it tracks goes backwards. -/
theorem reread_below_upper :
    Session.StackOn .nobody Sample.overtaken ∧
      (Sample.overtaken.tracker 0).get? (Sample.partition 0) = some 2 ∧
      (Sample.overtaken.rebalance Sample.conduct.environment
        [⟨Sample.partition 0, none⟩]).1.failure = none ∧
      (Sample.overtaken.rebalance Sample.conduct.environment
        [⟨Sample.partition 0, none⟩]).1.assignment = [⟨Sample.partition 0, some 1⟩] ∧
      ¬ Sample.overtaken.Passes ⟨Sample.partition 0, some 1⟩ ∧
      ((Sample.stepping Sample.overtaken
        [(0, { Sample.delivery 0 1 with assign := some [⟨Sample.partition 0, none⟩] })]).tracker
          0).get? (Sample.partition 0) = some 1 := by
  have htracked : (Sample.overtaken.tracker 0).get? (Sample.partition 0) = some 2 := by rfl
  refine ⟨Sample.stackOn_overtaken, htracked, by rfl, by rfl, fun hpasses => ?_, by rfl⟩
  -- the reader opened first is open, and has read more
  obtain ⟨r, hr, hopen⟩ : ∃ r, Sample.overtaken.reader? 0 = some r ∧ r.closed = false :=
    ⟨_, rfl, rfl⟩
  have hmem : r ∈ Sample.overtaken.openReaders :=
    List.mem_filter.2 ⟨List.mem_of_getElem? hr, by simp [hopen]⟩
  rw [Session.tracker_of_reader? hr] at htracked
  obtain ⟨n, hn, hlt⟩ := hpasses r hmem 2 htracked
  obtain rfl : 1 = n := Option.some.inj hn
  exact absurd hlt (by decide)

end ChangeFeed
