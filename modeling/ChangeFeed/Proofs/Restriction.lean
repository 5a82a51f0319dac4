/-
  ChangeFeed.Proofs.Restriction — what a rebalance leaves of a tracker.

  A tracker can be restricted to some partitions, or be rid of some.  Giving
  up, one after the other, the partitions that are tracked outside a set
  comes to the restriction to that set.

  Main results:
    * `find?_without`, `find?_restrict` — the look-ups afterwards.
    * `without_untrackedBy` — giving up what is not kept is keeping the rest.
    * `untrackedBy_ascending` — partitions are given up in their order.
    * `resumeEntry_of_untracked` — an entry of no tracked partition stays.
-/

import ChangeFeed.Session.Rebalance

namespace ChangeFeed.Tracker

/-! ## §1. Look-ups among some of the entries. -/

theorem lookup_filter_key (keep : Partition → Bool) (q : Partition) (es : List Entry) :
    (es.filter fun e => keep e.1).lookup q = if keep q then es.lookup q else none := by
  induction es with
  | nil => simp
  | cons d rest ih =>
    obtain ⟨r, s⟩ := d
    rw [List.filter_cons]
    by_cases hq : q = r
    · subst hq
      cases hk : keep q with
      | true => simp
      | false => simp [ih, hk]
    · -- whether the first entry is kept makes no difference to the look-up
      have hne : (q == r) = false := by simp [hq]
      have hlookup : ((r, s) :: rest).lookup q = rest.lookup q := by
        simp [List.lookup_cons, hne]
      rw [hlookup]
      cases keep r with
      | true => simpa [List.lookup_cons, hne] using ih
      | false => simpa using ih

/-! ## §2. Two operations. -/

/-- The tracker rid of some partitions. -/
def without (t : Tracker) (gone : List Partition) : Tracker :=
  ⟨t.entries.filter fun e => !gone.contains e.1, t.ascending.filter _⟩

/-- The tracker restricted to some partitions. -/
def restrict (t : Tracker) (kept : List Partition) : Tracker :=
  ⟨t.entries.filter fun e => kept.contains e.1, t.ascending.filter _⟩

theorem find?_without (t : Tracker) (gone : List Partition) (q : Partition) :
    (t.without gone).find? q = if q ∈ gone then none else t.find? q := by
  show (t.entries.filter fun e => !gone.contains e.1).lookup q = _
  rw [lookup_filter_key fun p => !gone.contains p]
  by_cases h : q ∈ gone <;> simp [h, find?]

theorem find?_restrict (t : Tracker) (kept : List Partition) (q : Partition) :
    (t.restrict kept).find? q = if q ∈ kept then t.find? q else none := by
  show (t.entries.filter fun e => kept.contains e.1).lookup q = _
  rw [lookup_filter_key fun p => kept.contains p]
  by_cases h : q ∈ kept <;> simp [h, find?]

theorem contains_without (t : Tracker) (gone : List Partition) (q : Partition) :
    (t.without gone).contains q = true ↔ t.contains q = true ∧ q ∉ gone := by
  simp only [contains, find?_without]
  by_cases h : q ∈ gone <;> simp [h]

@[simp] theorem without_nil (t : Tracker) : t.without [] = t :=
  ext fun q => by simp [find?_without]

/-- Several partitions are given up one after the other. -/
theorem without_cons (t : Tracker) (p : Partition) (gone : List Partition) :
    t.without (p :: gone) = (t.erase p).without gone := by
  refine ext fun q => ?_
  rw [find?_without, find?_without, find?_erase]
  by_cases hp : q = p
  · simp [hp]
  · simp [hp]

/-- Giving up what is tracked outside a set keeps what is in it. -/
theorem without_untrackedBy (t : Tracker) (kept : List Partition) :
    t.without (t.untrackedBy kept) = t.restrict kept := by
  refine ext fun q => ?_
  rw [find?_without, find?_restrict]
  by_cases hk : q ∈ kept
  · simp [mem_untrackedBy, hk]
  -- what is not kept is given up, if it was tracked at all
  · by_cases ht : t.contains q = true
    · simp [mem_untrackedBy, hk, ht]
    · have hnone : t.find? q = none := by simpa [contains] using ht
      simp [hk, hnone]

/-! ## §3. Order and multiplicity. -/

theorem partitions_ascending (t : Tracker) : t.partitions.Pairwise (· < ·) :=
  List.pairwise_map.2 t.ascending

/-- Partitions are given up in their order. -/
theorem untrackedBy_ascending (t : Tracker) (kept : List Partition) :
    (t.untrackedBy kept).Pairwise (· < ·) :=
  t.partitions_ascending.filter _

theorem untrackedBy_nodup (t : Tracker) (kept : List Partition) : (t.untrackedBy kept).Nodup :=
  (t.untrackedBy_ascending kept).imp fun {p q} (h : p < q) (e : p = q) =>
    Partition.lt_irrefl q (e ▸ h)

/-- Which partitions are kept matters, and not how often each is listed. -/
theorem untrackedBy_congr (t : Tracker) {ps qs : List Partition} (h : ∀ p, p ∈ ps ↔ p ∈ qs) :
    t.untrackedBy ps = t.untrackedBy qs := by
  have : ∀ p, (!ps.contains p) = !qs.contains p := fun p => by simp [h p]
  simp only [untrackedBy, this]

/-! ## §4. Resuming. -/

/-- An entry of a partition that is not tracked stays as it is. -/
theorem resumeEntry_of_untracked {t : Tracker} {e : ChangeFeed.Entry}
    (h : t.contains e.partition = false) : t.resumeEntry e = e := by
  have hnone : t.find? e.partition = none := by simpa [contains] using h
  simp [resumeEntry, resumeOffset?, get?, hnone]

/-- An entry of a tracked partition is moved to right after what was read. -/
theorem resumeEntry_of_tracked {t : Tracker} {e : ChangeFeed.Entry} {o : Offset}
    (h : t.find? e.partition = some (some o)) :
    t.resumeEntry e = { e with offset := some (o + 1) } := by
  simp [resumeEntry, resumeOffset?, get?, h]

end ChangeFeed.Tracker

namespace ChangeFeed

/-- The partitions that an assignment names. -/
def Assignment.partitions (a : Assignment) : List Partition := a.map Entry.partition

theorem mem_assignedPartitions (a : Assignment) (p : Partition) :
    p ∈ assignedPartitions a ↔ p ∈ Assignment.partitions a := by
  simp [assignedPartitions, Assignment.partitions]

/-- Resuming leaves the partitions of an assignment. -/
theorem Tracker.partitions_resume (t : Tracker) (a : Assignment) :
    Assignment.partitions (t.resume a) = Assignment.partitions a :=
  t.resume_partitions a

end ChangeFeed
