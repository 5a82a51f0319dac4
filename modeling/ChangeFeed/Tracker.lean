/-
  ChangeFeed.Tracker — the offset of the last message read, per partition.

  The entries are kept in the order of their partitions, so a listing depends
  only on what is tracked and not on how it came to be.  An entry may hold no
  offset; the partition then counts as tracked but cannot be resumed.

  Main results:
    * `find?_update`, `find?_erase` — what each change does to a look-up.
    * `ext` — trackers with the same look-ups are equal.
    * `mem_untrackedBy` — what is tracked outside a set.
-/

import ChangeFeed.Event

namespace ChangeFeed

/-- What is known of one partition. -/
abbrev Tracker.Entry := Partition × Option Offset

/-- Offsets by partition, in the order of the partitions. -/
structure Tracker where
  /-- The entries, one for each tracked partition. -/
  entries : List Tracker.Entry
  /-- The partitions ascend. -/
  ascending : entries.Pairwise fun a b => a.1 < b.1
deriving DecidableEq

namespace Tracker

/-! ## §1. Entries in order. -/

/-- Writes an entry to where it belongs, in place of one that is there. -/
def insertEntry (p : Partition) (o : Option Offset) : List Entry → List Entry
  | [] => [(p, o)]
  | (q, r) :: rest =>
    if p < q then (p, o) :: (q, r) :: rest
    else if p = q then (p, o) :: rest
    else (q, r) :: insertEntry p o rest

theorem mem_insertEntry {p : Partition} {o : Option Offset} {es : List Entry} {e : Entry}
    (h : e ∈ insertEntry p o es) : e = (p, o) ∨ e ∈ es := by
  induction es with
  | nil => simpa [insertEntry] using h
  | cons d rest ih =>
    obtain ⟨q, r⟩ := d
    simp only [insertEntry] at h
    split at h
    · simpa using h
    · split at h
      · rcases List.mem_cons.1 h with h | h
        · exact .inl h
        · exact .inr (List.mem_cons_of_mem _ h)
      · rcases List.mem_cons.1 h with h | h
        · exact .inr (h ▸ List.mem_cons_self)
        · exact (ih h).imp_right (List.mem_cons_of_mem _)

theorem pairwise_insertEntry (p : Partition) (o : Option Offset) {es : List Entry}
    (h : es.Pairwise fun a b => a.1 < b.1) :
    (insertEntry p o es).Pairwise fun a b => a.1 < b.1 := by
  induction es with
  | nil => simp [insertEntry]
  | cons d rest ih =>
    obtain ⟨q, r⟩ := d
    obtain ⟨hd, ht⟩ := List.pairwise_cons.1 h
    simp only [insertEntry]
    split
    · next hpq =>
      refine List.pairwise_cons.2 ⟨fun e he => ?_, h⟩
      rcases List.mem_cons.1 he with he | he
      · exact he ▸ hpq
      · exact Partition.lt_trans hpq (hd e he)
    · split
      · next _ hpq => exact List.pairwise_cons.2 ⟨fun e he => hpq ▸ hd e he, ht⟩
      · next hlt hne =>
        refine List.pairwise_cons.2 ⟨fun e he => ?_, ih ht⟩
        rcases mem_insertEntry he with he | he
        · exact he ▸ (Partition.lt_or_gt_of_ne hne).resolve_left hlt
        · exact hd e he

/-! ## §2. Operations. -/

/-- Nothing is tracked. -/
def empty : Tracker := ⟨[], .nil⟩

instance : EmptyCollection Tracker := ⟨empty⟩

instance : Inhabited Tracker := ⟨empty⟩

/-- The entry of a partition, if it is tracked. -/
def find? (t : Tracker) (p : Partition) : Option (Option Offset) := t.entries.lookup p

/-- Records the last offset seen on a partition. -/
def update (t : Tracker) (p : Partition) (o : Option Offset) : Tracker :=
  ⟨insertEntry p o t.entries, pairwise_insertEntry p o t.ascending⟩

/-- The last offset seen on a partition. -/
def get? (t : Tracker) (p : Partition) : Option Offset := (t.find? p).join

/-- Where reading a partition continues: right after the last offset seen. -/
def resumeOffset? (t : Tracker) (p : Partition) : Option Offset := (t.get? p).map (· + 1)

/-- Is the partition tracked? -/
def contains (t : Tracker) (p : Partition) : Bool := (t.find? p).isSome

/-- Stops tracking a partition, if it was tracked. -/
def erase (t : Tracker) (p : Partition) : Tracker :=
  ⟨t.entries.filter fun e => decide (e.1 ≠ p), t.ascending.filter _⟩

/-- Stops tracking a partition that is tracked. -/
def remove (t : Tracker) (p : Partition) : Except Failure Tracker :=
  if t.contains p then .ok (t.erase p) else .error (.missingKey (.partition p))

/-- The tracked partitions, in order. -/
def partitions (t : Tracker) : List Partition := t.entries.map Prod.fst

/-- The tracked partitions that are not among `assigned`, in order. -/
def untrackedBy (t : Tracker) (assigned : List Partition) : List Partition :=
  t.partitions.filter fun p => !assigned.contains p

/-- How many partitions are tracked. -/
def size (t : Tracker) : Nat := t.entries.length

/-- The text of a tracker. -/
def described (t : Tracker) : String :=
  let entry (e : Entry) : String := e.1.label ++ ": " ++ Offset.described e.2
  "OffsetTracker(\x7b" ++ Text.join ", " (t.entries.map entry) ++ "\x7d)"

/-! ## §3. Look-ups after changes. -/

@[simp] theorem find?_empty (p : Partition) : empty.find? p = none := rfl

theorem lookup_insertEntry (p q : Partition) (o : Option Offset) (es : List Entry) :
    (insertEntry p o es).lookup q = if q = p then some o else es.lookup q := by
  induction es with
  | nil =>
    by_cases h : q = p
    · simp [insertEntry, h]
    · have : (q == p) = false := by simp [h]
      simp [insertEntry, List.lookup_cons, h, this]
  | cons d rest ih =>
    obtain ⟨r, s⟩ := d
    simp only [insertEntry]
    by_cases hqp : q = p
    · subst hqp
      split
      · simp
      · split
        · simp
        · next hne =>
          have : (q == r) = false := by simp [hne]
          simp [List.lookup_cons, this, ih]
    · have hqp' : (q == p) = false := by simp [hqp]
      split
      · simp [List.lookup_cons, hqp']
      · split
        · next _ hpr =>
          subst hpr
          simp [List.lookup_cons, hqp']
        · simp only [List.lookup_cons, ih, hqp, if_false]

theorem find?_update (t : Tracker) (p q : Partition) (o : Option Offset) :
    (t.update p o).find? q = if q = p then some o else t.find? q :=
  lookup_insertEntry p q o t.entries

theorem lookup_filter_ne (p q : Partition) (es : List Entry) :
    (es.filter fun e => decide (e.1 ≠ p)).lookup q = if q = p then none else es.lookup q := by
  induction es with
  | nil => simp
  | cons d rest ih =>
    obtain ⟨r, s⟩ := d
    by_cases hr : r = p
    · subst hr
      by_cases hq : q = r
      · subst hq
        simpa using ih
      · have : (q == r) = false := by simp [hq]
        simpa [List.lookup_cons, this, hq] using ih
    · by_cases hq : q = p
      · subst hq
        have : (q == r) = false := by simp [Ne.symm hr]
        simpa [List.lookup_cons, this, hr] using ih
      · simp only [hq, if_false, ne_eq, decide_not] at ih
        simp [List.lookup_cons, hr, hq, ih]

theorem find?_erase (t : Tracker) (p q : Partition) :
    (t.erase p).find? q = if q = p then none else t.find? q :=
  lookup_filter_ne p q t.entries

/-! ## §4. The entries are the look-ups. -/

theorem lookup_eq_some_of_mem {es : List Entry} (h : es.Pairwise fun a b => a.1 < b.1)
    {e : Entry} (he : e ∈ es) : es.lookup e.1 = some e.2 := by
  induction es with
  | nil => cases he
  | cons d rest ih =>
    obtain ⟨q, r⟩ := d
    obtain ⟨hd, ht⟩ := List.pairwise_cons.1 h
    rcases List.mem_cons.1 he with he | he
    · simp [he]
    · have : (e.1 == q) = false := by
        simp only [beq_eq_false_iff_ne]
        intro heq
        exact Partition.lt_irrefl q (by simpa [heq] using hd e he)
      simp [List.lookup_cons, this, ih ht he]

theorem mem_of_lookup_eq_some {es : List Entry} {p : Partition} {o : Option Offset}
    (h : es.lookup p = some o) : (p, o) ∈ es := by
  induction es with
  | nil => simp at h
  | cons d rest ih =>
    obtain ⟨q, r⟩ := d
    by_cases hq : p = q
    · subst hq
      have hr : r = o := by simpa [List.lookup_cons] using h
      simp [hr]
    · have : (p == q) = false := by simp [hq]
      simp only [List.lookup_cons, this] at h
      exact List.mem_cons_of_mem _ (ih h)

/-- An entry is there exactly if the look-up finds it. -/
theorem mem_entries_iff (t : Tracker) (p : Partition) (o : Option Offset) :
    (p, o) ∈ t.entries ↔ t.find? p = some o :=
  ⟨fun h => lookup_eq_some_of_mem t.ascending h, mem_of_lookup_eq_some⟩

/-- Exactly the tracked partitions are listed. -/
theorem mem_partitions (t : Tracker) (p : Partition) : p ∈ t.partitions ↔ t.contains p = true := by
  simp only [partitions, List.mem_map, contains, Option.isSome_iff_exists]
  constructor
  · rintro ⟨⟨q, o⟩, h, rfl⟩
    exact ⟨o, (mem_entries_iff t _ _).1 h⟩
  · rintro ⟨o, h⟩
    exact ⟨(p, o), (mem_entries_iff t _ _).2 h, rfl⟩

/-- What is tracked outside a set of partitions. -/
theorem mem_untrackedBy (t : Tracker) (assigned : List Partition) (p : Partition) :
    p ∈ t.untrackedBy assigned ↔ t.contains p = true ∧ p ∉ assigned := by
  simp [untrackedBy, mem_partitions]

/-- Two ascending lists with the same members are equal. -/
theorem eq_of_mem_iff {es ds : List Entry} (he : es.Pairwise fun a b => a.1 < b.1)
    (hd : ds.Pairwise fun a b => a.1 < b.1) (h : ∀ e, e ∈ es ↔ e ∈ ds) : es = ds := by
  induction es generalizing ds with
  | nil =>
    cases ds with
    | nil => rfl
    | cons d ds => exact absurd ((h d).2 List.mem_cons_self) (by simp)
  | cons e es ih =>
    cases ds with
    | nil => exact absurd ((h e).1 List.mem_cons_self) (by simp)
    | cons d ds =>
      obtain ⟨he', het⟩ := List.pairwise_cons.1 he
      obtain ⟨hd', hdt⟩ := List.pairwise_cons.1 hd
      have hed : e = d := by
        rcases List.mem_cons.1 ((h e).1 List.mem_cons_self) with h₁ | h₁
        · exact h₁
        · rcases List.mem_cons.1 ((h d).2 List.mem_cons_self) with h₂ | h₂
          · exact h₂.symm
          · exact absurd (Partition.lt_trans (hd' e h₁) (he' d h₂)) (Partition.lt_irrefl _)
      subst hed
      congr 1
      refine ih het hdt fun x => ⟨fun hx => ?_, fun hx => ?_⟩
      · rcases List.mem_cons.1 ((h x).1 (List.mem_cons_of_mem _ hx)) with h₁ | h₁
        · exact absurd (h₁ ▸ he' x hx) (Partition.lt_irrefl _)
        · exact h₁
      · rcases List.mem_cons.1 ((h x).2 (List.mem_cons_of_mem _ hx)) with h₁ | h₁
        · exact absurd (h₁ ▸ hd' x hx) (Partition.lt_irrefl _)
        · exact h₁

/-- Trackers with the same look-ups are equal. -/
theorem ext {s t : Tracker} (h : ∀ p, s.find? p = t.find? p) : s = t := by
  have : s.entries = t.entries := eq_of_mem_iff s.ascending t.ascending fun ⟨p, o⟩ => by
    rw [mem_entries_iff, mem_entries_iff, h p]
  cases s
  cases t
  simp_all

end Tracker

end ChangeFeed
