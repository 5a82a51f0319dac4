/-
  ChangeFeed.Proofs.FiniteMap — a tracker is a finite map, listed in order.

  What a tracker is asked can be asked of a plain finite map from partitions
  to offsets as well, which keeps them in no order at all: a look-up is a
  look-up of the map, and a listing is the set of its partitions put in
  order.  A tracker answers every sequence of requests as the map does, and
  what it lists is settled by the map, however that came about.

  Main results:
    * `perform_offsetMap` — one request, asked of both.
    * `canonical_offsetMap` — how a tracker lists its map.
    * `refines_finite_map` — any sequence of requests on a new tracker.
-/

import ChangeFeed.Proofs.Restriction
import ChangeFeed.Tracker.Request
import Mathlib.Data.Finmap
import Mathlib.Data.Finset.Sort

namespace ChangeFeed

/-! ## §1. Sets of partitions in order. -/

namespace Partition

/-- Is it the same partition, or one that comes before? -/
def upTo (p q : Partition) : Prop := p < q ∨ p = q

instance : DecidableRel upTo := fun p q => inferInstanceAs (Decidable (p < q ∨ p = q))

instance : IsTrans Partition upTo where
  trans p q r := by
    rintro (h | rfl) (h' | rfl)
    · exact .inl (lt_trans h h')
    · exact .inl h
    · exact .inl h'
    · exact .inr rfl

instance : Std.Antisymm upTo where
  antisymm p q := by
    rintro (h | rfl) (h' | h')
    · exact absurd (lt_trans h h') (lt_irrefl p)
    · exact h'.symm
    · rfl
    · rfl

instance : Std.Total upTo where
  total p q := by
    by_cases h : p = q
    · exact .inl (.inr h)
    · exact (lt_or_gt_of_ne h).imp .inl .inl

/-- The partitions of a set, each once, in their order. -/
def listed (ps : Finset Partition) : List Partition := ps.sort upTo

/-- A list that ascends is the listing of its members. -/
theorem listed_toFinset {ps : List Partition} (h : ps.Pairwise (· < ·)) :
    listed ps.toFinset = ps := by
  have hnodup : ps.Nodup := h.imp fun {p q} (hlt : p < q) (e : p = q) => lt_irrefl q (e ▸ hlt)
  exact (List.toFinset_sort upTo hnodup).2 (h.imp .inl)

end Partition

/-! ## §2. Requests to a finite map. -/

/-- Offsets by partition, as a finite map. -/
abbrev OffsetMap := Finmap fun _ : Partition => Option Offset

namespace OffsetMap

/-- The offset recorded for a partition, if there is one. -/
def offset? (m : OffsetMap) (p : Partition) : Option Offset := (m.lookup p).join

/-- What is recorded, in the order of the partitions. -/
def entries (m : OffsetMap) : List Tracker.Entry :=
  (Partition.listed m.keys).map fun p => (p, m.offset? p)

/-- The answer of a finite map to a request. -/
def answer (m : OffsetMap) : Tracker.Request → Except Failure Tracker.Answer
  | .update _ _ => .ok .done
  | .get p => .ok (.offset (m.offset? p))
  | .resumeOffset p => .ok (.offset ((m.offset? p).map fun o => o + 1))
  | .remove p => if p ∈ m then .ok .done else .error (.missingKey (.partition p))
  | .contains p => .ok (.flag (decide (p ∈ m)))
  | .untrackedBy assigned => .ok (.partitions (Partition.listed (m.keys \ assigned.toFinset)))
  | .partitions => .ok (.partitions (Partition.listed m.keys))
  | .size => .ok (.count m.keys.card)
  | .entries => .ok (.entries m.entries)
  | .text => .ok (.text ("OffsetTracker(\x7b" ++ Text.join ", "
      (m.entries.map fun e => e.1.label ++ ": " ++ Offset.described e.2) ++ "\x7d)"))

/-- What a request makes of a finite map. -/
def change (m : OffsetMap) : Tracker.Request → OffsetMap
  | .update p o => m.insert p o
  | .remove p => if p ∈ m then m.erase p else m
  | _ => m

/-- Answers a request. -/
def perform (m : OffsetMap) (r : Tracker.Request) : Except Failure Tracker.Answer × OffsetMap :=
  (m.answer r, m.change r)

end OffsetMap

/-- Several requests, one after the other: the answers, and what has become of
    what was asked. -/
def performAll {σ : Type} (perform : σ → Tracker.Request → Except Failure Tracker.Answer × σ)
    (s : σ) : List Tracker.Request → List (Except Failure Tracker.Answer) × σ
  | [] => ([], s)
  | r :: rest =>
    ((perform s r).1 :: (performAll perform (perform s r).2 rest).1,
      (performAll perform (perform s r).2 rest).2)

namespace Tracker

/-! ## §3. The map that a tracker stands for. -/

/-- The map that a tracker stands for. -/
def offsetMap (t : Tracker) : OffsetMap :=
  (t.entries.map fun e => (⟨e.1, e.2⟩ : (_ : Partition) × Option Offset)).toFinmap

theorem lookup_offsetMap (t : Tracker) (p : Partition) : t.offsetMap.lookup p = t.find? p := by
  rw [offsetMap, Finmap.dlookup_list_toFinmap, find?]
  induction t.entries with
  | nil => rfl
  | cons e rest ih =>
    obtain ⟨q, o⟩ := e
    by_cases h : p = q
    · subst h
      simp
    · have hne : (p == q) = false := by simp [h]
      rw [List.map_cons, List.dlookup_cons_ne _ _ h, ih, List.lookup_cons, hne]

theorem mem_offsetMap (t : Tracker) (p : Partition) : p ∈ t.offsetMap ↔ t.contains p = true := by
  rw [← Finmap.lookup_isSome, lookup_offsetMap, contains]

theorem offset?_offsetMap (t : Tracker) (p : Partition) : t.offsetMap.offset? p = t.get? p := by
  rw [OffsetMap.offset?, lookup_offsetMap, get?]

/-- Trackers that stand for the same map are equal. -/
theorem offsetMap_injective {t u : Tracker} (h : t.offsetMap = u.offsetMap) : t = u :=
  ext fun p => by rw [← lookup_offsetMap, ← lookup_offsetMap, h]

theorem keys_offsetMap (t : Tracker) : t.offsetMap.keys = t.partitions.toFinset := by
  ext p
  rw [Finmap.mem_keys, mem_offsetMap, List.mem_toFinset, mem_partitions]

/-! ## §4. What is listed. -/

/-- The tracked partitions are those of the map, in order. -/
theorem listed_offsetMap (t : Tracker) : Partition.listed t.offsetMap.keys = t.partitions := by
  rw [keys_offsetMap, Partition.listed_toFinset t.partitions_ascending]

/-- So are those that are not among some. -/
theorem listed_offsetMap_sdiff (t : Tracker) (assigned : List Partition) :
    Partition.listed (t.offsetMap.keys \ assigned.toFinset) = t.untrackedBy assigned := by
  have hkeys : t.offsetMap.keys \ assigned.toFinset = (t.untrackedBy assigned).toFinset := by
    ext p
    rw [Finset.mem_sdiff, Finmap.mem_keys, mem_offsetMap, List.mem_toFinset, List.mem_toFinset,
      mem_untrackedBy]
  rw [hkeys, Partition.listed_toFinset (t.untrackedBy_ascending assigned)]

theorem card_offsetMap (t : Tracker) : t.offsetMap.keys.card = t.size := by
  have hnodup : t.partitions.Nodup := t.partitions_ascending.imp
    fun {p q} (h : p < q) (e : p = q) => Partition.lt_irrefl q (e ▸ h)
  rw [keys_offsetMap, List.toFinset_card_of_nodup hnodup, partitions, List.length_map, size]

theorem entries_offsetMap (t : Tracker) : t.offsetMap.entries = t.entries := by
  rw [OffsetMap.entries, listed_offsetMap, partitions, List.map_map]
  refine (List.map_congr_left fun e he => ?_).trans (List.map_id _)
  -- what the map has recorded for a partition is what its entry says
  have hfind : t.find? e.1 = some e.2 := (mem_entries_iff t e.1 e.2).1 he
  simp [OffsetMap.offset?, lookup_offsetMap, hfind]

/-! ## §5. Requests. -/

theorem offsetMap_empty : empty.offsetMap = ∅ := rfl

theorem offsetMap_update (t : Tracker) (p : Partition) (o : Option Offset) :
    (t.update p o).offsetMap = t.offsetMap.insert p o := by
  refine Finmap.ext_lookup fun q => ?_
  rw [lookup_offsetMap, find?_update]
  by_cases h : q = p
  · subst h
    rw [if_pos rfl, Finmap.lookup_insert]
  · rw [if_neg h, Finmap.lookup_insert_of_ne _ h, lookup_offsetMap]

theorem offsetMap_erase (t : Tracker) (p : Partition) :
    (t.erase p).offsetMap = t.offsetMap.erase p := by
  refine Finmap.ext_lookup fun q => ?_
  rw [lookup_offsetMap, find?_erase]
  by_cases h : q = p
  · subst h
    rw [if_pos rfl, Finmap.lookup_erase]
  · rw [if_neg h, Finmap.lookup_erase_ne h, lookup_offsetMap]

/-- **A tracker answers a request as its map does**, and goes on standing for
    what becomes of the map. -/
theorem perform_offsetMap (t : Tracker) (r : Request) :
    (t.perform r).1 = t.offsetMap.answer r ∧ (t.perform r).2.offsetMap = t.offsetMap.change r := by
  cases r with
  | update p o => exact ⟨rfl, offsetMap_update t p o⟩
  | get p => exact ⟨by rw [OffsetMap.answer, offset?_offsetMap]; rfl, rfl⟩
  | resumeOffset p => exact ⟨by rw [OffsetMap.answer, offset?_offsetMap]; rfl, rfl⟩
  | remove p =>
    simp only [perform, remove, OffsetMap.answer, OffsetMap.change, mem_offsetMap]
    by_cases h : t.contains p = true
    · rw [if_pos h, if_pos h, if_pos h]
      exact ⟨rfl, offsetMap_erase t p⟩
    · rw [if_neg h, if_neg h, if_neg h]
      exact ⟨rfl, rfl⟩
  | contains p => exact ⟨by simp [perform, OffsetMap.answer, mem_offsetMap], rfl⟩
  | untrackedBy assigned => exact ⟨by rw [OffsetMap.answer, listed_offsetMap_sdiff]; rfl, rfl⟩
  | partitions => exact ⟨by rw [OffsetMap.answer, listed_offsetMap]; rfl, rfl⟩
  | size => exact ⟨by rw [OffsetMap.answer, card_offsetMap]; rfl, rfl⟩
  | entries => exact ⟨by rw [OffsetMap.answer, entries_offsetMap]; rfl, rfl⟩
  | text => exact ⟨by rw [OffsetMap.answer, entries_offsetMap]; rfl, rfl⟩

/-- So it does with any number of requests.  The induction is on these. -/
theorem performAll_offsetMap (rs : List Request) (t : Tracker) :
    (performAll perform t rs).1 = (performAll OffsetMap.perform t.offsetMap rs).1 ∧
      (performAll perform t rs).2.offsetMap = (performAll OffsetMap.perform t.offsetMap rs).2 := by
  induction rs generalizing t with
  | nil => exact ⟨rfl, rfl⟩
  | cons r rest ih =>
    obtain ⟨hanswer, hchange⟩ := perform_offsetMap t r
    obtain ⟨hanswers, hoffsetMap⟩ := ih (t.perform r).2
    rw [hchange] at hanswers hoffsetMap
    simp only [performAll]
    exact ⟨congrArg₂ List.cons hanswer hanswers, hoffsetMap⟩

/-! ## §6. The listing is settled by the map. -/

/-- How a tracker lists a map. -/
structure Canonical (t : Tracker) (m : OffsetMap) : Prop where
  /-- Look-ups are those of the map. -/
  found : ∀ p, t.find? p = m.lookup p
  /-- Exactly the partitions of the map are listed. -/
  tracked : ∀ p, p ∈ t.partitions ↔ p ∈ m
  /-- They ascend by topic and then by index, so none is listed twice. -/
  ascending : t.partitions.Pairwise fun p q =>
    p.topic < q.topic ∨ (p.topic = q.topic ∧ p.index < q.index)
  /-- The entries are listed in the order of their partitions. -/
  entries : t.entries = t.partitions.map fun p => (p, m.offset? p)
  /-- What is tracked outside a set keeps its order. -/
  outside : ∀ assigned, t.untrackedBy assigned = t.partitions.filter fun p => p ∉ assigned
  /-- What is tracked outside a set, together with what is tracked inside it,
      is what is tracked, with nothing in both. -/
  split : ∀ assigned,
    (t.untrackedBy assigned ++ t.partitions.filter fun p => p ∈ assigned).Perm t.partitions ∧
      (t.untrackedBy assigned).Disjoint (t.partitions.filter fun p => p ∈ assigned)

/-- **How a tracker lists the map that it stands for.** -/
theorem canonical_offsetMap (t : Tracker) : Canonical t t.offsetMap := by
  have houtside : ∀ assigned,
      t.untrackedBy assigned = t.partitions.filter fun p => p ∉ assigned := fun assigned => by
    simp only [untrackedBy, List.contains_eq_mem, decide_not]
  refine ⟨fun p => (t.lookup_offsetMap p).symm, fun p => ?_, t.partitions_ascending, ?_, houtside,
    fun assigned => ⟨?_, ?_⟩⟩
  · rw [mem_partitions, mem_offsetMap]
  · rw [← listed_offsetMap]
    exact t.entries_offsetMap.symm
  · rw [houtside]
    -- the two filters are each other's complement
    have hperm := List.filter_append_perm (fun p => decide (p ∈ assigned)) t.partitions
    simp only [decide_not] at hperm ⊢
    exact List.perm_append_comm.trans hperm
  · intro p hout hin
    have hnot : p ∉ assigned := ((mem_untrackedBy t assigned p).1 hout).2
    exact hnot (by simpa using (List.mem_filter.1 hin).2)

/-- Two trackers list the same, in whatever way they are asked to. -/
structure ListsAs (t u : Tracker) : Prop where
  partitions : t.partitions = u.partitions
  entries : t.entries = u.entries
  text : t.described = u.described

theorem listsAs_iff (t u : Tracker) : t.ListsAs u ↔ t.offsetMap = u.offsetMap := by
  constructor
  · intro h
    simp only [offsetMap, h.entries]
  · intro h
    rw [offsetMap_injective h]
    exact ⟨rfl, rfl, rfl⟩

/-- **A new tracker refines a finite map.**  Whatever it is asked, it gives the
    answers of a map that is empty at first, and stands for what has become of
    the map.  What it lists depends on the map alone and not on the way to
    it. -/
theorem refines_finite_map (rs : List Request) :
    (performAll perform empty rs).1 = (performAll OffsetMap.perform ∅ rs).1 ∧
      Canonical (performAll perform empty rs).2 (performAll OffsetMap.perform ∅ rs).2 ∧
      ∀ rs', (performAll perform empty rs').2.ListsAs (performAll perform empty rs).2 ↔
        (performAll OffsetMap.perform ∅ rs').2 = (performAll OffsetMap.perform ∅ rs).2 := by
  obtain ⟨hanswers, hoffsetMap⟩ := performAll_offsetMap rs empty
  rw [offsetMap_empty] at hanswers hoffsetMap
  refine ⟨hanswers, ?_, fun rs' => ?_⟩
  · rw [← hoffsetMap]
    exact canonical_offsetMap _
  · rw [← hoffsetMap, ← offsetMap_empty, ← (performAll_offsetMap rs' empty).2]
    exact listsAs_iff _ _

end Tracker

end ChangeFeed
