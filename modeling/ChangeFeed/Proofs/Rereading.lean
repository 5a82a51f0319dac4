/-
  ChangeFeed.Proofs.Rereading — what was read is not read again.

  A reader stands alone above a listener that may do what it likes with the
  entries and fail.  Its source honours what is left of each assignment, and
  otherwise moves on along every partition.  Nothing keeps a tracker from
  going backwards by itself; what does is `Ahead`: the source has moved beyond
  everything that is tracked.  It survives a rebalance because the reader
  moves its entries whether or not the listener below it failed, and it
  survives a message that could not be handled because only the source moves
  on then.

  Main results:
    * `Ahead.taken`, `Ahead.record` — what an assignment and a message do to
      it.
    * `ahead_after` — a move keeps the source ahead of the reader.
    * `movesOn` — what that means for one move.
    * `never_read_again` — and for any run.
-/

import ChangeFeed.Proofs.History
import ChangeFeed.Proofs.Materialised

namespace ChangeFeed

variable {R : Roles}

/-! ## §1. A source that moves on. -/

/-- The least offset that a source may still deliver, for each partition. -/
abbrev Floors := Partition → Offset

namespace Floors

/-- An assignment is honoured: a partition that it names is read from where
    its entry says, if that says anything.  Of several entries one counts.
    Where any other partition is read does not matter. -/
structure Honours (left : Assignment) (w : Floors) : Prop where
  start : ∀ p, 0 ≤ w p
  entry : ∀ p ∈ Assignment.partitions left, ∃ e ∈ left, e.partition = p ∧
    ∀ o, e.offset = some o → 0 ≤ o → o ≤ w p

/-- What becomes of the floors when a poll comes with an assignment, or does
    not.  One that the source refuses makes no difference to it. -/
inductive Takes (w : Floors) : Option Assignment → Floors → Prop where
  | nothing : Takes w none w
  | refused {left : Assignment} : Takes w (some left) w
  | honoured {left : Assignment} {w' : Floors} (h : Honours left w') : Takes w (some left) w'

/-- What a poll comes to.  A message that carries a record lies at the floor or
    beyond, and the source moves on to behind it. -/
inductive Gives (w : Floors) : Except Raised (Option Message) → Floors → Prop where
  | failed (e : Raised) : Gives w (.error e) w
  | nothing : Gives w (.ok none) w
  | report {m : Message} {code : ErrorCode} (h : m.error = some code) : Gives w (.ok (some m)) w
  | record {m : Message} {o : Offset} (h : m.error = none) (ho : m.offset = some o)
      (hle : w m.partition ≤ o) :
    Gives w (.ok (some m)) fun p => if p = m.partition then o + 1 else w p

end Floors

namespace Session

/-- The poll that a move makes, if it makes one. -/
def asks (serial : Nat) (s : Session R) : Move R → Option (Option Timeout × Turn)
  | .process timeout turn => some (s.effectiveTimeout serial timeout, turn)
  | .pollSource timeout turn => some (timeout, turn)
  | .configure _ => none
  | .subscribe _ => none

/-- What becomes of the floors in a move. -/
inductive Yields (E : Environment R) (serial : Nat) (s : Session R) (w : Floors) (move : Move R) :
    Floors → Prop where
  | idle (h : s.asks serial move = none) : Yields E serial s w move w
  | poll {timeout : Option Timeout} {turn : Turn} {w₁ w' : Floors}
      (h : s.asks serial move = some (timeout, turn)) (htakes : w.Takes (s.leftAt E turn) w₁)
      (hgives : w₁.Gives ((poll E timeout turn).run s).1 w') : Yields E serial s w move w'

/-- The moves that a source may see which honours assignments and moves on. -/
inductive Honoured (E : Environment R) (serial : Nat) :
    Session R → Floors → List (Move R) → Prop where
  | done {s : Session R} {w : Floors} : Honoured E serial s w []
  | move {s : Session R} {w w' : Floors} {move : Move R} {rest : List (Move R)}
      (h : s.Yields E serial w move w')
      (hrest : Honoured E serial (s.after E serial move) w' rest) :
    Honoured E serial s w (move :: rest)

/-! ## §2. What a move completes and clears. -/

/-- The messages that a move completes: at most one. -/
def completionsOf (E : Environment R) (serial : Nat) (s : Session R) : Move R → List Happening
  | .process timeout turn => s.completions E serial timeout turn
  | _ => []

/-- Does the move complete this message? -/
def Completes (E : Environment R) (serial : Nat) (s : Session R) (move : Move R) (p : Partition)
    (o : Option Offset) : Prop :=
  .completed p o ∈ s.completionsOf E serial move

/-- Does the move clear the partition?  The reader tracked it, and no longer
    does when the poll returns; and its handler, if there is one, has been told
    to forget the partition. -/
def Clears (E : Environment R) (serial : Nat) (s : Session R) (move : Move R)
    (p : Partition) : Prop :=
  ∃ r timeout turn, s.reader? serial = some r ∧ r.tracker.contains p = true ∧
    s.asks serial move = some (timeout, turn) ∧
    (((poll E timeout turn).run s).2.tracker serial).contains p = false ∧
    ∃ before after, ((poll E timeout turn).run s).2.deeds =
      s.deeds ++ before ++ r.eventCalls (.clear p) ++ after

end Session

/-- Does one offset lie before another, both being known? -/
def Before (o o' : Option Offset) : Prop := ∃ k k', o = some k ∧ o' = some k' ∧ k < k'

theorem Before.trans {o o' o'' : Option Offset} (h : Before o o') (h' : Before o' o'') :
    Before o o'' := by
  obtain ⟨k, k', rfl, rfl, hlt⟩ := h
  obtain ⟨l, l', hl, rfl, hlt'⟩ := h'
  obtain rfl : k' = l := Option.some.inj hl
  exact ⟨k, l', rfl, rfl, Int.lt_trans hlt hlt'⟩

namespace Session

/-- What a move of a reader does that never reads anything again. -/
structure MovesOn (E : Environment R) (serial : Nat) (s : Session R) (move : Move R) : Prop where
  /-- A record is delivered that lies beyond what is tracked when the poll
      returns. -/
  delivered : ∀ timeout turn m, s.asks serial move = some (timeout, turn) →
    ((poll E timeout turn).run s).1 = .ok (some m) → m.error = none →
    ∀ o, (((poll E timeout turn).run s).2.tracker serial).find? m.partition = some o →
      Before o m.offset
  /-- What is completed is tracked from then on, and lies beyond what was tracked
      before unless that was cleared. -/
  completed : ∀ p o, s.Completes E serial move p o →
    ((s.after E serial move).tracker serial).find? p = some o ∧
      ∀ o₀, (s.tracker serial).find? p = some o₀ → Before o₀ o ∨ s.Clears E serial move p
  /-- Nothing else changes what is tracked. -/
  stays : ∀ p o, (s.tracker serial).find? p = some o →
    ((s.after E serial move).tracker serial).find? p = some o ∨
      (∃ o', s.Completes E serial move p o') ∨ s.Clears E serial move p

end Session

/-! ## §3. The source is ahead. -/

/-- The source has moved beyond everything that is tracked. -/
structure Ahead (t : Tracker) (w : Floors) : Prop where
  start : ∀ p, 0 ≤ w p
  tracked : ∀ p o, t.find? p = some o → ∃ k, o = some k ∧ 0 ≤ k ∧ k < w p

theorem Ahead.restrict {t : Tracker} {w : Floors} (h : Ahead t w) (kept : List Partition) :
    Ahead (t.restrict kept) w := by
  refine ⟨h.start, fun p o ho => ?_⟩
  rw [Tracker.find?_restrict] at ho
  split at ho
  · exact h.tracked p o ho
  · cases ho

/-- **An assignment is taken over**: what is still tracked is read on from
    right behind it, whatever the listener below had written there. -/
theorem Ahead.taken {t : Tracker} {w w' : Floors} {final : Assignment} (h : Ahead t w)
    (htakes : w.Takes (some (t.resume final)) w') :
    Ahead (t.restrict (Assignment.partitions final)) w' := by
  cases htakes with
  | refused => exact h.restrict _
  | honoured hhonours =>
    refine ⟨hhonours.start, fun p o ho => ?_⟩
    rw [Tracker.find?_restrict] at ho
    split at ho
    · next hp =>
      obtain ⟨k, rfl, hk, -⟩ := h.tracked p o ho
      rw [← t.partitions_resume final] at hp
      obtain ⟨e, he, hep, hle⟩ := hhonours.entry p hp
      -- whichever entry counts, the reader has moved it
      obtain ⟨e₀, -, rfl⟩ := List.mem_map.1 he
      obtain rfl : e₀.partition = p := hep
      have hresume : (t.resumeEntry e₀).offset = some (k + 1) := by
        rw [Tracker.resumeEntry_of_tracked ho]
      have hnext := hle (k + 1) hresume (Int.le_add_one hk)
      exact ⟨k, rfl, hk, Int.lt_of_add_one_le hnext⟩
    · cases ho

/-- **A record is delivered**: it lies beyond what is tracked, and the source
    stays ahead whether or not the record is completed. -/
theorem Ahead.record {t : Tracker} {w : Floors} (h : Ahead t w) {m : Message} {k : Offset}
    (hk : m.offset = some k) (hle : w m.partition ≤ k) :
    (∀ o, t.find? m.partition = some o → Before o m.offset) ∧
      Ahead t (fun p => if p = m.partition then k + 1 else w p) ∧
      Ahead (t.update m.partition m.offset) (fun p => if p = m.partition then k + 1 else w p) := by
  have hstart : ∀ p, 0 ≤ if p = m.partition then k + 1 else w p := fun p => by
    split
    · exact Int.le_add_one (Int.le_trans (h.start _) hle)
    · exact h.start p
  refine ⟨fun o ho => ?_, ⟨hstart, fun p o ho => ?_⟩, ⟨hstart, fun p o ho => ?_⟩⟩
  · obtain ⟨l, rfl, -, hlt⟩ := h.tracked _ o ho
    exact ⟨l, k, rfl, hk, Int.lt_of_lt_of_le hlt hle⟩
  · obtain ⟨l, rfl, hl, hlt⟩ := h.tracked p o ho
    refine ⟨l, rfl, hl, ?_⟩
    split
    · next hp =>
      subst hp
      exact Int.lt_add_one_of_le (Int.le_of_lt (Int.lt_of_lt_of_le hlt hle))
    · exact hlt
  · rw [Tracker.find?_update] at ho
    split at ho
    · next hp =>
      rw [hk] at ho
      obtain rfl : some k = o := Option.some.inj ho
      exact ⟨k, rfl, Int.le_trans (h.start _) hle, by rw [if_pos hp]; exact Int.lt_succ k⟩
    · next hp =>
      rw [if_neg hp]
      exact h.tracked p o ho

theorem Ahead.given {t : Tracker} {w w' : Floors} (h : Ahead t w)
    {result : Except Raised (Option Message)} (hgives : w.Gives result w') :
    Ahead t w' ∧ ∀ m, result = .ok (some m) → m.error = none →
      (∀ o, t.find? m.partition = some o → Before o m.offset) ∧
        Ahead (t.update m.partition m.offset) w' := by
  cases hgives with
  | failed e => exact ⟨h, fun m hm => by cases hm⟩
  | nothing => exact ⟨h, fun m hm => by cases hm⟩
  | @report m code herror =>
    refine ⟨h, fun m' hm hnone => ?_⟩
    cases hm
    rw [herror] at hnone
    cases hnone
  | @record m o herror ho hle =>
    obtain ⟨hbefore, hkept, htracked⟩ := h.record ho hle
    refine ⟨hkept, fun m' hm _ => ?_⟩
    cases hm
    exact ⟨hbefore, htracked⟩

/-- The handler is told of every partition that is cleared. -/
theorem Reader.clears_of_mem (r : Reader R) {ps : List Partition} {p : Partition} (hp : p ∈ ps) :
    ∃ before after, r.clears ps = before ++ r.eventCalls (.clear p) ++ after := by
  obtain ⟨xs, ys, rfl⟩ := List.append_of_mem hp
  exact ⟨r.clears xs, r.clears ys, by simp [clears]⟩

namespace Session

/-! ## §4. One move. -/

section

variable {C : Conduct R} {base : Listener} {serial : Nat} {s : Session R} {r : Reader R}
  {move : Move R} {timeout : Option Timeout} {turn : Turn} {w w' : Floors} {p : Partition}
  {o : Option Offset}

theorem tracker_polled (hC : C.Copes base r) (hs : s.Stands serial base r)
    (timeout : Option Timeout) (turn : Turn) :
    ((poll C.environment timeout turn).run s).2.tracker serial =
      (s.rebalances C base turn).foldl Happening.track r.tracker := by
  have hpoll := poll_run hC hs timeout turn
  have hstands := hpoll.stands hs (by rw [closed_poll, hs.isOpen])
  rw [tracker_of_reader? hstands.reader, tracker_poll]

theorem tracker_after (hC : C.Ordinary) (hs : s.Stands serial base r)
    (hask : s.asks serial move = some (timeout, turn)) :
    (s.after C.environment serial move).tracker serial =
      (s.completionsOf C.environment serial move).foldl Happening.track
        (((poll C.environment timeout turn).run s).2.tracker serial) := by
  obtain ⟨r', hr', htracker⟩ := stands_after hC hs move
  rw [tracker_of_reader? hr'.reader, htracker, tracker_polled (hC.copes base r) hs]
  cases move with
  | process timeout' turn' =>
    obtain ⟨-, rfl⟩ := Prod.mk.inj (Option.some.inj hask)
    exact List.foldl_append
  | pollSource timeout' turn' =>
    obtain ⟨-, rfl⟩ := Prod.mk.inj (Option.some.inj hask)
    rfl
  | configure setting => cases hask
  | subscribe topics => cases hask

theorem tracker_after_idle (hC : C.Ordinary) (hs : s.Stands serial base r)
    (hask : s.asks serial move = none) :
    (s.after C.environment serial move).tracker serial = s.tracker serial ∧
      s.completionsOf C.environment serial move = [] := by
  obtain ⟨r', hr', htracker⟩ := stands_after hC hs move
  rw [tracker_of_reader? hr'.reader, tracker_of_reader? hs.reader, htracker]
  cases move with
  | process timeout turn => cases hask
  | pollSource timeout turn => cases hask
  | configure setting => exact ⟨rfl, rfl⟩
  | subscribe topics => exact ⟨rfl, rfl⟩

/-- What is completed is a record that the poll delivered. -/
theorem completionsOf_cases (E : Environment R)
    (hask : s.asks serial move = some (timeout, turn)) :
    s.completionsOf E serial move = [] ∨
      ∃ m, ((poll E timeout turn).run s).1 = .ok (some m) ∧ m.error = none ∧
        s.completionsOf E serial move = [.completed m.partition m.offset] := by
  cases move with
  | process timeout' turn' =>
    obtain ⟨rfl, rfl⟩ := Prod.mk.inj (Option.some.inj hask)
    simp only [completionsOf, completions]
    split
    · next m event hm hstep =>
      cases herror : m.error with
      | some code => exact .inl rfl
      | none => exact .inr ⟨m, hm, herror, rfl⟩
    · exact .inl rfl
  | pollSource timeout' turn' => exact .inl rfl
  | configure setting => cases hask
  | subscribe topics => cases hask

/-- A rebalance leaves the source ahead of what is still tracked. -/
theorem ahead_polled (hC : C.Copes base r) (hs : s.Stands serial base r)
    (h : Ahead r.tracker w) (htakes : w.Takes (s.leftAt C.environment turn) w')
    (timeout : Option Timeout) :
    Ahead (((poll C.environment timeout turn).run s).2.tracker serial) w' := by
  rw [tracker_polled hC hs]
  unfold rebalances
  unfold leftAt at htakes
  cases hD : turn.delivered s.feed with
  | none =>
    rw [hD] at htakes
    cases htakes
    exact h
  | some a =>
    simp only [hD, Option.map_some, hs.assignment_rebalance hC] at htakes
    exact h.taken htakes

/-- What was tracked before a poll still is when it returns, unless it was
    cleared. -/
theorem kept_or_cleared (hC : C.Copes base r) (hs : s.Stands serial base r)
    (hask : s.asks serial move = some (timeout, turn)) (ho : r.tracker.find? p = some o) :
    (((poll C.environment timeout turn).run s).2.tracker serial).find? p = some o ∨
      s.Clears C.environment serial move p := by
  have htracker := tracker_polled hC hs timeout turn
  have hdeeds := deeds_of_withoutLog (poll_run hC hs timeout turn).2
  unfold rebalances at htracker
  unfold Conduct.poll at hdeeds
  cases hD : turn.delivered s.feed with
  | none =>
    rw [hD] at htracker
    exact .inl (by rw [htracker]; exact ho)
  | some a =>
    rw [hD] at htracker
    simp only [hD] at hdeeds
    set final := (C.hear base a s.own).left.assignment with hfinal
    have hfind : (((poll C.environment timeout turn).run s).2.tracker serial).find? p =
        if p ∈ Assignment.partitions final then some o else none := by
      rw [htracker, ← ho]
      exact r.tracker.find?_restrict _ p
    by_cases hp : p ∈ Assignment.partitions final
    · exact .inl (by rw [hfind, if_pos hp])
    · -- the sweep goes through all that is tracked and not assigned any more
      have hcontains : r.tracker.contains p = true := by simp [Tracker.contains, ho]
      have hdropped : p ∈ (C.sweepAt r final (C.hear base a s.own).own).visited := by
        rw [Conduct.sweepAt_visited hC.handler]
        exact (r.mem_dropped final p).2 ⟨hcontains, hp⟩
      obtain ⟨before, after, hclears⟩ := r.clears_of_mem hdropped
      refine .inr ⟨r, timeout, turn, hs.reader, hcontains, hask, ?_,
        s.feed.polled timeout :: ((C.hear base a s.own).calls ++ before),
        after ++ [s.feed.applied (C.relayTo (C.hear base a s.own) r).left.assignment], ?_⟩
      · rw [Tracker.contains, hfind, if_neg hp]
        rfl
      · rw [hdeeds]
        show s.deeds ++ s.feed.polled timeout ::
          (((C.hear base a s.own).calls ++ r.clears _) ++ _) = _
        rw [hclears]
        simp only [List.append_assoc, List.cons_append]

/-- **A move keeps the source ahead of the reader.** -/
theorem ahead_after (hC : C.Ordinary) (hs : s.Stands serial base r) (h : Ahead r.tracker w)
    (hyields : s.Yields C.environment serial w move w') :
    Ahead ((s.after C.environment serial move).tracker serial) w' := by
  cases hyields with
  | idle hask =>
    rw [(tracker_after_idle hC hs hask).1, tracker_of_reader? hs.reader]
    exact h
  | @poll timeout turn w₁ _ hask htakes hgives =>
    obtain ⟨hkept, hrecord⟩ := (ahead_polled (hC.copes base r) hs h htakes timeout).given hgives
    rw [tracker_after hC hs hask]
    rcases completionsOf_cases C.environment hask with hnone | ⟨m, hm, herror, hone⟩
    · rw [hnone]
      exact hkept
    · rw [hone]
      exact (hrecord m hm herror).2

theorem movesOn_idle (hC : C.Ordinary) (hs : s.Stands serial base r)
    (hask : s.asks serial move = none) : s.MovesOn C.environment serial move := by
  obtain ⟨htracker, hnone⟩ := tracker_after_idle hC hs hask
  refine ⟨fun timeout turn m hask' => ?_, fun p o hcompletes => ?_, fun p o ho => .inl ?_⟩
  · rw [hask] at hask'
    cases hask'
  · rw [Completes, hnone] at hcompletes
    cases hcompletes
  · rw [htracker, ho]

/-- It is enough that what a poll delivers lies beyond what is tracked when it
    returns. -/
theorem movesOn_poll (hC : C.Ordinary) (hs : s.Stands serial base r)
    (hask : s.asks serial move = some (timeout, turn))
    (hbeyond : ∀ m, ((poll C.environment timeout turn).run s).1 = .ok (some m) → m.error = none →
      ∀ o, (((poll C.environment timeout turn).run s).2.tracker serial).find? m.partition = some o →
        Before o m.offset) :
    s.MovesOn C.environment serial move := by
  have hkept : ∀ p o, (s.tracker serial).find? p = some o → _ := fun p o ho =>
    kept_or_cleared (hC.copes base r) hs hask (by rwa [tracker_of_reader? hs.reader] at ho)
  have htracker := tracker_after hC hs hask
  have hcases := completionsOf_cases C.environment hask
  refine ⟨fun timeout' turn' m hask' => ?_, fun p o hcompletes => ?_, fun p o ho => ?_⟩
  · rw [hask] at hask'
    obtain ⟨rfl, rfl⟩ := Prod.mk.inj (Option.some.inj hask')
    exact hbeyond m
  -- what is completed is the record that was delivered
  · rcases hcases with hnone | ⟨m, hm, herror, hone⟩
    · rw [Completes, hnone] at hcompletes
      cases hcompletes
    · rw [hone] at htracker
      rw [Completes, hone, List.mem_singleton] at hcompletes
      refine ⟨?_, fun o₀ ho₀ => ?_⟩
      · rw [htracker]
        exact (Happening.find?_track _ _ p o).2 (.inl hcompletes.symm)
      · obtain ⟨rfl, rfl⟩ := Happening.completed.inj hcompletes
        exact (hkept _ o₀ ho₀).imp_left (hbeyond m hm herror o₀)
  -- of any other partition nothing but the rebalance can have changed anything
  · rcases hcases with hnone | ⟨m, hm, herror, hone⟩
    · rw [htracker, hnone]
      exact (hkept p o ho).imp_right .inr
    · by_cases hp : m.partition = p
      · refine .inr (.inl ⟨m.offset, ?_⟩)
        rw [Completes, hone, hp]
        exact List.mem_singleton_self _
      · rw [htracker, hone]
        rcases hkept p o ho with hsame | hclears
        · exact .inl ((Happening.find?_track _ (.completed m.partition m.offset) p o).2
            (.inr ⟨hsame, hp⟩))
        · exact .inr (.inr hclears)

/-- **A move never reads anything again.** -/
theorem movesOn (hC : C.Ordinary) (hs : s.Stands serial base r) (h : Ahead r.tracker w)
    (hyields : s.Yields C.environment serial w move w') :
    s.MovesOn C.environment serial move := by
  cases hyields with
  | idle hask => exact movesOn_idle hC hs hask
  | @poll timeout turn w₁ _ hask htakes hgives =>
    have hrecord := ((ahead_polled (hC.copes base r) hs h htakes timeout).given hgives).2
    exact movesOn_poll hC hs hask fun m hm herror => (hrecord m hm herror).1

end

/-! ## §5. Runs. -/

/-- What a run of moves does that never reads anything again. -/
structure NeverRereads (E : Environment R) (serial : Nat) (s : Session R) (moves : List (Move R)) :
    Prop where
  /-- None of its moves does. -/
  each : ∀ before move after, moves = before ++ move :: after →
    (s.afterAll E serial before).MovesOn E serial move
  /-- Of two messages of a partition, the one that is completed later lies
      beyond the other, unless the partition is cleared in between. -/
  apart : ∀ before first between second after,
    moves = before ++ first :: (between ++ second :: after) → ∀ p o o',
    (s.afterAll E serial before).Completes E serial first p o →
    (s.afterAll E serial (before ++ first :: between)).Completes E serial second p o' →
    Before o o' ∨ ∃ xs move ys, between ++ [second] = xs ++ move :: ys ∧
      (s.afterAll E serial (before ++ first :: xs)).Clears E serial move p

theorem afterAll_append (E : Environment R) (serial : Nat) (s : Session R)
    (moves more : List (Move R)) :
    s.afterAll E serial (moves ++ more) = (s.afterAll E serial moves).afterAll E serial more :=
  List.foldl_append

section

variable {C : Conduct R} {base : Listener} {serial : Nat} {s : Session R} {p : Partition}
  {o : Option Offset}

/-- A reader stands on a source that is ahead of it and honours what is still
    to come. -/
def Reading (C : Conduct R) (serial : Nat) (base : Listener) (s : Session R)
    (moves : List (Move R)) : Prop :=
  ∃ r w, s.Stands serial base r ∧ Ahead r.tracker w ∧ Honoured C.environment serial s w moves

theorem Reading.after (hC : C.Ordinary) {move : Move R} {rest : List (Move R)}
    (h : Reading C serial base s (move :: rest)) :
    s.MovesOn C.environment serial move ∧
      Reading C serial base (s.after C.environment serial move) rest := by
  obtain ⟨r, w, hs, hahead, hrun⟩ := h
  cases hrun with
  | move hyields hrest =>
    obtain ⟨r', hs', -⟩ := stands_after hC hs move
    have hahead' := ahead_after hC hs hahead hyields
    rw [tracker_of_reader? hs'.reader] at hahead'
    exact ⟨movesOn hC hs hahead hyields, r', _, hs', hahead', hrest⟩

theorem Reading.afterAll (hC : C.Ordinary) {moves rest : List (Move R)}
    (h : Reading C serial base s (moves ++ rest)) :
    Reading C serial base (s.afterAll C.environment serial moves) rest := by
  -- the induction is on the moves that were made
  induction moves generalizing s with
  | nil => exact h
  | cons move more ih => exact ih (h.after hC).2

/-- **What is tracked stays tracked**, there or further on, until it is
    cleared. -/
theorem Reading.tracked (hC : C.Ordinary) {moves rest : List (Move R)}
    (h : Reading C serial base s (moves ++ rest)) (ho : (s.tracker serial).find? p = some o) :
    (∃ o', ((s.afterAll C.environment serial moves).tracker serial).find? p = some o' ∧
        (o' = o ∨ Before o o')) ∨
      ∃ xs move ys, moves = xs ++ move :: ys ∧
        (s.afterAll C.environment serial xs).Clears C.environment serial move p := by
  induction moves generalizing s o with
  | nil => exact .inl ⟨o, ho, .inl rfl⟩
  | cons move more ih =>
    obtain ⟨hmove, hrest⟩ := h.after hC
    -- the other moves take it from where it is after the first one
    have hlater : ∀ o₁, ((s.after C.environment serial move).tracker serial).find? p = some o₁ →
        (o₁ = o ∨ Before o o₁) →
        (∃ o', ((s.afterAll C.environment serial (move :: more)).tracker serial).find? p =
            some o' ∧ (o' = o ∨ Before o o')) ∨
          ∃ xs v ys, move :: more = xs ++ v :: ys ∧
            (s.afterAll C.environment serial xs).Clears C.environment serial v p := by
      intro o₁ ho₁ hle
      rcases ih hrest ho₁ with ⟨o', ho', hle'⟩ | ⟨xs, v, ys, rfl, hclears⟩
      · refine .inl ⟨o', ho', ?_⟩
        rcases hle' with rfl | hle'
        · exact hle
        · rcases hle with rfl | hle
          · exact .inr hle'
          · exact .inr (hle.trans hle')
      · exact .inr ⟨move :: xs, v, ys, rfl, hclears⟩
    rcases hmove.stays p o ho with hsame | ⟨o', hcompletes⟩ | hclears
    · exact hlater o hsame (.inl rfl)
    · obtain ⟨ho', hbefore⟩ := hmove.completed p o' hcompletes
      rcases hbefore o ho with hlt | hclears
      · exact hlater o' ho' (.inr hlt)
      · exact .inr ⟨[], move, more, rfl, hclears⟩
    · exact .inr ⟨[], move, more, rfl, hclears⟩

/-- Two messages of a partition, completed one after the other. -/
theorem Reading.apart (hC : C.Ordinary) {first second : Move R} {between rest : List (Move R)}
    {o' : Option Offset} (h : Reading C serial base s (first :: (between ++ second :: rest)))
    (hfirst : s.Completes C.environment serial first p o)
    (hsecond : (s.afterAll C.environment serial (first :: between)).Completes C.environment serial
      second p o') :
    Before o o' ∨ ∃ xs move ys, between ++ [second] = xs ++ move :: ys ∧
      (s.afterAll C.environment serial (first :: xs)).Clears C.environment serial move p := by
  obtain ⟨hmove, hrest⟩ := h.after hC
  have ho := (hmove.completed p o hfirst).1
  rcases hrest.tracked hC ho with ⟨o₁, ho₁, hle⟩ | ⟨xs, move, ys, rfl, hclears⟩
  · obtain ⟨hlast, -⟩ := (hrest.afterAll hC).after hC
    rcases (hlast.completed p o' hsecond).2 o₁ ho₁ with hlt | hclears
    · refine .inl ?_
      rcases hle with rfl | hle
      · exact hlt
      · exact hle.trans hlt
    -- the second message comes with the poll that clears the partition
    · exact .inr ⟨between, second, [], rfl, hclears⟩
  · exact .inr ⟨xs, move, ys ++ [second], by simp, hclears⟩

end

/-- **What was read is not read again.**  A reader is opened above a listener
    that is no reader's; handlers and that listener fail in ordinary ways only,
    if they fail, and decoders in any way.  In every run on a source that
    honours assignments and moves on, records are delivered beyond what is
    tracked of their partition.  So what is tracked only ever increases, and
    nothing is completed twice unless the partition is cleared in between. -/
theorem never_read_again {C : Conduct R} {s : Session R} (hC : C.Ordinary)
    (hbase : s.installed.serial? = none) (name : String) (timeout : Option Timeout) {w : Floors}
    (hw : ∀ p, 0 ≤ w p) {moves : List (Move R)}
    (hrun : Honoured C.environment s.readers.length (s.opened name timeout) w moves) :
    NeverRereads C.environment s.readers.length (s.opened name timeout) moves := by
  have hempty : Ahead (newReader name timeout s.installed : Reader R).tracker w :=
    ⟨hw, fun p o ho => by cases ho⟩
  have hreading : Reading C s.readers.length s.installed (s.opened name timeout) moves :=
    ⟨_, w, stands_opened hbase name timeout, hempty, hrun⟩
  refine ⟨?_, ?_⟩
  · rintro before move after rfl
    exact ((hreading.afterAll hC).after hC).1
  · rintro before first between second after rfl p o o' hfirst hsecond
    rw [afterAll_append] at hsecond
    have hapart := (hreading.afterAll hC).apart hC hfirst hsecond
    simpa only [afterAll_append] using hapart

end Session

/-! ## §6. A run with a listener that always fails. -/

namespace Sample

/-- A poll that comes with a partition of the topic `"t"`, proposed to be read
    from some offset. -/
def proposal (index : Int) (offset : Option Offset) : Turn :=
  { Turn.idle with assign := some [⟨partition index, offset⟩] }

/-- A partition is assigned and a message of it completed; it is assigned anew,
    to be read from the start, and another message is completed. -/
def resuming : List (Move roles) :=
  [.process none (proposal 0 none), .process none (delivery 0 3),
    .process none (proposal 0 (some 0)), .process none (delivery 0 4)]

/-- The first partition is read from here on. -/
def floors (o : Offset) : Floors := fun p => if p = partition 0 then o else 0

theorem honours_floors {o : Offset} (ho : 0 ≤ o) (offset : Option Offset)
    (hle : ∀ o', offset = some o' → o' ≤ o) :
    Floors.Honours [⟨partition 0, offset⟩] (floors o) := by
  refine ⟨fun p => ?_, fun p hp => ⟨_, List.mem_singleton_self _, ?_, fun o' ho' _ => ?_⟩⟩
  · unfold floors
    split
    · exact ho
    · exact Int.le_refl 0
  · exact (List.mem_singleton.1 hp).symm
  · rw [List.mem_singleton.1 hp, floors, if_pos rfl]
    exact hle o' ho'

/-- The source honours what the reader leaves, though every poll that comes
    with an assignment fails. -/
theorem honoured_resuming :
    Session.Honoured conduct.environment 0 (audited.opened "p" none) (floors 0) resuming := by
  refine .move (.poll rfl (.honoured (honours_floors (Int.le_refl 0) none ?_)) (.failed _)) ?_
  · intro o' ho'
    cases ho'
  refine .move (.poll rfl .nothing (.record rfl rfl (by decide))) ?_
  -- the reader has moved the entry to behind the message
  refine .move (.poll rfl (.honoured (honours_floors (o := 4) (by decide) (some 4) ?_))
    (.failed _)) ?_
  · intro o' ho'
    cases ho'
    exact Int.le_refl 4
  exact .move (.poll rfl .nothing (.record rfl rfl (by decide))) .done

end Sample

/-- Nothing is read again in that run. -/
theorem never_read_again_of_sample :
    Session.NeverRereads Sample.conduct.environment Sample.audited.readers.length
      (Sample.audited.opened "p" none) Sample.resuming :=
  Session.never_read_again (s := Sample.audited) Sample.conduct_ordinary rfl "p" none
    (Sample.honours_floors (Int.le_refl 0) none fun _ h => by cases h).start
    Sample.honoured_resuming

example : (((Sample.audited.opened "p" none).afterAll Sample.conduct.environment 0
    Sample.resuming).tracker 0).get? (Sample.partition 0) = some 4 := by rfl

end ChangeFeed
