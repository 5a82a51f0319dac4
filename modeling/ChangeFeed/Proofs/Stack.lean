/-
  ChangeFeed.Proofs.Stack — readers stacked on one source.

  Each reader keeps the listener that it found installed, so the listeners of
  several readers form a chain.  Readers may be closed in any order; a closed
  one that is not on top stays in the chain as a passage.  What makes the
  chain good for something is that it passes through every open reader, the
  latest first, and through nothing else than closed ones besides: a `Spine`.

  Main results:
    * `Spine.live` — leaving out closed readers on top leaves a spine.
    * `StackOn.upright` — opening and closing readers keeps the installed
      listener, and what every reader saved, spines of the stack.
-/

import ChangeFeed.Proofs.Sweep

namespace ChangeFeed.Session

variable {R : Roles}

/-! ## §1. Stacks. -/

/-- Do two sessions have the same listener installed, and the same readers as
    far as listeners are concerned? -/
def SameStack (s t : Session R) : Prop :=
  t.installed = s.installed ∧
    t.readers.map (fun r => (r.below, r.closed)) = s.readers.map fun r => (r.below, r.closed)

theorem SameStack.symm {s t : Session R} (h : SameStack s t) : SameStack t s :=
  ⟨h.1.symm, h.2.symm⟩

theorem SameStack.length_eq {s t : Session R} (h : SameStack s t) :
    t.readers.length = s.readers.length := by
  simpa using congrArg List.length h.2

theorem SameStack.reader? {s t : Session R} (h : SameStack s t) {i : Nat} {r : Reader R}
    (hr : s.reader? i = some r) :
    ∃ r', t.reader? i = some r' ∧ r'.below = r.below ∧ r'.closed = r.closed := by
  have hget : (t.reader? i).map (fun r => (r.below, r.closed)) = some (r.below, r.closed) := by
    simp only [Session.reader?, ← List.getElem?_map, h.2]
    simp only [List.getElem?_map]
    exact congrArg (Option.map _) hr
  obtain ⟨r', hr', he⟩ := Option.map_eq_some_iff.1 hget
  exact ⟨r', hr', (Prod.ext_iff.1 he).1, (Prod.ext_iff.1 he).2⟩

/-- The sessions that come of opening readers on a source with the listener
    `base`, and closing some of them.  In between anything may be done that
    neither opens nor closes a reader nor installs a listener. -/
inductive StackOn (base : Listener) : Session R → Prop where
  | start {s : Session R} (hbase : base.serial? = none) (hreaders : s.readers = [])
      (hinstalled : s.installed = base) : StackOn base s
  | opened {s : Session R} (name : String) (timeout : Option Timeout) (hs : StackOn base s) :
      StackOn base (s.opened name timeout)
  | closed {s : Session R} (serial : Nat) (hs : StackOn base s) :
      StackOn base (s.closeReader serial)
  | between {s t : Session R} (hs : StackOn base s) (hsame : SameStack s t) : StackOn base t

/-- The readers that are open, in the order in which they were opened. -/
def openReaders (s : Session R) : List (Reader R) := s.readers.filter fun r => !r.closed

/-- The open readers among the first `n`. -/
def openBelow (s : Session R) (n : Nat) : List (Reader R) :=
  (s.readers.take n).filter fun r => !r.closed

theorem openBelow_length (s : Session R) : s.openBelow s.readers.length = s.openReaders := by
  rw [openBelow, List.take_length, openReaders]

theorem isClosed_of_reader? {s : Session R} {i : Nat} {r : Reader R}
    (hr : s.reader? i = some r) : s.isClosed i = r.closed := by
  simp [isClosed, hr]

theorem reader?_of_isClosed {s : Session R} {i : Nat} (h : s.isClosed i = true) :
    ∃ r, s.reader? i = some r ∧ r.closed = true := by
  simpa [isClosed, Option.any_eq_true] using h

theorem openBelow_succ (s : Session R) (n : Nat) :
    s.openBelow (n + 1) = s.openBelow n ++ (s.reader? n).toList.filter fun r => !r.closed := by
  rw [openBelow, List.take_add_one, List.filter_append]
  rfl

theorem openBelow_succ_of_open {s : Session R} {n : Nat} {r : Reader R}
    (hr : s.reader? n = some r) (hopen : r.closed = false) :
    s.openBelow (n + 1) = s.openBelow n ++ [r] := by
  simp [openBelow_succ, hr, hopen]

/-- Closed readers add nothing to those that are open. -/
theorem openBelow_of_closed {s : Session R} {m n : Nat} (hle : m ≤ n)
    (hclosed : ∀ j, m ≤ j → j < n → s.isClosed j = true) : s.openBelow n = s.openBelow m := by
  induction hle with
  | refl => rfl
  | @step n hle ih =>
    obtain ⟨r, hr, hrc⟩ := reader?_of_isClosed (hclosed n hle (Nat.lt_succ_self n))
    rw [openBelow_succ, ih fun j hj hlt => hclosed j hj (Nat.lt_succ_of_lt hlt)]
    simp [hr, hrc]

/-! ## §2. Spines. -/

/-- The listener passes through every open reader below `n`, the latest first,
    and ends at `base`. -/
inductive Spine (s : Session R) (base : Listener) : Listener → Nat → Prop where
  | base {n : Nat} (hclosed : ∀ j, j < n → s.isClosed j = true) : Spine s base base n
  | reader {i n : Nat} {r : Reader R} (hi : i < n) (hr : s.reader? i = some r)
      (hclosed : ∀ j, i < j → j < n → s.isClosed j = true) (hbelow : Spine s base r.below i) :
      Spine s base (.reader i r.below) n

/-- Further readers may come, and readers may be closed. -/
theorem Spine.mono {s t : Session R} {base listener : Listener} {n : Nat}
    (h : Spine s base listener n)
    (hread : ∀ i r, s.reader? i = some r → ∃ r', t.reader? i = some r' ∧ r'.below = r.below)
    (hclosed : ∀ i, s.isClosed i = true → t.isClosed i = true) : Spine t base listener n := by
  induction h with
  | base hc => exact .base fun j hj => hclosed j (hc j hj)
  | reader hi hr hc _ ih =>
    obtain ⟨r', hr', hbelow⟩ := hread _ _ hr
    rw [← hbelow] at ih ⊢
    exact .reader hi hr' (fun j hj hlt => hclosed j (hc j hj hlt)) ih

/-- Only the readers of a session matter. -/
theorem Spine.of_readers {s t : Session R} {base listener : Listener} {n : Nat}
    (h : Spine s base listener n) (hreaders : t.readers = s.readers) :
    Spine t base listener n := by
  have hread : ∀ i, t.reader? i = s.reader? i := fun i => by simp only [reader?, hreaders]
  exact h.mono (fun i r hr => ⟨r, (hread i).trans hr, rfl⟩) fun i hi => by
    rw [isClosed, hread]
    exact hi

/-- Closed readers above do no harm. -/
theorem Spine.extend {s : Session R} {base listener : Listener} {m n : Nat}
    (h : Spine s base listener m) (hle : m ≤ n)
    (hclosed : ∀ j, m ≤ j → j < n → s.isClosed j = true) : Spine s base listener n := by
  cases h with
  | base hc =>
    refine .base fun j hj => ?_
    -- a reader below the new bound is below the old one, or in between
    rcases Nat.lt_or_ge j m with hlt | hge
    · exact hc j hlt
    · exact hclosed j hge hj
  | reader hi hr hc hbelow =>
    refine .reader (Nat.lt_of_lt_of_le hi hle) hr (fun j hj hlt => ?_) hbelow
    rcases Nat.lt_or_ge j m with hlt' | hge
    · exact hc j hj hlt'
    · exact hclosed j hge hlt

/-- **Leaving out closed readers on top leaves a spine.** -/
theorem Spine.live {s : Session R} {base listener : Listener} {n : Nat}
    (hbase : base.serial? = none) (h : Spine s base listener n) :
    Spine s base (listener.live s.isClosed) n := by
  induction h with
  | base hc =>
    -- the base belongs to no reader, so it never counts as closed
    have hlive : base.live s.isClosed = base :=
      Listener.live_of_not_closed fun serial hs => absurd (hbase.symm.trans hs) (by simp)
    rw [hlive]
    exact .base hc
  | @reader i n r hi hr hc hbelow ih =>
    cases hci : s.isClosed i with
    | true =>
      -- it is left out: what it saved now has to span the gap
      simp only [Listener.live, hci, if_true]
      refine ih.extend (Nat.le_of_lt hi) fun j hj hlt => ?_
      rcases Nat.eq_or_lt_of_le hj with rfl | hj
      · exact hci
      · exact hc j hj hlt
    | false =>
      simp only [Listener.live, hci, Bool.false_eq_true, if_false]
      exact .reader hi hr hc hbelow

/-! ## §3. Opening and closing keep the spines. -/

/-- The installed listener passes through every open reader, and so does what
    each reader found installed, through those opened before it. -/
structure Upright (base : Listener) (s : Session R) : Prop where
  foreign : base.serial? = none
  installed : Spine s base s.installed s.readers.length
  saved : ∀ i r, s.reader? i = some r → Spine s base r.below i

theorem reader?_opened_of_lt {s : Session R} {i : Nat} (hi : i < s.readers.length)
    (name : String) (timeout : Option Timeout) :
    (s.opened name timeout).reader? i = s.reader? i :=
  List.getElem?_append_left hi

theorem lt_of_reader? {s : Session R} {i : Nat} {r : Reader R} (hr : s.reader? i = some r) :
    i < s.readers.length := (List.getElem?_eq_some_iff.1 hr).1

/-- A spine stays one when another reader is opened. -/
theorem Spine.opened {s : Session R} {base listener : Listener} {n : Nat}
    (h : Spine s base listener n) (name : String) (timeout : Option Timeout) :
    Spine (s.opened name timeout) base listener n := by
  refine h.mono (fun i r hr => ⟨r, ?_, rfl⟩) fun i hi => ?_
  · rw [reader?_opened_of_lt (lt_of_reader? hr), hr]
  · obtain ⟨r, hr, hrc⟩ := reader?_of_isClosed hi
    rw [isClosed_of_reader? ((reader?_opened_of_lt (lt_of_reader? hr) name timeout).trans hr), hrc]

theorem Upright.opened {base : Listener} {s : Session R} (h : Upright base s) (name : String)
    (timeout : Option Timeout) : Upright base (s.opened name timeout) := by
  have hnew := reader?_opened s name timeout
  have hlength : (s.opened name timeout).readers.length = s.readers.length + 1 := by
    simp [Session.opened]
  refine ⟨h.foreign, ?_, fun i r hr => ?_⟩
  · rw [hlength]
    exact .reader (Nat.lt_succ_self _) hnew (fun j hj hlt => by omega)
      (h.installed.opened name timeout)
  · -- an older reader, the new one, and one that does not exist
    rcases Nat.lt_trichotomy i s.readers.length with hlt | rfl | hgt
    · rw [reader?_opened_of_lt hlt] at hr
      exact (h.saved i r hr).opened name timeout
    · obtain rfl : newReader name timeout s.installed = r := Option.some.inj (hnew.symm.trans hr)
      exact h.installed.opened name timeout
    · have hlt := lt_of_reader? hr
      omega

/-- A spine stays one when a reader is closed. -/
theorem Spine.markClosed {s : Session R} {base listener : Listener} {n : Nat}
    (h : Spine s base listener n) (serial : Nat) :
    Spine (s.markClosed serial) base listener n := by
  refine h.mono (fun i r hr => ?_) fun i hi => ?_
  · rw [reader?_markClosed, hr]
    by_cases hs : serial = i
    · exact ⟨{ r with closed := true }, by simp [hs], rfl⟩
    · exact ⟨r, by simp [hs], rfl⟩
  · obtain ⟨r, hr, hrc⟩ := reader?_of_isClosed hi
    rw [isClosed, reader?_markClosed, hr]
    by_cases hs : serial = i <;> simp [hs, hrc]

theorem Spine.of_sameStack {s t : Session R} {base listener : Listener} {n : Nat}
    (h : Spine s base listener n) (hsame : SameStack s t) : Spine t base listener n := by
  refine h.mono (fun i r hr => ?_) fun i hi => ?_
  · obtain ⟨r', hr', hbelow, -⟩ := hsame.reader? hr
    exact ⟨r', hr', hbelow⟩
  · obtain ⟨r, hr, hrc⟩ := reader?_of_isClosed hi
    obtain ⟨r', hr', -, hclosed⟩ := hsame.reader? hr
    rw [isClosed_of_reader? hr', hclosed, hrc]

theorem Upright.of_sameStack {base : Listener} {s t : Session R} (h : Upright base s)
    (hsame : SameStack s t) : Upright base t := by
  refine ⟨h.foreign, ?_, fun i r hr => ?_⟩
  · rw [hsame.1, hsame.length_eq]
    exact h.installed.of_sameStack hsame
  · obtain ⟨r', hr', hbelow, -⟩ := hsame.symm.reader? hr
    rw [← hbelow]
    exact (h.saved i r' hr').of_sameStack hsame

theorem length_markClosed (s : Session R) (serial : Nat) :
    (s.markClosed serial).readers.length = s.readers.length := by
  simp [Session.markClosed, modifyReader]

theorem Upright.markClosed {base : Listener} {s : Session R} (h : Upright base s)
    (serial : Nat) : Upright base (s.markClosed serial) := by
  refine ⟨h.foreign, ?_, fun i r hr => ?_⟩
  · rw [length_markClosed]
    exact h.installed.markClosed serial
  · -- closing changes nothing of what was saved
    have hbelow : ∃ r', s.reader? i = some r' ∧ r'.below = r.below := by
      rw [reader?_markClosed] at hr
      split at hr
      · obtain ⟨r', hr', rfl⟩ := Option.map_eq_some_iff.1 hr
        exact ⟨r', hr', rfl⟩
      · exact ⟨r, hr, rfl⟩
    obtain ⟨r', hr', hbelow⟩ := hbelow
    rw [← hbelow]
    exact (h.saved i r' hr').markClosed serial

/-- What takes the place of the reader on top when that is closed: a listener
    that passes through all the readers that are still open. -/
theorem Upright.spine_successor {base : Listener} {s : Session R} (h : Upright base s)
    {serial : Nat} (htop : s.installed.serial? = some serial) :
    Spine (s.markClosed serial) base ((s.markClosed serial).successor serial)
      s.readers.length := by
  have hspine := h.installed
  generalize hl : s.installed = listener at hspine htop
  cases hspine with
  | base _ => exact absurd (h.foreign.symm.trans htop) (by simp)
  | @reader i _ r hi hr hclosed hbelow =>
    obtain rfl : i = serial := Option.some.inj htop
    have hr' : (s.markClosed i).reader? i = some { r with closed := true } := by
      simp [reader?_markClosed, hr]
    have hsuccessor : (s.markClosed i).successor i =
        r.below.live (s.markClosed i).isClosed := by
      simp [successor, hr']
    rw [hsuccessor]
    -- every reader from the closed one on is closed by now
    refine Spine.live h.foreign ((hbelow.markClosed i).extend (Nat.le_of_lt hi) fun j hj hlt => ?_)
    rcases Nat.eq_or_lt_of_le hj with rfl | hj
    · rw [isClosed_of_reader? hr']
    · obtain ⟨q, hq, hqc⟩ := reader?_of_isClosed (hclosed j hj hlt)
      rw [isClosed, reader?_markClosed, hq]
      simp [Nat.ne_of_lt hj, hqc]

theorem Upright.closeReader {base : Listener} {s : Session R} (h : Upright base s)
    (serial : Nat) : Upright base (s.closeReader serial) := by
  simp only [Session.closeReader]
  split
  · exact h
  · have hmarked := h.markClosed serial
    split
    -- on top it is replaced; further down it stays in the chain
    · next htop =>
      have hspine := h.spine_successor htop
      rw [← length_markClosed s serial] at hspine
      exact ⟨h.foreign, hspine.of_readers rfl, fun i r hr => (hmarked.saved i r hr).of_readers rfl⟩
    · exact hmarked.of_sameStack ⟨installed_enterLog _ _, by rw [readers_enterLog]⟩

/-- **Opening and closing readers keeps every listener a spine.** -/
theorem StackOn.upright {base : Listener} {s : Session R} (h : StackOn base s) :
    Upright base s := by
  -- the induction is on how the stack came about
  induction h with
  | start hbase hreaders hinstalled =>
    refine ⟨hbase, ?_, fun i r hr => ?_⟩
    · rw [hinstalled, hreaders]
      exact .base fun j hj => absurd hj (Nat.not_lt_zero j)
    · have hlt := lt_of_reader? hr
      rw [hreaders] at hlt
      exact absurd hlt (Nat.not_lt_zero i)
  | opened name timeout _ ih => exact ih.opened name timeout
  | closed serial _ ih => exact ih.closeReader serial
  | between _ hsame ih => exact ih.of_sameStack hsame

end ChangeFeed.Session
