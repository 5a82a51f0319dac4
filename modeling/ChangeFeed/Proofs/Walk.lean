/-
  ChangeFeed.Proofs.Walk — closing a reader of a source that anybody may install
  listeners on.

  When a reader is closed whose listener is installed, what takes its place is
  looked for from the listener that it saved: as long as that belongs to a closed
  reader, the search goes on with the listener that that one saved.  Nothing
  counts its steps.  It ends because what a reader saved was installed before it
  was opened, so that it never belongs to a reader opened later; and that stays so
  although others may install nobody, listeners of their own, or listeners that
  they read off the source at any earlier time.

  Main results:
    * `Genuine.walk` — the search finds the first listener that does not belong to
      a closed reader.
    * `Ordered.walk_le` — it takes no more steps than there are readers opened before.
    * `Ordered.handled` — what anybody may do with a source.
    * `closing_finds_successor` — closing a reader, once and again.
-/

import Mathlib.Logic.Relation
import ChangeFeed.Proofs.Dispatch

namespace ChangeFeed.Session

variable {R : Roles} {s t : Session R} {read : List Listener} {listener found : Listener}
  {n serial : Nat} {r : Reader R}

/-! ## §1. The search. -/

/-- The search from a listener, with the number of readers that it passes.  From
    the listener of a closed reader it goes on with what that reader saved. -/
inductive Walk (s : Session R) : Nat → Listener → Listener → Prop where
  | ends {listener : Listener}
      (hopen : ∀ i, listener.serial? = some i → s.isClosed i = false) :
      Walk s 0 listener listener
  | passes {n i : Nat} {listener found : Listener} {r : Reader R}
      (hi : listener.serial? = some i) (hr : s.reader? i = some r) (hclosed : r.closed = true)
      (hrest : Walk s n r.below found) : Walk s (n + 1) listener found

/-- The search does not end at the listener of a closed reader. -/
theorem Walk.unclosed (h : s.Walk n listener found) :
    ∀ i, found.serial? = some i → s.isClosed i = false := by
  induction h with
  | ends hopen => exact hopen
  | passes _ _ _ _ ih => exact ih

/-- **The search has one end.** -/
theorem Walk.unique {m : Nat} {other : Listener} (h : s.Walk n listener found)
    (h' : s.Walk m listener other) : m = n ∧ other = found := by
  induction h generalizing m with
  | ends hopen =>
    cases h' with
    | ends _ => exact ⟨rfl, rfl⟩
    | passes hi hr hclosed _ =>
      have hfalse := hopen _ hi
      rw [isClosed_of_reader? hr, hclosed] at hfalse
      cases hfalse
  | passes hi hr hclosed _ ih =>
    cases h' with
    | ends hopen =>
      have hfalse := hopen _ hi
      rw [isClosed_of_reader? hr, hclosed] at hfalse
      cases hfalse
    | passes hi' hr' _ hrest' =>
      obtain rfl := Option.some.inj (hi.symm.trans hi')
      obtain rfl := Option.some.inj (hr.symm.trans hr')
      obtain ⟨rfl, rfl⟩ := ih hrest'
      exact ⟨rfl, rfl⟩

/-! ## §2. Listeners that have been installed. -/

/-- The readers that a listener passes through have saved what it goes on with. -/
def Genuine (s : Session R) : Listener → Prop
  | .reader i below => (∃ r, s.reader? i = some r ∧ r.below = below) ∧ s.Genuine below
  | .foreign _ => True
  | .nobody => True

/-- Readers may come and be closed; what they saved is not changed. -/
theorem Genuine.mono (h : s.Genuine listener)
    (hread : ∀ i r, s.reader? i = some r → ∃ r', t.reader? i = some r' ∧ r'.below = r.below) :
    t.Genuine listener := by
  induction listener with
  | nobody => trivial
  | foreign name => trivial
  | reader i below ih =>
    obtain ⟨⟨r, hr, hbelow⟩, hrest⟩ := h
    obtain ⟨r', hr', hbelow'⟩ := hread i r hr
    exact ⟨⟨r', hr', hbelow'.trans hbelow⟩, ih hrest⟩

theorem genuine_of_foreign (h : listener.serial? = none) : s.Genuine listener := by
  cases listener with
  | nobody => trivial
  | foreign name => trivial
  | reader i below => cases h

theorem Genuine.live (h : s.Genuine listener) (closed : Nat → Bool) :
    s.Genuine (listener.live closed) := by
  induction listener with
  | nobody => trivial
  | foreign name => trivial
  | reader i below ih =>
    unfold Listener.live
    split
    · exact ih h.2
    · exact h

/-- **The search finds the first listener of the chain that does not belong to a
    closed reader.** -/
theorem Genuine.walk (h : s.Genuine listener) :
    ∃ n, s.Walk n listener (listener.live s.isClosed) := by
  induction listener with
  | nobody => exact ⟨0, .ends fun i hi => by cases hi⟩
  | foreign name => exact ⟨0, .ends fun i hi => by cases hi⟩
  | reader i below ih =>
    obtain ⟨⟨r, hr, rfl⟩, hrest⟩ := h
    unfold Listener.live
    cases hclosed : s.isClosed i with
    | false =>
      refine ⟨0, .ends fun j hj => ?_⟩
      obtain rfl := Option.some.inj hj
      exact hclosed
    | true =>
      obtain ⟨n, hwalk⟩ := ih hrest
      rw [isClosed_of_reader? hr] at hclosed
      exact ⟨n + 1, .passes rfl hr hclosed hwalk⟩

/-! ## §3. The order of readers. -/

/-- Every listener that is at hand has been installed, and what a reader saved
    belongs to nobody opened later.  `read` are the listeners that were read off
    the source. -/
structure Ordered (read : List Listener) (s : Session R) : Prop where
  installed : s.Genuine s.installed
  read : ∀ listener ∈ read, s.Genuine listener
  saved : ∀ i r, s.reader? i = some r → s.Genuine r.below
  older : ∀ i r, s.reader? i = some r → ∀ j, r.below.serial? = some j → j < i

namespace Ordered

/-- **The search takes no more steps than there are readers opened before.** -/
theorem walk_le (hs : Ordered read s) (h : s.Walk n listener found) {k : Nat}
    (hlt : ∀ j, listener.serial? = some j → j < k) : n ≤ k := by
  induction h generalizing k with
  | ends _ => exact Nat.zero_le k
  | passes hi hr _ _ ih =>
    -- what the reader saved is older still
    have hle := ih (hs.older _ _ hr)
    exact Nat.lt_of_le_of_lt hle (hlt _ hi)

/-- Closing a reader changes nothing for a search among those opened before. -/
theorem walk_markClosed (hs : Ordered read s) (h : s.Walk n listener found)
    (hlt : ∀ j, listener.serial? = some j → j < serial) :
    (s.markClosed serial).Walk n listener found := by
  have hother : ∀ j, j < serial → (s.markClosed serial).reader? j = s.reader? j := by
    intro j hj
    rw [reader?_markClosed, if_neg (Nat.ne_of_gt hj)]
  induction h with
  | ends hopen =>
    refine .ends fun j hj => ?_
    rw [isClosed, hother j (hlt j hj)]
    exact hopen j hj
  | passes hi hr hclosed _ ih =>
    have hlater := hlt _ hi
    refine .passes hi ((hother _ hlater).trans hr) hclosed (ih fun j hj => ?_)
    exact Nat.lt_trans (hs.older _ _ hr j hj) hlater

/-! ## §4. What anybody may do with a source. -/

/-- What readers saved may be added to, and not changed. -/
theorem mono (hs : Ordered read s) (hinstalled : t.Genuine t.installed)
    (hread : ∀ i r, s.reader? i = some r → ∃ r', t.reader? i = some r' ∧ r'.below = r.below)
    (hback : ∀ i r, t.reader? i = some r → ∃ r', s.reader? i = some r' ∧ r'.below = r.below) :
    Ordered read t := by
  refine ⟨hinstalled, fun l hl => (hs.read l hl).mono hread, fun i r hr => ?_, fun i r hr => ?_⟩
  · obtain ⟨r', hr', hbelow⟩ := hback i r hr
    rw [← hbelow]
    exact (hs.saved i r' hr').mono hread
  · obtain ⟨r', hr', hbelow⟩ := hback i r hr
    rw [← hbelow]
    exact hs.older i r' hr'

theorem install (hs : Ordered read s) (h : s.Genuine listener) :
    Ordered read (s.install listener) := by
  have hread : ∀ i r, s.reader? i = some r →
      ∃ r', (s.install listener).reader? i = some r' ∧ r'.below = r.below :=
    fun i r hr => ⟨r, hr, rfl⟩
  exact hs.mono (h.mono hread) hread fun i r hr => ⟨r, hr, rfl⟩

/-- The listener that is installed belongs to a reader that is there. -/
theorem installed_lt (hs : Ordered read s) {j : Nat} (hj : s.installed.serial? = some j) :
    j < s.readers.length := by
  have hgenuine := hs.installed
  cases hinstalled : s.installed with
  | nobody => rw [hinstalled] at hj; cases hj
  | foreign name => rw [hinstalled] at hj; cases hj
  | reader i below =>
    rw [hinstalled] at hj hgenuine
    obtain rfl := Option.some.inj hj
    obtain ⟨⟨r, hr, -⟩, -⟩ := hgenuine
    exact lt_of_reader? hr

theorem opened (hs : Ordered read s) (name : String) (timeout : Option Timeout) :
    Ordered read (s.opened name timeout) := by
  have hnew := reader?_opened s name timeout
  have hread : ∀ i r, s.reader? i = some r →
      ∃ r', (s.opened name timeout).reader? i = some r' ∧ r'.below = r.below := fun i r hr =>
    ⟨r, (reader?_opened_of_lt (lt_of_reader? hr) name timeout).trans hr, rfl⟩
  have hinstalled := hs.installed.mono hread
  -- a reader is one that was there before, or the new one
  have hback : ∀ i r, (s.opened name timeout).reader? i = some r →
      s.reader? i = some r ∨ i = s.readers.length ∧ r.below = s.installed := by
    intro i r hr
    rcases Nat.lt_trichotomy i s.readers.length with hlt | rfl | hgt
    · rw [reader?_opened_of_lt hlt] at hr
      exact .inl hr
    · obtain rfl := Option.some.inj (hnew.symm.trans hr)
      exact .inr ⟨rfl, rfl⟩
    · have hlt := lt_of_reader? hr
      simp only [Session.opened, List.length_append, List.length_singleton] at hlt
      omega
  refine ⟨⟨⟨_, hnew, rfl⟩, hinstalled⟩, fun l hl => (hs.read l hl).mono hread, fun i r hr => ?_,
    fun i r hr j hj => ?_⟩
  · rcases hback i r hr with hr' | ⟨-, hbelow⟩
    · exact (hs.saved i r hr').mono hread
    · rw [hbelow]
      exact hinstalled
  · rcases hback i r hr with hr' | ⟨rfl, hbelow⟩
    · exact hs.older i r hr' j hj
    · rw [hbelow] at hj
      exact hs.installed_lt hj

end Ordered

theorem below_markClosed (s : Session R) (serial : Nat) {i : Nat} (hr : s.reader? i = some r) :
    ∃ r', (s.markClosed serial).reader? i = some r' ∧ r'.below = r.below := by
  rw [reader?_markClosed, hr]
  split
  · exact ⟨_, rfl, rfl⟩
  · exact ⟨_, rfl, rfl⟩

theorem below_of_markClosed {i : Nat} (hr : (s.markClosed serial).reader? i = some r) :
    ∃ r', s.reader? i = some r' ∧ r'.below = r.below := by
  rw [reader?_markClosed] at hr
  split at hr
  · obtain ⟨r', hr', rfl⟩ := Option.map_eq_some_iff.1 hr
    exact ⟨r', hr', rfl⟩
  · exact ⟨r, hr, rfl⟩

theorem Ordered.markClosed (hs : Ordered read s) (serial : Nat) :
    Ordered read (s.markClosed serial) := by
  have hread : ∀ i r, s.reader? i = some r →
      ∃ r', (s.markClosed serial).reader? i = some r' ∧ r'.below = r.below :=
    fun _ _ hr => below_markClosed s serial hr
  exact hs.mono (hs.installed.mono hread) hread fun _ _ hr => below_of_markClosed hr

theorem successor_of_reader? (hr : s.reader? serial = some r) :
    s.successor serial = r.below.live s.isClosed := by
  simp [successor, hr]

/-- Where the search from what a reader saved comes to: it ends after no more steps
    than there are readers opened before, it ends nowhere else, and not at the
    listener of a closed reader. -/
structure Finds (s : Session R) (serial : Nat) (r : Reader R) (found : Listener) : Prop where
  ends : ∃ n, n ≤ serial ∧ s.Walk n r.below found
  only : ∀ n other, s.Walk n r.below other → other = found
  unclosed : ∀ i, found.serial? = some i → s.isClosed i = false

namespace Ordered

/-- **What takes the place of a reader's listener is found by the search.** -/
theorem finds (hs : Ordered read s) (hr : s.reader? serial = some r) :
    s.Finds serial r (s.successor serial) := by
  obtain ⟨n, hwalk⟩ := (hs.saved serial r hr).walk
  rw [← successor_of_reader? hr] at hwalk
  refine ⟨⟨n, hs.walk_le hwalk (hs.older serial r hr), hwalk⟩, fun m other h => ?_,
    hwalk.unclosed⟩
  exact (hwalk.unique h).2

/-- It does not matter that the reader itself counts as closed by then. -/
theorem finds_markClosed (hs : Ordered read s) (hr : s.reader? serial = some r) :
    (s.markClosed serial).Finds serial r (s.successor serial) := by
  obtain ⟨n, hle, hwalk⟩ := (hs.finds hr).ends
  have hmarked := hs.walk_markClosed hwalk (hs.older serial r hr)
  exact ⟨⟨n, hle, hmarked⟩, fun m other h => (hmarked.unique h).2, hmarked.unclosed⟩

theorem successor_markClosed (hs : Ordered read s) (hr : s.reader? serial = some r) :
    (s.markClosed serial).successor serial = s.successor serial := by
  have hr' : (s.markClosed serial).reader? serial = some { r with closed := true } := by
    rw [reader?_markClosed, if_pos rfl, hr]
    rfl
  obtain ⟨n, -, hwalk⟩ := ((hs.markClosed serial).finds hr').ends
  exact (hs.finds_markClosed hr).only n _ hwalk

end Ordered

theorem Genuine.of_readers (h : s.Genuine listener) (hreaders : t.readers = s.readers) :
    t.Genuine listener := by
  refine h.mono fun i r hr => ⟨r, ?_, rfl⟩
  rw [reader?, hreaders]
  exact hr

/-- An open reader of which the listener is not installed is closed. -/
theorem closeReader_of_not_top (hopen : s.isClosed serial = false)
    (htop : s.installed.serial? ≠ some serial) :
    (s.closeReader serial).installed = s.installed ∧
      (s.closeReader serial).readers = (s.markClosed serial).readers := by
  have htop' : ¬ (s.markClosed serial).installed.serial? = some serial := htop
  simp only [closeReader, hopen, Bool.false_eq_true, if_false, if_neg htop']
  exact ⟨installed_enterLog _ _, readers_enterLog _ _⟩

/-- An open reader of which the listener is installed is closed. -/
theorem closeReader_of_top (hopen : s.isClosed serial = false)
    (htop : s.installed.serial? = some serial) :
    s.closeReader serial =
      { s.markClosed serial with installed := (s.markClosed serial).successor serial } := by
  have htop' : (s.markClosed serial).installed.serial? = some serial := htop
  simp only [closeReader, hopen, Bool.false_eq_true, if_false, if_pos htop']

theorem Ordered.genuine_successor (hs : Ordered read s) (serial : Nat) :
    s.Genuine (s.successor serial) := by
  cases hr : s.reader? serial with
  | none =>
    unfold successor
    rw [hr]
    trivial
  | some r =>
    rw [successor_of_reader? hr]
    exact (hs.saved serial r hr).live _

theorem Ordered.closeReader (hs : Ordered read s) (serial : Nat) :
    Ordered read (s.closeReader serial) := by
  cases hopen : s.isClosed serial with
  | true => rwa [closeReader_of_isClosed hopen]
  | false =>
    have hmarked := hs.markClosed serial
    have hreaders := s.readers_closeReader serial
    have hsame : ∀ i, (s.closeReader serial).reader? i = (s.markClosed serial).reader? i :=
      fun i => by rw [reader?, hreaders, reader?]
    -- only the installed listener may be another one
    have hinstalled : (s.markClosed serial).Genuine (s.closeReader serial).installed := by
      by_cases htop : s.installed.serial? = some serial
      · rw [closeReader_of_top hopen htop]
        exact hmarked.genuine_successor serial
      · rw [(closeReader_of_not_top hopen htop).1]
        exact hmarked.installed
    exact hmarked.mono (hinstalled.of_readers hreaders)
      (fun i r hr => ⟨r, (hsame i).trans hr, rfl⟩) fun i r hr => ⟨r, (hsame i).symm.trans hr, rfl⟩

theorem Ordered.of_sameStack (hs : Ordered read s) (hsame : SameStack s t) : Ordered read t := by
  have hread : ∀ {s t : Session R}, SameStack s t → ∀ i r, s.reader? i = some r →
      ∃ r', t.reader? i = some r' ∧ r'.below = r.below := by
    intro s t h i r hr
    obtain ⟨r', hr', hbelow, -⟩ := h.reader? hr
    exact ⟨r', hr', hbelow⟩
  refine hs.mono ?_ (hread hsame) (hread hsame.symm)
  rw [hsame.1]
  exact hs.installed.mono (hread hsame)

/-- Something is done with a source, of which listeners may have been read off
    before: readers are opened and closed on it, its listener is read off, or
    another one is installed: none, one that is no reader's, or one that was read
    off.  Besides, anything may be done that does none of these. -/
inductive Handled : Session R × List Listener → Session R × List Listener → Prop where
  | opened (s : Session R) (read : List Listener) (name : String) (timeout : Option Timeout) :
      Handled (s, read) (s.opened name timeout, read)
  | closed (s : Session R) (read : List Listener) (serial : Nat) :
      Handled (s, read) (s.closeReader serial, read)
  | noted (s : Session R) (read : List Listener) : Handled (s, read) (s, s.installed :: read)
  | emptied (s : Session R) (read : List Listener) : Handled (s, read) (s.install .nobody, read)
  | replaced (s : Session R) (read : List Listener) (name : String) :
      Handled (s, read) (s.install (.foreign name), read)
  | restored (s : Session R) (read : List Listener) {listener : Listener}
      (hread : listener ∈ read) : Handled (s, read) (s.install listener, read)
  | between {s t : Session R} (read : List Listener) (hsame : SameStack s t) :
      Handled (s, read) (t, read)

/-- **Whatever is done with a source, what a reader saved stays older than it.** -/
theorem Ordered.handled {p q : Session R × List Listener} (hs : Ordered p.2 p.1)
    (h : Handled p q) : Ordered q.2 q.1 := by
  cases h with
  | opened s read name timeout => exact hs.opened name timeout
  | closed s read serial => exact hs.closeReader serial
  | noted s read =>
    refine ⟨hs.installed, fun l hl => ?_, hs.saved, hs.older⟩
    rcases List.mem_cons.1 hl with rfl | hl
    · exact hs.installed
    · exact hs.read l hl
  | emptied s read => exact hs.install (genuine_of_foreign rfl)
  | replaced s read name => exact hs.install (genuine_of_foreign rfl)
  | restored s read hread => exact hs.install (hs.read _ hread)
  | between read hsame => exact hs.of_sameStack hsame

theorem Ordered.handled_all {p q : Session R × List Listener} (hs : Ordered p.2 p.1)
    (h : Relation.ReflTransGen Handled p q) : Ordered q.2 q.1 := by
  induction h with
  | refl => exact hs
  | tail _ hstep ih => exact ih.handled hstep

/-- A source without readers, to begin with. -/
theorem ordered_of_fresh (hreaders : s.readers = []) (hforeign : s.installed.serial? = none) :
    Ordered [] s := by
  have hnone : ∀ i, s.reader? i = none := fun i => by rw [reader?, hreaders]; rfl
  refine ⟨genuine_of_foreign hforeign, fun l hl => absurd hl List.not_mem_nil, fun i r hr => ?_,
    fun i r hr => ?_⟩
  · rw [hnone i] at hr
    cases hr
  · rw [hnone i] at hr
    cases hr

/-! ## §5. Closing a reader. -/

/-- A closed reader is never opened again. -/
theorem Handled.isClosed {p q : Session R × List Listener} (h : Handled p q) {i : Nat}
    (hi : p.1.isClosed i = true) : q.1.isClosed i = true := by
  cases h with
  | opened s read name timeout =>
    obtain ⟨r, hr, hclosed⟩ := reader?_of_isClosed hi
    have hr' := (reader?_opened_of_lt (lt_of_reader? hr) name timeout).trans hr
    exact (isClosed_of_reader? hr').trans hclosed
  | closed s read serial => exact isClosed_closeReader.2 (.inl hi)
  | noted s read => exact hi
  | emptied s read => exact hi
  | replaced s read name => exact hi
  | restored s read hread => exact hi
  | between read hsame =>
    obtain ⟨r, hr, hclosed⟩ := reader?_of_isClosed hi
    obtain ⟨r', hr', -, hsame⟩ := hsame.reader? hr
    exact (isClosed_of_reader? hr').trans (hsame.trans hclosed)

theorem isClosed_handled_all {p q : Session R × List Listener}
    (h : Relation.ReflTransGen Handled p q) {i : Nat} (hi : p.1.isClosed i = true) :
    q.1.isClosed i = true := by
  induction h with
  | refl => exact hi
  | tail _ hstep ih => exact hstep.isClosed ih

/-- What becomes of a source when an open reader is closed on it. -/
structure ClosedOnce (s : Session R) (serial : Nat) (r : Reader R) : Prop where
  /-- The reader counts as closed while its successor is looked for. -/
  search : (s.markClosed serial).Finds serial r (s.successor serial)
  /-- Its successor takes its place if it is the one that is installed. -/
  succeeded : s.installed.serial? = some serial →
    (s.closeReader serial).installed = s.successor serial
  /-- If another one is installed, that stays. -/
  changes : (s.closeReader serial).installed ≠ s.installed ↔ s.installed.serial? = some serial
  readers : (s.closeReader serial).readers = (s.markClosed serial).readers
  trackers : ∀ i, (s.closeReader serial).tracker i = s.tracker i

theorem Ordered.closedOnce (hs : Ordered read s) (hr : s.reader? serial = some r)
    (hopen : r.closed = false) : ClosedOnce s serial r := by
  have hopen' : s.isClosed serial = false := (isClosed_of_reader? hr).trans hopen
  have hsearch := hs.finds_markClosed hr
  have hsucceeded : s.installed.serial? = some serial →
      (s.closeReader serial).installed = s.successor serial := by
    intro htop
    rw [closeReader_of_top hopen' htop]
    exact hs.successor_markClosed hr
  refine ⟨hsearch, hsucceeded, ⟨fun hne => ?_, fun htop heq => ?_⟩, s.readers_closeReader serial,
    fun i => ?_⟩
  · by_cases htop : s.installed.serial? = some serial
    · exact htop
    · exact absurd (closeReader_of_not_top hopen' htop).1 hne
  · -- the successor does not belong to a closed reader, and this one is closed by now
    rw [hsucceeded htop] at heq
    have hunclosed := hsearch.unclosed serial (by rw [heq]; exact htop)
    rw [isClosed, reader?_markClosed, if_pos rfl, hr] at hunclosed
    cases hunclosed
  · rw [tracker, reader?, readers_closeReader, ← reader?, reader?_markClosed, tracker]
    split
    · cases s.reader? i <;> rfl
    · rfl

/-- **Closing a reader puts the right listener in its place, once.**  To begin with
    a source has no readers; then readers are opened and closed on it and listeners
    installed in any order, by anybody.  What a reader saved belongs to nobody that
    was opened later, and the search from there ends at the first listener that
    does not belong to a closed reader.  When the reader is closed that listener is
    installed if it is the reader's own that was, and otherwise nothing is; what
    readers track is not changed.  To close it again changes nothing, whatever was
    done in between. -/
theorem closing_finds_successor (hreaders : s.readers = [])
    (hforeign : s.installed.serial? = none)
    (h : Relation.ReflTransGen Handled (s, []) (t, read)) (hr : t.reader? serial = some r) :
    (∀ j, r.below.serial? = some j → j < serial) ∧ t.Finds serial r (t.successor serial) ∧
      (r.closed = false → ClosedOnce t serial r) ∧
      ∀ u read', Relation.ReflTransGen Handled (t.closeReader serial, read) (u, read') →
        u.closeReader serial = u := by
  have ht : Ordered read t := (ordered_of_fresh hreaders hforeign).handled_all h
  refine ⟨ht.older serial r hr, ht.finds hr, ht.closedOnce hr, fun u read' hlater => ?_⟩
  have hclosed : (t.closeReader serial).isClosed serial = true :=
    isClosed_closeReader.2 (.inr ⟨rfl, lt_of_reader? hr⟩)
  exact closeReader_of_isClosed (isClosed_handled_all hlater hclosed)

end ChangeFeed.Session

/-! ## §6. A reader above two closed ones. -/

namespace ChangeFeed

namespace Sample

/-- Two readers `"p"` and `"q"` are opened one above the other, and the listener of
    `"q"` is read off.  Then somebody puts a listener named `"tap"` in its place,
    installs the one that was read off again, and opens `"r"` above it.  In the end
    `"q"` and `"p"` are closed. -/
def swapped : Session roles :=
  let s := (audited.opened "p" none).opened "q" none
  ((((s.install (.foreign "tap")).install s.installed).opened "r" none).closeReader 1).closeReader 0

/-- The listener of `"q"`. -/
def listenerOfQ : Listener := .reader 1 (.reader 0 (.foreign "audit"))

theorem swapped_handled :
    Relation.ReflTransGen Session.Handled (audited, []) (swapped, [listenerOfQ]) := by
  refine .tail (.tail (.tail (.tail (.tail (.tail (.tail (.tail .refl (.opened _ _ "p" none))
    (.opened _ _ "q" none)) (.noted _ _)) (.replaced _ _ "tap")) (.restored _ _ ?_))
    (.opened _ _ "r" none)) (.closed _ _ 1)) (.closed _ _ 0)
  exact List.mem_singleton_self _

end Sample

/-- What `"r"` saved is the listener of `"q"`; the search passes two closed readers,
    and the listener that was there before all of them is installed. -/
theorem closing_finds_successor_of_swapped :
    (Sample.listenerOfQ.serial? = some 1 ∧ 1 < 2) ∧
      Sample.swapped.successor 2 = .foreign "audit" ∧
      Session.ClosedOnce Sample.swapped 2 (Session.newReader "r" none Sample.listenerOfQ) ∧
      ((Sample.swapped.closeReader 2).closeReader 2) = Sample.swapped.closeReader 2 := by
  have hreader : Sample.swapped.reader? 2 =
      some (Session.newReader "r" none Sample.listenerOfQ) := rfl
  obtain ⟨holder, -, honce, hagain⟩ := Session.closing_finds_successor (s := Sample.audited)
    rfl rfl Sample.swapped_handled hreader
  exact ⟨⟨rfl, holder 1 rfl⟩, rfl, honce rfl, hagain _ _ .refl⟩

end ChangeFeed
