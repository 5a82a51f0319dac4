/-
  ChangeFeed.Proofs.Relay — an assignment passed up a chain of listeners.

  What telling a chain comes to is said without the chain: the listener at
  its end hears the assignment, and then every open reader, in the order of
  their opening, takes over what was left.  A `Relayed` is what is known at
  any point of that: what has been left so far, which calls were made and
  what the users have of their own.

  Main results:
    * `notify_spine` — telling a spine of listeners, in closed form.
    * `notify_single` — the same of one reader above a foreign listener.
    * `Conduct.relay_ordinary` — failures of the ordinary kind stay ordinary,
      so that no reader is kept from its turn.
-/

import ChangeFeed.Proofs.Stack
import Mathlib.Tactic.Set

namespace ChangeFeed

variable {R : Roles}

/-! ## §1. Passing an assignment on. -/

/-- What telling listeners of an assignment has come to. -/
structure Relayed (R : Roles) where
  left : Notified
  calls : List Occurrence
  own : Own R

/-- Nothing has happened that a reader does not cope with. -/
def Relayed.Ordinary (h : Relayed R) : Prop :=
  ∀ f, h.left.failure = some f → f.isOrdinary = true

/-- The calls that telling the listener at the end of a chain comes to. -/
def Listener.calls (base : Listener) (a : Assignment) : List Occurrence :=
  match base with
  | .foreign name => [.notify name a]
  | _ => []

namespace Conduct

/-- The listener that the first reader found installed is told. -/
def hear (C : Conduct R) (base : Listener) (a : Assignment) (o : Own R) : Relayed R :=
  match base with
  | .foreign name =>
    ⟨(C.onAssignment name a o).1, base.calls a, (C.onAssignment name a o).2⟩
  | _ => ⟨⟨a, none⟩, base.calls a, o⟩

/-- A reader takes over what was left so far. -/
def relayTo (C : Conduct R) (h : Relayed R) (r : Reader R) : Relayed R :=
  let w := C.sweepAt r h.left.assignment h.own
  ⟨⟨r.tracker.resume h.left.assignment, w.failure h.left.failure⟩,
    h.calls ++ r.clears w.visited, w.own⟩

/-- Readers take over one after the other. -/
def relay (C : Conduct R) (h : Relayed R) (rs : List (Reader R)) : Relayed R :=
  rs.foldl C.relayTo h

variable {C : Conduct R}

theorem hear_calls (base : Listener) (a : Assignment) (o : Own R) :
    (C.hear base a o).calls = base.calls a := by
  cases base <;> rfl

theorem relay_cons (h : Relayed R) (r : Reader R) (rs : List (Reader R)) :
    C.relay h (r :: rs) = C.relay (C.relayTo h r) rs := rfl

theorem relay_concat (h : Relayed R) (rs : List (Reader R)) (r : Reader R) :
    C.relay h (rs ++ [r]) = C.relayTo (C.relay h rs) r := by
  unfold relay
  rw [List.foldl_append]
  rfl

/-- The partitions of an assignment stay what the first listener left. -/
theorem partitions_relay (h : Relayed R) (rs : List (Reader R)) :
    Assignment.partitions (C.relay h rs).left.assignment =
      Assignment.partitions h.left.assignment := by
  induction rs generalizing h with
  | nil => rfl
  | cons r rest ih =>
    rw [relay_cons, ih]
    exact r.tracker.partitions_resume h.left.assignment

/-! ## §2. Failures of the ordinary kind. -/

theorem hear_ordinary (hC : C.Ordinary) (base : Listener) (a : Assignment) (o : Own R) :
    (C.hear base a o).Ordinary := by
  intro f hf
  cases base with
  | foreign name => exact hC.assignment name a o f hf
  | nobody => cases hf
  | reader serial below => cases hf

/-- What a reader makes of refusals is an ordinary failure. -/
theorem rebalanceFailure_ordinary {below : Option Raised} {refusals : List Refusal} {f : Raised}
    (hbelow : ∀ e, below = some e → e.isOrdinary = true)
    (hf : rebalanceFailure below refusals = some f) : f.isOrdinary = true := by
  cases refusals with
  | nil => exact hbelow f hf
  | cons first rest =>
    simp only [rebalanceFailure] at hf
    split at hf <;> (obtain rfl := Option.some.inj hf; rfl)

theorem sweepAt_visited {r : Reader R} (hr : C.OrdinaryAt r.onEvent) (a : Assignment)
    (o : Own R) : (C.sweepAt r a o).visited = r.dropped a :=
  (C.sweep_of_ordinary hr (r.dropped a) o).1

theorem sweepAt_failure {r : Reader R} (hr : C.OrdinaryAt r.onEvent) (a : Assignment)
    (o : Own R) (below : Option Raised) :
    (C.sweepAt r a o).failure below = rebalanceFailure below (C.sweepAt r a o).refusals := by
  have hstopped : (C.sweepAt r a o).stopped = none :=
    (C.sweep_of_ordinary hr (r.dropped a) o).2
  rw [Swept.failure, hstopped]

theorem relayTo_ordinary (hC : C.Ordinary) {h : Relayed R} (hh : h.Ordinary) (r : Reader R) :
    (C.relayTo h r).Ordinary := by
  intro f hf
  have hfailure : rebalanceFailure h.left.failure
      (C.sweepAt r h.left.assignment h.own).refusals = some f := by
    rw [← sweepAt_failure (hC.ordinaryAt r.onEvent)]
    exact hf
  exact rebalanceFailure_ordinary hh hfailure

/-- The reader copes with whatever its handler and the listener below it fail
    with. -/
structure Copes (C : Conduct R) (base : Listener) (r : Reader R) : Prop where
  listener : ∀ a o, (C.hear base a o).Ordinary
  handler : C.OrdinaryAt r.onEvent

theorem Ordinary.copes (hC : C.Ordinary) (base : Listener) (r : Reader R) : C.Copes base r :=
  ⟨hear_ordinary hC base, hC.ordinaryAt r.onEvent⟩

theorem relay_ordinary (hC : C.Ordinary) {h : Relayed R} (hh : h.Ordinary)
    (rs : List (Reader R)) : (C.relay h rs).Ordinary := by
  induction rs generalizing h with
  | nil => exact hh
  | cons r rest ih => exact ih (relayTo_ordinary hC hh r)

end Conduct

namespace Session

/-! ## §3. Trackers restricted, up to some serial. -/

/-- The session in which the open ones among the first `n` readers track only
    some partitions any more. -/
def restrictBelow (s : Session R) (n : Nat) (kept : List Partition) : Session R :=
  { s with
    readers := s.readers.mapIdx fun i r => if i < n ∧ r.closed = false then r.restrict kept else r }

theorem reader?_restrictBelow (s : Session R) (n i : Nat) (kept : List Partition) :
    (s.restrictBelow n kept).reader? i =
      (s.reader? i).map fun r => if i < n ∧ r.closed = false then r.restrict kept else r := by
  simp [reader?, restrictBelow]

/-- A session that is the same but for its readers is restricted like that if
    each of its readers is. -/
theorem eq_restrictBelow {s t : Session R} {n : Nat} {kept : List Partition}
    (hrest : t = { s with readers := t.readers })
    (h : ∀ i, t.reader? i =
      (s.reader? i).map fun r => if i < n ∧ r.closed = false then r.restrict kept else r) :
    t = s.restrictBelow n kept := by
  have hreaders : t.readers = (s.restrictBelow n kept).readers := by
    refine List.ext_getElem? fun i => ?_
    show t.reader? i = (s.restrictBelow n kept).reader? i
    rw [h, reader?_restrictBelow]
  rw [hrest, hreaders]
  rfl

/-- Closed readers track what they tracked. -/
theorem restrictBelow_of_closed {s : Session R} {m n : Nat} (hle : m ≤ n)
    (hclosed : ∀ j, m ≤ j → j < n → s.isClosed j = true) (kept : List Partition) :
    s.restrictBelow n kept = s.restrictBelow m kept := by
  refine eq_restrictBelow rfl fun i => ?_
  rw [reader?_restrictBelow]
  cases hr : s.reader? i with
  | none => rfl
  | some r =>
    refine congrArg some ?_
    -- only a reader between the two bounds could make a difference
    by_cases hm : i < m
    · have hn : i < n := by omega
      simp [hm, hn]
    · by_cases hn : i < n
      · have hrc : r.closed = true := by
          rw [← isClosed_of_reader? hr]
          exact hclosed i (by omega) hn
        simp [hrc]
      · simp [hm, hn]

theorem restrictBelow_zero (s : Session R) (kept : List Partition) :
    s.restrictBelow 0 kept = s := by
  refine (eq_restrictBelow rfl fun i => ?_).symm
  cases s.reader? i <;> simp

/-- An open reader is the last one whose tracker is restricted. -/
theorem restrictBelow_succ {s : Session R} {i : Nat} {r : Reader R}
    (hr : s.reader? i = some r) (hopen : r.closed = false) (kept : List Partition) :
    s.restrictBelow (i + 1) kept = (s.restrictBelow i kept).putReader i (r.restrict kept) := by
  have hi : (s.restrictBelow i kept).reader? i = some r := by
    simp [reader?_restrictBelow, hr]
  refine (eq_restrictBelow rfl fun j => ?_).symm
  by_cases hj : i = j
  · subst hj
    rw [reader?_putReader_self hi, hr]
    simp [hopen]
  · rw [reader?_putReader_of_ne hj, reader?_restrictBelow]
    have hlt : j < i ↔ j < i + 1 := by omega
    simp only [hlt]

/-! ## §4. Telling listeners. -/

/-- A rebalance as the source delivers it: its listener is told. -/
def rebalance (E : Environment R) (s : Session R) (a : Assignment) : Notified × Session R :=
  (notify E s.installed a).run s

/-- The listener at the end of a chain is told. -/
theorem notify_base_run (C : Conduct R) {base : Listener} (hbase : base.serial? = none)
    (a : Assignment) (s : Session R) :
    ((notify C.environment base a).run s).1 = (C.hear base a s.own).left ∧
      ((notify C.environment base a).run s).2.withoutLog =
        s.withoutLog.advance (C.hear base a s.own).calls (C.hear base a s.own).own := by
  cases base with
  | nobody =>
    refine ⟨rfl, ?_⟩
    show s.withoutLog = _
    exact (advance_nil s.withoutLog).symm
  | foreign name =>
    refine ⟨rfl, ?_⟩
    show ((s.enter (.notify name a)).advance [] _).withoutLog = _
    rw [withoutLog_advance, withoutLog_enter _ rfl, enter_eq_advance, advance_advance]
    rfl
  | reader serial below => cases hbase

/-- The session when it has been logged that the listener below failed, if it
    did. -/
def warned (s : Session R) (failure : Option Raised) : Session R :=
  match failure with
  | none => s
  | some f =>
    s.enterLog (.plain .warning readerLogger "Chained assignment listener failed" (some f))

@[simp] theorem withoutLog_warned (s : Session R) (failure : Option Raised) :
    (s.warned failure).withoutLog = s.withoutLog := by
  cases failure with
  | none => rfl
  | some f => exact withoutLog_enterLog s _

/-- A reader's listener, when the one below it failed in an ordinary way or
    not at all: but for a log entry, the reader takes over if it is open. -/
theorem notify_reader_run (E : Environment R) (serial : Nat) {below : Listener} {a : Assignment}
    {s : Session R} {heard : Notified × Session R} (hheard : (notify E below a).run s = heard)
    (hleft : ∀ f, heard.1.failure = some f → f.isOrdinary = true) :
    (notify E (.reader serial below) a).run s =
      if (heard.2.warned heard.1.failure).isClosed serial then
        (heard.1, heard.2.warned heard.1.failure)
      else (takeOver E serial heard.1).run (heard.2.warned heard.1.failure) := by
  simp only [notify, run_bind_state, hheard]
  obtain ⟨left, s₀⟩ := heard
  -- it is looked up whether the reader is open when the listener below is done
  have hturn : ∀ s₁ : Session R, StateT.run
      (if s₁.isClosed serial then pure left else takeOver E serial left) s₁ =
        if s₁.isClosed serial then (left, s₁) else (takeOver E serial left).run s₁ := fun s₁ => by
    rw [run_ite_state]
    rfl
  simp only at hleft ⊢
  cases hf : left.failure with
  | none => exact hturn s₀
  | some f =>
    -- a failure that is not ordinary would have ended it all here
    have hord : f.isOrdinary = true := hleft f hf
    simp only [hord, if_true, run_bind_state, run_get_state, run_log_state]
    exact hturn _

section

variable {C : Conduct R} {serial : Nat} {below : Listener} {a : Assignment} {s b : Session R}
  {r : Reader R} {h : Relayed R}

/-- A reader is told by whoever is above it, when it is known what telling the
    listener below it comes to. -/
theorem notify_above_run (hh : h.Ordinary)
    (hresult : ((notify C.environment below a).run s).1 = h.left)
    (hstate : ((notify C.environment below a).run s).2.withoutLog = b.advance h.calls h.own) :
    ∃ s₁ : Session R, s₁.withoutLog = b.advance h.calls h.own ∧
      (notify C.environment (.reader serial below) a).run s =
        if s₁.isClosed serial then (h.left, s₁)
        else (takeOver C.environment serial h.left).run s₁ := by
  have hleft : ∀ f, ((notify C.environment below a).run s).1.failure = some f →
      f.isOrdinary = true := by
    rw [hresult]
    exact hh
  have hrun := notify_reader_run C.environment serial rfl hleft
  rw [hresult] at hrun
  exact ⟨_, (withoutLog_warned _ _).trans hstate, hrun⟩

/-- An open reader takes over what telling the listener below it came to. -/
theorem notify_open_run (hhandler : C.OrdinaryAt r.onEvent) (hh : h.Ordinary)
    (hresult : ((notify C.environment below a).run s).1 = h.left)
    (hstate : ((notify C.environment below a).run s).2.withoutLog = b.advance h.calls h.own)
    (hr : b.reader? serial = some r) (hopen : r.closed = false) :
    ((notify C.environment (.reader serial below) a).run s).1 = (C.relayTo h r).left ∧
      ((notify C.environment (.reader serial below) a).run s).2.withoutLog =
        (b.putReader serial (r.restrict (Assignment.partitions h.left.assignment))).advance
          (C.relayTo h r).calls (C.relayTo h r).own := by
  obtain ⟨s₁, hs₁, hrun⟩ := notify_above_run hh hresult hstate
  have hr₁ : s₁.reader? serial = some r := (reader?_of_withoutLog hs₁ serial).trans hr
  have ho₁ : s₁.own = h.own := own_of_withoutLog hs₁
  -- no failure ends the sweep early, so all of what is dropped is given up
  have hrid : r.rid (C.sweepAt r h.left.assignment h.own).visited =
      r.restrict (Assignment.partitions h.left.assignment) := by
    rw [Conduct.sweepAt_visited hhandler, Reader.rid_dropped]
  obtain ⟨htaken, htakenState⟩ := takeOver_run C hr₁ h.left
  rw [ho₁] at htaken htakenState
  rw [hrun, isClosed_of_reader? hr₁, hopen]
  refine ⟨htaken, ?_⟩
  show ((takeOver C.environment serial h.left).run s₁).2.withoutLog = _
  rw [htakenState, hrid, hs₁, putReader_advance, advance_advance]
  rfl

/-- A closed reader is a mere passage. -/
theorem notify_closed_run (hh : h.Ordinary)
    (hresult : ((notify C.environment below a).run s).1 = h.left)
    (hstate : ((notify C.environment below a).run s).2.withoutLog = b.advance h.calls h.own)
    (hclosed : b.isClosed serial = true) :
    ((notify C.environment (.reader serial below) a).run s).1 = h.left ∧
      ((notify C.environment (.reader serial below) a).run s).2.withoutLog =
        b.advance h.calls h.own := by
  obtain ⟨s₁, hs₁, hrun⟩ := notify_above_run hh hresult hstate
  have hclosed₁ : s₁.isClosed serial = true := by
    unfold isClosed
    rw [reader?_of_withoutLog hs₁]
    exact hclosed
  rw [hrun, hclosed₁]
  exact ⟨rfl, hs₁⟩

end

variable {C : Conduct R}

/-- **Telling a spine of listeners comes to telling its base and then every
    open reader in order.** -/
theorem notify_spine (hC : C.Ordinary) {base : Listener} (hbase : base.serial? = none)
    (a : Assignment) {s : Session R} {listener : Listener} {n : Nat}
    (h : Spine s base listener n) :
    ((notify C.environment listener a).run s).1 =
        (C.relay (C.hear base a s.own) (s.openBelow n)).left ∧
      ((notify C.environment listener a).run s).2.withoutLog =
        (s.withoutLog.restrictBelow n
          (Assignment.partitions (C.hear base a s.own).left.assignment)).advance
            (C.relay (C.hear base a s.own) (s.openBelow n)).calls
            (C.relay (C.hear base a s.own) (s.openBelow n)).own := by
  -- the induction is on the spine, from its base up
  induction h with
  | @base n hclosed =>
    have hopen : s.openBelow n = [] := by
      rw [openBelow_of_closed (Nat.zero_le n) fun j _ => hclosed j]
      rfl
    have hrestrict := restrictBelow_of_closed (s := s.withoutLog) (Nat.zero_le n)
      (fun j _ => hclosed j) (Assignment.partitions (C.hear base a s.own).left.assignment)
    rw [hopen, hrestrict, restrictBelow_zero]
    exact notify_base_run C hbase a s
  | @reader i n r hi hr hclosed hbelow ih =>
    obtain ⟨hresult, hstate⟩ := ih
    set heard := C.hear base a s.own with hheard
    set kept := Assignment.partitions heard.left.assignment with hkept
    -- or else this reader would not get its turn
    have hordinary : (C.relay heard (s.openBelow i)).Ordinary :=
      Conduct.relay_ordinary hC (Conduct.hear_ordinary hC base a s.own) _
    -- the reader is as it was, for only those opened before it have been told
    have hr' : (s.withoutLog.restrictBelow i kept).reader? i = some r := by
      rw [reader?_restrictBelow]
      show (s.reader? i).map _ = _
      simp [hr]
    cases hopen : r.closed with
    | true =>
      have hclosed' : ∀ j, i ≤ j → j < n → s.isClosed j = true := fun j hj hlt => by
        rcases Nat.eq_or_lt_of_le hj with rfl | hj
        · rw [isClosed_of_reader? hr, hopen]
        · exact hclosed j hj hlt
      rw [openBelow_of_closed (Nat.le_of_lt hi) hclosed',
        restrictBelow_of_closed (s := s.withoutLog) (Nat.le_of_lt hi) hclosed']
      exact notify_closed_run hordinary hresult hstate (by rw [isClosed_of_reader? hr', hopen])
    | false =>
      -- it is the last open reader below `n`, so the last one to be told
      have hbelow_n : s.openBelow n = s.openBelow i ++ [r] := by
        rw [openBelow_of_closed hi hclosed, openBelow_succ_of_open hr hopen]
      have hrestrict : s.withoutLog.restrictBelow n kept =
          (s.withoutLog.restrictBelow i kept).putReader i (r.restrict kept) := by
        rw [restrictBelow_of_closed (s := s.withoutLog) hi hclosed]
        exact restrictBelow_succ (s := s.withoutLog) hr hopen kept
      have hrun := notify_open_run (hC.ordinaryAt r.onEvent) hordinary hresult hstate hr' hopen
      rw [Conduct.partitions_relay] at hrun
      rw [hbelow_n, Conduct.relay_concat, hrestrict]
      exact hrun

/-- One open reader above a listener that is no reader's. -/
theorem notify_single {base : Listener} {r : Reader R} (hC : C.Copes base r)
    (hbase : base.serial? = none) (a : Assignment) {s : Session R} {serial : Nat}
    (hr : s.reader? serial = some r) (hopen : r.closed = false) :
    ((notify C.environment (.reader serial base) a).run s).1 =
        (C.relayTo (C.hear base a s.own) r).left ∧
      ((notify C.environment (.reader serial base) a).run s).2.withoutLog =
        (s.withoutLog.putReader serial
          (r.restrict (Assignment.partitions (C.hear base a s.own).left.assignment))).advance
            (C.relayTo (C.hear base a s.own) r).calls
            (C.relayTo (C.hear base a s.own) r).own := by
  obtain ⟨hresult, hstate⟩ := notify_base_run C hbase a s
  exact notify_open_run hC.handler (hC.listener a s.own) hresult hstate hr hopen

end Session

end ChangeFeed
