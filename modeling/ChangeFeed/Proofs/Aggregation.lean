/-
  ChangeFeed.Proofs.Aggregation — the one failure that a rebalance ends with.

  On its way up a stack of readers a failure is passed on by readers whose
  clear events were all accepted, and taken up by the others: each of these
  raises a failure of its own from it, which names what was named below and
  then what was refused here.  So the failure on top names everything once
  and in order, and its causes lead down level by level.

  Where they lead to in the end is settled by truth values: a failure of user
  code that counts as false is passed over for another one.

  Main results:
    * `leadingFailure_eq` — which refusal stands for several.
    * `rebalanceFailure_cons` — what one level adds.
    * `failure_aggregate`, `ancestor_aggregate` — what several levels come to.
    * `aggregation_over_stack` — the failure of a rebalance on a stack.
-/

import ChangeFeed.Proofs.Dispatch

namespace ChangeFeed

variable {R : Roles}

/-! ## §1. Failures and their causes. -/

namespace Raised

/-- The partitions that a failure names as not cleared, if it names any. -/
def uncleared (e : Raised) : List Partition :=
  match e.failure with
  | .clearsUndelivered ps => ps
  | _ => []

/-- What lies `n` causes behind a failure. -/
def ancestor (e : Raised) : Nat → Option Raised
  | 0 => some e
  | n + 1 => (e.ancestor n).bind cause

end Raised

/-- The partitions named by the failure from below, if there is one. -/
def unclearedBelow (below : Option Raised) : List Partition :=
  (below.map Raised.uncleared).getD []

/-- The refusal that stands for several: the first whose failure counts as
    true, and the last one if none does. -/
def leading (F : List Refusal) : Option Refusal :=
  (F.find? fun r => r.failure.isTruthy).or F.getLast?

theorem leading_of_truthy {first : Refusal} (h : first.failure.isTruthy = true)
    (rest : List Refusal) : leading (first :: rest) = some first := by
  simp [leading, h]

/-- **Which refusal stands for several.**  The induction is on those that
    follow the first. -/
theorem leadingFailure_eq (first : Refusal) (rest : List Refusal) :
    (leading (first :: rest)).map Refusal.failure = some (leadingFailure first rest) := by
  induction rest generalizing first with
  | nil => cases h : first.failure.isTruthy <;> simp [leading, leadingFailure, h]
  | cons next rest ih =>
    cases h : first.failure.isTruthy with
    | true =>
      -- the next one makes no difference
      have hstep : leadingFailure first (next :: rest) = leadingFailure first rest := by
        simp [leadingFailure, Raised.orElse, h]
      rw [hstep, ← ih, leading_of_truthy h, leading_of_truthy h]
    | false =>
      have hstep : leadingFailure first (next :: rest) = leadingFailure next rest := by
        simp [leadingFailure, Raised.orElse, h]
      rw [hstep, ← ih]
      simp [leading, h]

/-- What the failure of one level is raised from: the failure from below if
    there is one that counts as true, and a refusal otherwise. -/
def levelCause (below : Option Raised) (F : List Refusal) : Option Raised :=
  (below.filter Raised.isTruthy).or ((leading F).map Refusal.failure)

/-- **What one level adds**: behind the partitions named below its own, and a
    cause. -/
theorem rebalanceFailure_cons (below : Option Raised) (first : Refusal) (rest : List Refusal) :
    rebalanceFailure below (first :: rest) =
      some (.mk (.clearsUndelivered
          (unclearedBelow below ++ (first :: rest).map Refusal.partition))
        (levelCause below (first :: rest))) := by
  rw [levelCause, leadingFailure_eq]
  cases below with
  | none => rfl
  | some below =>
    -- a failure that names partitions is told by its kind, and counts as true
    have hcause : ((some below).filter Raised.isTruthy).or (some (leadingFailure first rest)) =
        some (below.orElse (leadingFailure first rest)) := by
      cases h : below.isTruthy <;> simp [Option.filter, Raised.orElse, h]
    rw [hcause]
    obtain ⟨failure, cause⟩ := below
    cases failure <;> rfl

/-! ## §2. Several levels. -/

/-- The failure that several levels make of the one from below. -/
def aggregate (below : Option Raised) (levels : List (List Refusal)) : Option Raised :=
  levels.foldl rebalanceFailure below

/-- The levels at which something was refused. -/
def refusing (levels : List (List Refusal)) : List (List Refusal) :=
  levels.filter fun F => !F.isEmpty

theorem aggregate_concat (below : Option Raised) (levels : List (List Refusal))
    (F : List Refusal) :
    aggregate below (levels ++ [F]) = rebalanceFailure (aggregate below levels) F := by
  unfold aggregate
  rw [List.foldl_append]
  rfl

/-- Levels at which nothing was refused pass the failure on. -/
theorem aggregate_refusing (below : Option Raised) (levels : List (List Refusal)) :
    aggregate below (refusing levels) = aggregate below levels := by
  induction levels generalizing below with
  | nil => rfl
  | cons F rest ih =>
    -- a level without refusals is left out, and hands on what is below it
    cases F with
    | nil => exact ih below
    | cons first more => exact ih (rebalanceFailure below (first :: more))

theorem flatten_refusing (levels : List (List Refusal)) :
    (refusing levels).flatten = levels.flatten := by
  induction levels with
  | nil => rfl
  | cons F rest ih =>
    cases F with
    | nil => exact ih
    | cons first more => exact congrArg ((first :: more) ++ ·) ih

theorem refusing_eq_nil (levels : List (List Refusal)) :
    refusing levels = [] ↔ ∀ F ∈ levels, F = [] := by
  unfold refusing
  rw [List.filter_eq_nil_iff]
  simp

theorem aggregate_eq_none (below : Option Raised) (levels : List (List Refusal)) :
    aggregate below levels = none ↔ below = none ∧ ∀ F ∈ levels, F = [] := by
  induction levels generalizing below with
  | nil => simp [aggregate]
  | cons F rest ih =>
    show aggregate (rebalanceFailure below F) rest = none ↔ _
    rw [ih, rebalanceFailure_eq_none]
    simp [and_assoc]

/-- The partitions named in the end: those named below, and then those of each
    level in turn. -/
theorem unclearedBelow_aggregate (below : Option Raised) (levels : List (List Refusal)) :
    unclearedBelow (aggregate below levels) =
      unclearedBelow below ++ levels.flatten.map Refusal.partition := by
  induction levels generalizing below with
  | nil => simp [aggregate]
  | cons F rest ih =>
    show unclearedBelow (aggregate (rebalanceFailure below F) rest) = _
    rw [ih]
    cases F with
    | nil => rfl
    | cons first more =>
      rw [rebalanceFailure_cons, List.flatten_cons, List.map_append, ← List.append_assoc]
      rfl

/-- The topmost level's failure: the partitions that it names, and its cause. -/
theorem aggregate_concat_cons (below : Option Raised) (levels : List (List Refusal))
    (first : Refusal) (rest : List Refusal) :
    aggregate below (levels ++ [first :: rest]) =
      some (.mk (.clearsUndelivered (unclearedBelow below ++
          (levels ++ [first :: rest]).flatten.map Refusal.partition))
        (levelCause (aggregate below levels) (first :: rest))) := by
  rw [aggregate_concat, rebalanceFailure_cons, unclearedBelow_aggregate]
  simp

/-- Levels at each of which something was refused come to a failure that names
    everything. -/
theorem failure_aggregate {levels : List (List Refusal)} (hne : ∀ F ∈ levels, F ≠ [])
    (hlevels : levels ≠ []) (below : Option Raised) :
    ∃ e, aggregate below levels = some e ∧
      e.failure = .clearsUndelivered
        (unclearedBelow below ++ levels.flatten.map Refusal.partition) := by
  -- the topmost level decides what kind of failure it is
  have htop : levels.getLast hlevels ≠ [] := hne _ (List.getLast_mem hlevels)
  obtain ⟨first, rest, hF⟩ := List.exists_cons_of_ne_nil htop
  have hsplit : levels = levels.dropLast ++ [first :: rest] := by
    rw [← hF, List.dropLast_concat_getLast]
  rw [hsplit]
  exact ⟨_, aggregate_concat_cons below levels.dropLast first rest, rfl⟩

/-- So do the lowest ones among them. -/
theorem failure_take {levels : List (List Refusal)} (hne : ∀ F ∈ levels, F ≠ [])
    (below : Option Raised) {j : Nat} (hpos : 0 < j) (hj : j ≤ levels.length) :
    ∃ e, aggregate below (levels.take j) = some e ∧
      e.failure = .clearsUndelivered
        (unclearedBelow below ++ (levels.take j).flatten.map Refusal.partition) := by
  refine failure_aggregate (fun F hF => hne F (List.mem_of_mem_take hF)) (fun h => ?_) below
  have hlength := congrArg List.length h
  rw [List.length_take, List.length_nil] at hlength
  omega

/-- The cause of the failure at some level, from the failure at the level
    below it. -/
theorem cause_aggregate {levels : List (List Refusal)} (hne : ∀ F ∈ levels, F ≠ [])
    (below : Option Raised) {j : Nat} (hj : j < levels.length) :
    (aggregate below (levels.take (j + 1))).bind Raised.cause =
      levelCause (aggregate below (levels.take j)) levels[j] := by
  obtain ⟨first, rest, hF⟩ := List.exists_cons_of_ne_nil (hne levels[j] (List.getElem_mem hj))
  have htake : levels.take (j + 1) = levels.take j ++ [first :: rest] := by
    rw [List.take_add_one, List.getElem?_eq_getElem hj, hF]
    rfl
  rw [htake, aggregate_concat_cons, hF]
  rfl

/-- A failure that names partitions counts as true, so it becomes the cause. -/
theorem levelCause_of_uncleared {f : Raised} {ps : List Partition}
    (hf : f.failure = .clearsUndelivered ps) (F : List Refusal) :
    levelCause (some f) F = some f := by
  have htruthy : f.isTruthy = true := by rw [Raised.isTruthy, hf]; rfl
  simp [levelCause, Option.filter, htruthy]

/-- **The causes lead down level by level.**  The induction is on how far down
    they are followed. -/
theorem ancestor_aggregate {levels : List (List Refusal)} (hne : ∀ F ∈ levels, F ≠ [])
    {below : Option Raised} {e : Raised} (he : aggregate below levels = some e) {k : Nat}
    (hk : k < levels.length) :
    e.ancestor k = aggregate below (levels.take (levels.length - k)) := by
  induction k with
  | zero =>
    rw [Nat.sub_zero, List.take_length, he]
    rfl
  | succ k ih =>
    have hk' : levels.length - k = (levels.length - (k + 1)) + 1 := by omega
    have hj : levels.length - (k + 1) < levels.length := by omega
    -- there is still a level below that one, so the failure there is the cause
    obtain ⟨f, hf, hfailure⟩ :=
      failure_take hne below (j := levels.length - (k + 1)) (by omega) (by omega)
    show (e.ancestor k).bind Raised.cause = _
    rw [ih (by omega), hk', cause_aggregate hne below hj, hf, levelCause_of_uncleared hfailure]

/-- At last the causes lead to that of the lowest level. -/
theorem ancestor_length_aggregate {lowest : List Refusal} {upper : List (List Refusal)}
    (hne : ∀ F ∈ lowest :: upper, F ≠ []) {below : Option Raised} {e : Raised}
    (he : aggregate below (lowest :: upper) = some e) :
    e.ancestor (lowest :: upper).length = levelCause below lowest := by
  -- all levels but the lowest have been left behind
  have hlast : e.ancestor upper.length = aggregate below [lowest] := by
    rw [ancestor_aggregate hne he (by simp)]
    simp
  show (e.ancestor upper.length).bind Raised.cause = _
  rw [hlast]
  exact cause_aggregate (j := 0) hne below (by simp)

/-- Where the causes of a failure lead to in the end. -/
def origin (below : Option Raised) (levels : List (List Refusal)) : Option Raised :=
  match (refusing levels).head? with
  | none => below
  | some lowest => levelCause below lowest

/-- If that counts as true, it is the failure from below, or the first refusal
    of all if there is none. -/
theorem origin_of_truthy {below : Option Raised} {levels : List (List Refusal)}
    (h : ∀ o, below.or (levels.flatten.head?.map Refusal.failure) = some o → o.isTruthy = true) :
    origin below levels = below.or (levels.flatten.head?.map Refusal.failure) := by
  unfold origin
  rw [← flatten_refusing] at h ⊢
  cases hlevels : refusing levels with
  | nil => simp
  | cons lowest upper =>
    have hlowest : lowest ∈ refusing levels := by rw [hlevels]; exact List.mem_cons_self
    obtain ⟨first, rest, rfl⟩ : ∃ first rest, lowest = first :: rest :=
      List.exists_cons_of_ne_nil (by simpa using (List.mem_filter.1 hlowest).2)
    rw [hlevels] at h
    cases below with
    | some b => simp [levelCause, Option.filter, h b rfl]
    | none =>
      have hfirst : first.failure.isTruthy = true := h first.failure rfl
      simp [levelCause, leading_of_truthy hfirst]

/-! ## §3. The failure of a rebalance. -/

/-- What each of several readers has refused, when they take over one after
    the other what was left. -/
def Conduct.refusals (C : Conduct R) : Relayed R → List (Reader R) → List (List Refusal)
  | _, [] => []
  | h, r :: rest =>
    (C.sweepAt r h.left.assignment h.own).refusals :: C.refusals (C.relayTo h r) rest

namespace Conduct

variable {C : Conduct R}

theorem relay_failure (hC : C.Ordinary) (h : Relayed R) (rs : List (Reader R)) :
    (C.relay h rs).left.failure = aggregate h.left.failure (C.refusals h rs) := by
  induction rs generalizing h with
  | nil => rfl
  | cons r rest ih =>
    rw [relay_cons, ih]
    show aggregate ((C.sweepAt r h.left.assignment h.own).failure h.left.failure) _ = _
    rw [sweepAt_failure (hC.ordinaryAt r.onEvent)]
    rfl

theorem length_refusals (h : Relayed R) (rs : List (Reader R)) :
    (C.refusals h rs).length = rs.length := by
  induction rs generalizing h with
  | nil => rfl
  | cons r rest ih => exact congrArg Nat.succ (ih (C.relayTo h r))

/-- Each reader refuses only what it gives up, in that order. -/
theorem refusals_sublist_dropped (h : Relayed R) {rs : List (Reader R)} {i : Nat} {r : Reader R}
    {F : List Refusal} (hr : rs[i]? = some r) (hF : (C.refusals h rs)[i]? = some F) :
    (F.map Refusal.partition).Sublist (r.dropped h.left.assignment) := by
  induction rs generalizing h i with
  | nil => cases hr
  | cons r' rest ih =>
    cases i with
    | zero =>
      obtain rfl : r' = r := Option.some.inj hr
      obtain rfl : (C.sweepAt r' h.left.assignment h.own).refusals = F := Option.some.inj hF
      exact C.refusals_sublist r'.onEvent _ _
    | succ i =>
      -- what the readers before it resume does not change what it drops
      have hdropped : r.dropped (C.relayTo h r').left.assignment = r.dropped h.left.assignment :=
        r.dropped_congr (r'.tracker.partitions_resume h.left.assignment)
      rw [← hdropped]
      exact ih (C.relayTo h r') hr hF

end Conduct

/-- The failure that comes of the one from below and of what was refused at
    several levels. -/
structure Aggregated (below : Option Raised) (levels : List (List Refusal))
    (failure : Option Raised) : Prop where
  /-- Nothing fails exactly if nothing failed below and nothing was refused. -/
  none_iff : failure = none ↔ below = none ∧ ∀ F ∈ levels, F = []
  /-- If nothing was refused, the failure from below is passed on as it is. -/
  passed_on : (∀ F ∈ levels, F = []) → failure = below
  /-- Otherwise one failure names the partitions named below and then those of
      each level in turn. -/
  combined : (∃ F ∈ levels, F ≠ []) → ∃ e, failure = some e ∧
    e.failure = .clearsUndelivered
      (unclearedBelow below ++ levels.flatten.map Refusal.partition)
  /-- Its causes are such failures themselves, one for each level at which
      something was refused, the uppermost first. -/
  causes : ∀ e, failure = some e → ∀ k < (refusing levels).length,
    ∃ f, e.ancestor k = some f ∧
      f.failure = .clearsUndelivered (unclearedBelow below ++
        ((refusing levels).take ((refusing levels).length - k)).flatten.map Refusal.partition)
  /-- Behind these comes the failure from below if it counts as true, and
      otherwise a refusal of the lowest level. -/
  ends : ∀ e, failure = some e → e.ancestor (refusing levels).length = origin below levels
  /-- So the failure from below comes last, or if there is none the first
      refusal of all, provided that it counts as true. -/
  ends_truthy : ∀ e, failure = some e →
    (∀ o, below.or (levels.flatten.head?.map Refusal.failure) = some o → o.isTruthy = true) →
    e.ancestor (refusing levels).length = below.or (levels.flatten.head?.map Refusal.failure)

theorem aggregated_aggregate (below : Option Raised) (levels : List (List Refusal)) :
    Aggregated below levels (aggregate below levels) := by
  have hne : ∀ F ∈ refusing levels, F ≠ [] := fun F hF => by
    simpa using (List.mem_filter.1 hF).2
  have hends : ∀ e, aggregate below levels = some e →
      e.ancestor (refusing levels).length = origin below levels := by
    intro e he
    rw [← aggregate_refusing] at he
    unfold origin
    cases hlevels : refusing levels with
    -- nothing was refused: the failure is the one from below itself
    | nil =>
      rw [hlevels] at he
      exact he.symm
    | cons lowest upper =>
      rw [hlevels] at he hne
      exact ancestor_length_aggregate hne he
  refine ⟨aggregate_eq_none below levels, fun h => ?_, fun ⟨F, hF, hFne⟩ => ?_,
    fun e he k hk => ?_, hends, fun e he h => (hends e he).trans (origin_of_truthy h)⟩
  · rw [← aggregate_refusing, (refusing_eq_nil levels).2 h]
    rfl
  -- levels without refusals make no difference, so only the others are counted
  · have hlevels : refusing levels ≠ [] := fun h => hFne ((refusing_eq_nil levels).1 h F hF)
    obtain ⟨e, he, hfailure⟩ := failure_aggregate hne hlevels below
    rw [flatten_refusing] at hfailure
    exact ⟨e, by rw [← aggregate_refusing, he], hfailure⟩
  · rw [← aggregate_refusing] at he
    rw [ancestor_aggregate hne he hk]
    exact failure_take hne below (by omega) (by omega)

namespace Session

/-- **The failure of a rebalance on a stack of readers** aggregates that of the
    listener below the stack with what each open reader's handler refused. -/
theorem aggregation_over_stack {C : Conduct R} (hC : C.Ordinary) {base : Listener}
    {s : Session R} (hs : StackOn base s) (a : Assignment) :
    Aggregated (C.hear base a s.own).left.failure
        (C.refusals (C.hear base a s.own) s.openReaders) (s.rebalance C.environment a).1.failure ∧
      (C.refusals (C.hear base a s.own) s.openReaders).length = s.openReaders.length ∧
      ∀ (i : Nat) (r : Reader R) (F : List Refusal), s.openReaders[i]? = some r →
        (C.refusals (C.hear base a s.own) s.openReaders)[i]? = some F →
        (F.map Refusal.partition).Sublist (r.dropped (C.hear base a s.own).left.assignment) := by
  have hfailure : (s.rebalance C.environment a).1.failure =
      aggregate (C.hear base a s.own).left.failure
        (C.refusals (C.hear base a s.own) s.openReaders) := by
    rw [(rebalance_run hC hs a).1, Conduct.relay_failure hC]
  rw [hfailure]
  exact ⟨aggregated_aggregate _ _, Conduct.length_refusals _ _, fun i r F hr hF =>
    Conduct.refusals_sublist_dropped _ hr hF⟩

end Session

/-! ## §4. Failures that count as true, and empty ones. -/

/-- Of the readers of a sample stack two refuse what they are told, after the
    listener below them has failed. -/
theorem aggregation_over_sample :
    Aggregated (some (.of (.invalid "audit")))
        (Sample.conduct.refusals (Sample.conduct.hear (.foreign "audit")
          [⟨Sample.partition 1, none⟩] Sample.stack.own) Sample.stack.openReaders)
        (Sample.stack.rebalance Sample.conduct.environment
          [⟨Sample.partition 1, none⟩]).1.failure :=
  (Session.aggregation_over_stack Sample.conduct_ordinary Sample.stackOn_stack
    [⟨Sample.partition 1, none⟩]).1

example : (Sample.stack.rebalance Sample.conduct.environment
      [⟨Sample.partition 1, none⟩]).1.failure.map Raised.chain =
    some [.clearsUndelivered [Sample.partition 0, Sample.partition 3],
      .clearsUndelivered [Sample.partition 0], .invalid "audit"] := by rfl

namespace Sample

/-- A failure of a kind that has a length, which is zero. -/
def empty (text : String) : Raised := .of (.custom "tests.fakes" "EmptyError" text false)

/-- The listener named `"audit"` fails with an empty failure, and so do
    handlers that refuse the first partition. -/
def hollow : Conduct roles :=
  { conduct with
    onEvent := fun (refuses : Bool) e o =>
      (if refuses then
        .error (if e.source = partition 0 then empty "refused" else .of (.runtime "refused"))
      else .ok (), o)
    onAssignment := fun name a o => (⟨a, if name = "audit" then some (empty "audit") else none⟩, o) }

theorem hollow_ordinary : hollow.Ordinary := by
  refine ⟨fun h e o f hf => ?_, fun name a o f hf => ?_⟩
  · cases h with
    | true =>
      simp only [hollow, if_true] at hf
      split at hf <;> (cases hf; rfl)
    | false => cases hf
  · simp only [hollow] at hf
    split at hf
    · cases hf; rfl
    · cases hf

/-- A reader above nobody that tracks two partitions. -/
def alone : Session roles :=
  (Session.start .direct .warning (0 : Nat)).stackUp (reader "p" true [0, 1])

theorem stackOn_alone : Session.StackOn .nobody alone := by
  refine Session.StackOn.stackUp (.start ?_ ?_ ?_) ?_ <;> rfl

end Sample

/-- The listener below a stack fails with an empty failure, and readers of the
    stack refuse what they are told: no cause leads to the failure of the
    listener.  Nor does one lead to the first refusal if that one fails with an
    empty failure. -/
theorem empty_failures_passed_over :
    (Sample.hollow.Ordinary ∧ Session.StackOn (.foreign "audit") Sample.stack ∧
      Session.StackOn .nobody Sample.alone) ∧
    ((Sample.hollow.hear (.foreign "audit") [⟨Sample.partition 0, none⟩]
        Sample.stack.own).left.failure = some (Sample.empty "audit") ∧
      (Sample.stack.rebalance Sample.hollow.environment
          [⟨Sample.partition 0, none⟩]).1.failure.map Raised.chain =
        some [.clearsUndelivered [Sample.partition 1, Sample.partition 1, Sample.partition 3],
          .clearsUndelivered [Sample.partition 1], .runtime "refused"]) ∧
    (Sample.hollow.refusals (Sample.hollow.hear .nobody [] Sample.alone.own)
        Sample.alone.openReaders =
        [[⟨Sample.partition 0, Sample.empty "refused"⟩,
          ⟨Sample.partition 1, .of (.runtime "refused")⟩]] ∧
      (Sample.alone.rebalance Sample.hollow.environment []).1.failure.map Raised.chain =
        some [.clearsUndelivered [Sample.partition 0, Sample.partition 1],
          .runtime "refused"]) :=
  ⟨⟨Sample.hollow_ordinary, Sample.stackOn_stack, Sample.stackOn_alone⟩, ⟨rfl, rfl⟩, rfl, rfl⟩

end ChangeFeed
