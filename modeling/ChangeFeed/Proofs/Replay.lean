/-
  ChangeFeed.Proofs.Replay — views, logs, and views replayed from logs.

  A view holds the latest value per key, for each partition on its own; events
  change it one by one.  A log holds the records of a partition in the order
  of their offsets, and only ever grows at its end.  Replaying a stretch of a
  log gives the elements that a view of the partition should hold when that
  stretch has been read.

  Main results:
    * `Ledger.replay_grown` — what is appended later does not matter.
    * `Ledger.replay_read` — reading the next record is replaying one more.
    * `View.foldl_clear` — clearing several partitions.
-/

import ChangeFeed.Proofs.Relay

namespace ChangeFeed

/-! ## §1. Views. -/

/-- The latest value per key. -/
abbrev Elements := Value → Option Value

/-- The elements of each partition. -/
abbrev View := Partition → Elements

/-- No elements. -/
def Elements.empty : Elements := fun _ => none

/-- The elements with a value written under a key, or removed.  Which keys are
    the same is for whoever keeps the view to say. -/
def Elements.put (same : Value → Value → Bool) (es : Elements) (key : Value)
    (value : Option Value) : Elements := fun k => if same key k then value else es k

namespace View

/-- No elements of any partition. -/
def empty : View := fun _ => .empty

/-- The view with other elements of one partition. -/
def set (w : View) (p : Partition) (es : Elements) : View := fun q => if q = p then es else w q

@[simp] theorem set_self (w : View) (p : Partition) (es : Elements) : w.set p es p = es := by
  simp [set]

@[simp] theorem set_same (w : View) (p : Partition) : w.set p (w p) = w := by
  funext q
  by_cases hq : q = p
  · rw [hq, set_self]
  · simp [set, hq]

theorem set_of_ne {p q : Partition} (h : q ≠ p) (w : View) (es : Elements) :
    w.set p es q = w q := by
  simp [set, h]

/-- The view after an event. -/
def apply (same : Value → Value → Bool) (w : View) : Event → View
  | .set p key value => w.set p ((w p).put same key (some value))
  | .delete p key => w.set p ((w p).put same key none)
  | .clear p => w.set p .empty
  | .endReached _ => w

/-- Several partitions are cleared, and nothing else happens. -/
theorem foldl_clear (same : Value → Value → Bool) (ps : List Partition) (w : View)
    (q : Partition) :
    ps.foldl (fun w p => w.apply same (.clear p)) w q = if q ∈ ps then .empty else w q := by
  induction ps generalizing w with
  | nil => simp
  | cons p rest ih =>
    rw [List.foldl_cons, ih]
    by_cases hq : q = p
    · subst hq
      simp [apply]
    · simp [apply, hq, set_of_ne]

end View

/-! ## §2. Logs. -/

/-- A record in the log of a partition. -/
structure Record where
  offset : Nat
  key : Option Octets
  payload : Option Octets

/-- The message that delivers a record. -/
def Record.message (x : Record) (p : Partition) : Message :=
  ⟨p, some (x.offset : Int), x.key, x.payload, none⟩

/-- The records of a partition; their offsets ascend. -/
structure Ledger where
  records : List Record
  ascending : records.Pairwise fun x y => x.offset < y.offset

/-- How octets become keys and values: always in the same way, without fail. -/
structure Decoders where
  key : Option Octets → Option Value
  value : Value → Octets → Option Value

/-- What a payload says of a key: its value, or that it is gone.  Of a payload
    that cannot be decoded nothing is known. -/
def Decoders.valueOf (d : Decoders) (key : Value) (payload : Option Octets) :
    Option (Option Value) :=
  match payload with
  | none => some none
  | some [] => some none
  | some payload => (d.value key payload).map some

/-- What a record says of which key, if it can be decoded. -/
def Decoders.change (d : Decoders) (x : Record) : Option (Value × Option Value) :=
  (d.key x.key).bind fun key => (d.valueOf key x.payload).map fun value => (key, value)

/-- The event that says so of a key. -/
def Event.ofChange (p : Partition) (key : Value) : Option Value → Event
  | none => .delete p key
  | some value => .set p key value

theorem View.apply_ofChange (same : Value → Value → Bool) (w : View) (p : Partition)
    (key : Value) (value : Option Value) :
    w.apply same (Event.ofChange p key value) = w.set p ((w p).put same key value) := by
  cases value <;> rfl

section

variable (same : Value → Value → Bool) (d : Decoders)

/-- The elements after a record. -/
def Elements.record (es : Elements) (x : Record) : Elements :=
  match d.change x with
  | none => es
  | some (key, value) => es.put same key value

namespace Ledger

/-- The records from the offset `since` on, up to but without `next`. -/
def stretch (l : Ledger) (since next : Nat) : List Record :=
  l.records.filter fun x => since ≤ x.offset ∧ x.offset < next

/-- The elements that a stretch of the log leaves. -/
def replay (l : Ledger) (since next : Nat) : Elements :=
  (l.stretch since next).foldl (Elements.record same d) .empty

/-- The record that is read at an offset: the first one from there on. -/
def read? (l : Ledger) (next : Nat) : Option Record :=
  l.records.find? fun x => next ≤ x.offset

/-- Has a log only grown at its end? -/
def Grows (l l' : Ledger) : Prop := ∃ more, l'.records = l.records ++ more

/-- Does some record lie right before an offset? -/
def Ends (l : Ledger) (next : Nat) : Prop := ∃ x ∈ l.records, x.offset + 1 = next

theorem Ends.grown {l l' : Ledger} {next : Nat} (h : l.Ends next) (hgrows : l.Grows l') :
    l'.Ends next := by
  obtain ⟨x, hx, hnext⟩ := h
  obtain ⟨more, hmore⟩ := hgrows
  refine ⟨x, ?_, hnext⟩
  rw [hmore]
  exact List.mem_append_left more hx

theorem stretch_self (l : Ledger) (n : Nat) : l.stretch n n = [] := by
  unfold stretch
  rw [List.filter_eq_nil_iff]
  intro x _
  simp only [decide_eq_true_eq]
  omega

theorem replay_self (l : Ledger) (n : Nat) : l.replay same d n n = .empty := by
  unfold replay
  rw [stretch_self]
  rfl

/-- **What is appended later does not matter** to a stretch that ends at a
    record, or is empty. -/
theorem replay_grown {l l' : Ledger} (hgrows : l.Grows l') {since next : Nat}
    (hend : l.Ends next ∨ since = next) :
    l'.replay same d since next = l.replay same d since next := by
  rcases hend with ⟨x, hx, hnext⟩ | rfl
  · obtain ⟨more, hmore⟩ := hgrows
    -- what is appended lies behind the record at which the stretch ends
    have hlater : more.filter (fun y => since ≤ y.offset ∧ y.offset < next) = [] := by
      rw [List.filter_eq_nil_iff]
      intro y hy
      have hasc := l'.ascending
      rw [hmore] at hasc
      have hlt := (List.pairwise_append.1 hasc).2.2 x hx y hy
      simp only [decide_eq_true_eq]
      omega
    unfold replay stretch
    rw [hmore, List.filter_append, hlater, List.append_nil]
  · rw [replay_self, replay_self]

/-- A stretch that ends at the record that is read next. -/
theorem stretch_read {l : Ledger} {since next : Nat} {x : Record} (hread : l.read? next = some x)
    (hle : since ≤ next) :
    l.stretch since (x.offset + 1) = l.stretch since next ++ [x] := by
  obtain ⟨hx, before, after, hsplit, hbefore⟩ := List.find?_eq_some_iff_append.1 hread
  have hx : next ≤ x.offset := by simpa using hx
  have hasc := l.ascending
  rw [hsplit] at hasc
  obtain ⟨-, hxafter, hlt⟩ := List.pairwise_append.1 hasc
  have hafter := (List.pairwise_cons.1 hxafter).1
  unfold stretch
  rw [hsplit, List.filter_append, List.filter_append, List.filter_cons, List.filter_cons]
  -- before the record the two stretches agree, and behind it both have ended
  have hsame : before.filter (fun y => since ≤ y.offset ∧ y.offset < x.offset + 1) =
      before.filter fun y => since ≤ y.offset ∧ y.offset < next := by
    refine List.filter_congr fun y hy => ?_
    have hynext : y.offset < next := by simpa using hbefore y hy
    simp only [decide_eq_decide]
    omega
  have hnil : ∀ n, n ≤ x.offset + 1 →
      after.filter (fun y => since ≤ y.offset ∧ y.offset < n) = [] := by
    intro n hn
    rw [List.filter_eq_nil_iff]
    intro y hy
    have hlt := hafter y hy
    simp only [decide_eq_true_eq]
    omega
  have hin : decide (since ≤ x.offset ∧ x.offset < x.offset + 1) = true :=
    decide_eq_true (by omega)
  have hout : ¬ decide (since ≤ x.offset ∧ x.offset < next) = true := by
    rw [decide_eq_true_eq]
    omega
  rw [hsame, hnil _ (Nat.le_refl _), hnil next (by omega), if_pos hin, if_neg hout, List.append_nil]

/-- **Reading the next record is replaying one record more.** -/
theorem replay_read {l : Ledger} {since next : Nat} {x : Record} (hread : l.read? next = some x)
    (hle : since ≤ next) :
    l.replay same d since (x.offset + 1) =
      (l.replay same d since next).record same d x := by
  unfold replay
  rw [stretch_read hread hle, List.foldl_append]
  rfl

theorem ends_read {l : Ledger} {next : Nat} {x : Record} (hread : l.read? next = some x) :
    l.Ends (x.offset + 1) :=
  ⟨x, List.mem_of_find?_eq_some hread, rfl⟩

theorem le_offset_of_read {l : Ledger} {next : Nat} {x : Record}
    (hread : l.read? next = some x) : next ≤ x.offset := by
  simpa using List.find?_some hread

end Ledger

end

end ChangeFeed
