/-
  ChangeFeed.Proofs.Lines — what can be told from the line that reports an event.

  A line starts with a heading of seven characters, which is different for every kind
  of event.  Then comes the partition, with its index in brackets; since there is no
  bracket in the name of a topic, the first one in the line belongs to the index, and
  so does the first one that closes.  What follows is the key, and behind it the value.

  Keys and values may hold anything, among it what separates them.  So where the key
  of an element that was set ends cannot always be told, and nothing else is in doubt.

  Main results:
    * `Text.eq_of_append_sep` — texts are told apart by what separates them.
    * `Partition.label_append_inj` — a partition is told from how a text begins.
    * `Event.line_eq_iff` — which events have the same line.
    * `Event.line_unambiguous` — what a line tells of its event.
-/

import Mathlib
import ChangeFeed.Event

namespace ChangeFeed

/-! ## §1. Separators. -/

/-- **Texts are told apart by what separates them**: the separator that is met first
    is the same one in both. -/
theorem Text.eq_of_append_sep {α : Type} {sep : α} {a b c d : List α} (ha : sep ∉ a)
    (hb : sep ∉ b) (h : a ++ sep :: c = b ++ sep :: d) : a = b ∧ c = d := by
  induction a generalizing b with
  | nil =>
    cases b with
    | nil => exact ⟨rfl, (List.cons.inj h).2⟩
    | cons y b =>
      obtain ⟨rfl, -⟩ := List.cons.inj h
      exact absurd List.mem_cons_self hb
  | cons x a ih =>
    cases b with
    | nil =>
      obtain ⟨rfl, -⟩ := List.cons.inj h
      exact absurd List.mem_cons_self ha
    | cons y b =>
      obtain ⟨rfl, hrest⟩ := List.cons.inj h
      obtain ⟨rfl, rfl⟩ := ih (fun hmem => ha (.tail _ hmem)) (fun hmem => hb (.tail _ hmem)) hrest
      exact ⟨rfl, rfl⟩

/-! ## §2. Partitions. -/

namespace Partition

section

variable {c : Char}

/-- What is no digit is in no number, -/
theorem notMem_natRepr (hc : c.isDigit = false) (n : Nat) : c ∉ n.repr.toList := by
  rw [Nat.repr_eq_ofList_toDigits, String.toList_ofList]
  intro hmem
  have hdigit := Nat.isDigit_of_mem_toDigits (by decide) (by decide) hmem
  rw [hc] at hdigit
  cases hdigit

/-- and in no index, if it is no sign. -/
theorem notMem_index (hc : c.isDigit = false) (hsign : c ≠ '-') (i : Int) :
    c ∉ (toString i).toList := by
  rw [Int.toString_eq_repr, Int.repr_eq_if]
  by_cases hi : 0 ≤ i
  · rw [if_pos hi]
    exact notMem_natRepr hc _
  · rw [if_neg hi, String.toList_append, List.mem_append]
    rintro (hmem | hmem)
    · exact hsign (List.mem_singleton.1 hmem)
    · exact notMem_natRepr hc _ hmem

end

theorem toList_label (p : Partition) :
    p.label.toList = p.topic.toList ++ '[' :: ((toString p.index).toList ++ [']']) := by
  simp [label]

/-- **A partition is told from how a text begins**, if there is no bracket in the name
    of its topic. -/
theorem label_append_inj {p q : Partition} {rest rest' : List Char}
    (hp : '[' ∉ p.topic.toList) (hq : '[' ∉ q.topic.toList)
    (h : p.label.toList ++ rest = q.label.toList ++ rest') : p = q ∧ rest = rest' := by
  simp only [toList_label, List.append_assoc, List.cons_append, List.nil_append] at h
  obtain ⟨htopic, hbehind⟩ := Text.eq_of_append_sep hp hq h
  have hbracket : ∀ i : Int, ']' ∉ (toString i).toList := notMem_index (by decide) (by decide)
  obtain ⟨hindex, hrest⟩ :=
    Text.eq_of_append_sep (hbracket p.index) (hbracket q.index) hbehind
  have htopic : p.topic = q.topic := String.toList_inj.1 htopic
  have hindex : p.index = q.index := by
    have hrepr := String.toList_inj.1 hindex
    rwa [Int.toString_eq_repr, Int.toString_eq_repr, Int.repr_inj] at hrepr
  refine ⟨?_, hrest⟩
  obtain ⟨topic, index⟩ := p
  obtain ⟨topic', index'⟩ := q
  obtain rfl : topic = topic' := htopic
  obtain rfl : index = index' := hindex
  rfl

end Partition

/-! ## §3. Lines. -/

namespace Event

/-- How the line of an event of a kind starts. -/
def Kind.heading : Kind → String
  | .set => "SET    "
  | .delete => "DELETE "
  | .clear => "CLEAR  "
  | .endReached => "EOF    "

theorem Kind.length_heading (k : Kind) : k.heading.toList.length = 7 := by
  cases k <;> rfl

theorem Kind.heading_inj {k l : Kind} (h : k.heading.toList = l.heading.toList) : k = l := by
  cases k <;> cases l <;> first | rfl | exact absurd h (by decide)

/-- What the line of an event says behind the partition. -/
def details : Event → String
  | .set _ k v => " " ++ (k.plain ++ " = " ++ v.plain)
  | .delete _ k => " " ++ k.plain
  | .clear _ => ""
  | .endReached _ => ""

theorem toList_line (e : Event) :
    e.line.toList = e.kind.heading.toList ++ (e.source.label.toList ++ e.details.toList) := by
  cases e <;> simp [line, kind, source, details, Kind.heading]

/-- Keys and values are texts, and there is no bracket in the name of the topic. -/
structure Legible (e : Event) : Prop where
  key : ∀ k, e.key? = some k → ∃ s, k = .text s
  value : ∀ v, e.value? = some v → ∃ s, v = .text s
  topic : '[' ∉ e.source.topic.toList

/-- Two events that their lines do not tell apart: they are the same, or elements were
    set of which key and value come to one text. -/
inductive Confusable : Event → Event → Prop where
  | same (e : Event) : Confusable e e
  | split {p : Partition} {k v k' v' : String} (h : k ++ " = " ++ v = k' ++ " = " ++ v') :
      Confusable (.set p (.text k) (.text v)) (.set p (.text k') (.text v'))

section

variable {e f : Event}

/-- The kind and the partition are told from the line, and what it says behind them. -/
theorem line_parts (he : '[' ∉ e.source.topic.toList) (hf : '[' ∉ f.source.topic.toList)
    (h : e.line = f.line) : e.kind = f.kind ∧ e.source = f.source ∧ e.details = f.details := by
  have hchars := congrArg String.toList h
  rw [toList_line, toList_line] at hchars
  obtain ⟨hheading, hbehind⟩ := List.append_inj hchars
    (e.kind.length_heading.trans f.kind.length_heading.symm)
  obtain ⟨hsource, hrest⟩ := Partition.label_append_inj he hf hbehind
  exact ⟨Kind.heading_inj hheading, hsource, String.toList_inj.1 hrest⟩

/-- **Which events have the same line.** -/
theorem line_eq_iff (he : e.Legible) (hf : f.Legible) : e.line = f.line ↔ Confusable e f := by
  constructor
  · intro h
    obtain ⟨hkind, hsource, hdetails⟩ := line_parts he.topic hf.topic h
    -- the kinds agree, so that each event is compared with one of its own kind
    cases e with
    | set p k v =>
      cases f with
      | set q k' v' =>
        obtain rfl : p = q := hsource
        obtain ⟨ks, rfl⟩ := he.key k rfl
        obtain ⟨vs, rfl⟩ := he.value v rfl
        obtain ⟨ks', rfl⟩ := hf.key k' rfl
        obtain ⟨vs', rfl⟩ := hf.value v' rfl
        exact .split ((String.append_right_inj " ").1 hdetails)
      | _ => cases hkind
    | delete p k =>
      cases f with
      | delete q k' =>
        obtain rfl : p = q := hsource
        obtain ⟨ks, rfl⟩ := he.key k rfl
        obtain ⟨ks', rfl⟩ := hf.key k' rfl
        obtain rfl : ks = ks' := (String.append_right_inj " ").1 hdetails
        exact .same _
      | _ => cases hkind
    | clear p =>
      cases f with
      | clear q =>
        obtain rfl : p = q := hsource
        exact .same _
      | _ => cases hkind
    | endReached p =>
      cases f with
      | endReached q =>
        obtain rfl : p = q := hsource
        exact .same _
      | _ => cases hkind
  · intro h
    cases h with
    | same => rfl
    | @split p k v k' v' h =>
      refine String.toList_inj.1 ?_
      rw [toList_line, toList_line]
      show _ ++ (_ ++ (" " ++ (k ++ " = " ++ v)).toList) = _
      rw [h]
      rfl

/-- What is common to events that are not told apart. -/
theorem Confusable.agree (h : Confusable e f) :
    e.kind = f.kind ∧ e.source = f.source ∧ (e.kind ≠ .set → e = f) := by
  cases h with
  | same => exact ⟨rfl, rfl, fun _ => rfl⟩
  | split h => exact ⟨rfl, rfl, fun hkind => absurd rfl hkind⟩

/-- **What a line tells of its event**: its kind and its partition, and all of it
    unless an element was set; of that it tells the key and the value up to where one
    ends and the other begins. -/
theorem line_unambiguous (he : e.Legible) (hf : f.Legible) :
    (e.line = f.line ↔ Confusable e f) ∧
      (e.line = f.line →
        e.kind = f.kind ∧ e.source = f.source ∧ (e.kind ≠ .set → e = f)) := by
  have hiff := line_eq_iff he hf
  refine ⟨hiff, ?_⟩
  intro h
  exact (hiff.1 h).agree

end

end Event

/-! ## §4. One line for two events. -/

namespace Sample

/-- An element was set whose key holds what separates keys from values, -/
def longKey : Event := .set ⟨"t", 0⟩ (.text "a = b") (.text "c")

/-- and one whose value does. -/
def longValue : Event := .set ⟨"t", 0⟩ (.text "a") (.text "b = c")

theorem legible_longKey : longKey.Legible :=
  ⟨fun _ hk => ⟨_, (Option.some.inj hk).symm⟩, fun _ hv => ⟨_, (Option.some.inj hv).symm⟩,
    by decide⟩

theorem legible_longValue : longValue.Legible :=
  ⟨fun _ hk => ⟨_, (Option.some.inj hk).symm⟩, fun _ hv => ⟨_, (Option.some.inj hv).symm⟩,
    by decide⟩

end Sample

/-- Two events with one line; their kind and their partition can be told from it. -/
theorem line_unambiguous_of_sample :
    Sample.longKey.line = Sample.longValue.line ∧ Sample.longKey ≠ Sample.longValue ∧
      Sample.longKey.kind = Sample.longValue.kind ∧
      Sample.longKey.source = Sample.longValue.source := by
  obtain ⟨hiff, hagree⟩ :=
    Event.line_unambiguous Sample.legible_longKey Sample.legible_longValue
  have hline : Sample.longKey.line = Sample.longValue.line := hiff.2 (.split rfl)
  obtain ⟨hkind, hsource, -⟩ := hagree hline
  exact ⟨hline, by decide, hkind, hsource⟩

end ChangeFeed
