/-
  ChangeFeed.Partition — one partition of a topic.

  Partitions are ordered by topic, code point by code point, and within a
  topic by index.  The order is strict and total, which is what makes the
  tracker's listing unique.
-/

import ChangeFeed.Text.Blank
import ChangeFeed.Text.Quoted

namespace ChangeFeed

/-- Where a message lies on a partition. -/
abbrev Offset := Int

/-- The text of an offset that may be unknown. -/
def Offset.described (o : Option Offset) : String := (o.map toString).getD "None"

/-- One partition of a topic. -/
structure Partition where
  /-- The name of the topic. -/
  topic : String
  /-- The number of the partition within its topic. -/
  index : Int
deriving DecidableEq, Repr, Inhabited

namespace Partition

/-! ## §1. Order. -/

/-- By topic, then by index. -/
def before (p q : Partition) : Prop :=
  p.topic < q.topic ∨ (p.topic = q.topic ∧ p.index < q.index)

instance : LT Partition := ⟨before⟩

instance (p q : Partition) : Decidable (p < q) :=
  inferInstanceAs (Decidable (p.topic < q.topic ∨ (p.topic = q.topic ∧ p.index < q.index)))

theorem lt_def (p q : Partition) :
    p < q ↔ p.topic < q.topic ∨ (p.topic = q.topic ∧ p.index < q.index) := Iff.rfl

theorem lt_irrefl (p : Partition) : ¬ p < p := by
  rw [lt_def]
  rintro (h | ⟨_, h⟩)
  · exact String.lt_irrefl _ h
  · omega

theorem lt_trans {p q r : Partition} (h : p < q) (h' : q < r) : p < r := by
  rw [lt_def] at *
  rcases h with h | ⟨e, h⟩ <;> rcases h' with h' | ⟨e', h'⟩
  · exact .inl (String.lt_trans h h')
  · exact .inl (e' ▸ h)
  · exact .inl (e ▸ h')
  · exact .inr ⟨e.trans e', by omega⟩

/-- Of two different partitions one comes first. -/
theorem lt_or_gt_of_ne {p q : Partition} (h : p ≠ q) : p < q ∨ q < p := by
  rw [lt_def, lt_def]
  by_cases e : p.topic = q.topic
  · have ne : p.index ≠ q.index := fun e' => h (by cases p; cases q; simp_all)
    rcases Int.lt_or_gt_of_ne ne with l | l
    · exact .inl (.inr ⟨e, l⟩)
    · exact .inr (.inr ⟨e.symm, l⟩)
  · by_cases l : p.topic < q.topic
    · exact .inl (.inl l)
    · have : q.topic ≤ p.topic := String.not_lt.1 l
      by_cases l' : q.topic < p.topic
      · exact .inr (.inl l')
      · exact absurd (String.le_antisymm (String.not_lt.1 l') this) e

/-! ## §2. Texts. -/

/-- The short text of a partition, its index in brackets behind the topic. -/
def label (p : Partition) : String := p.topic ++ "[" ++ toString p.index ++ "]"

/-- The full text of a partition, with the topic in quotes. -/
def described (p : Partition) : String :=
  "TopicPartition(topic=" ++ Text.quote p.topic ++ ", partition=" ++ toString p.index ++ ")"

/-- Several short texts in one. -/
def labels (ps : List Partition) : String := Text.join ", " (ps.map label)

end Partition

end ChangeFeed
