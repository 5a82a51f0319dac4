/-
  ChangeFeed.Proofs.LineBreaks — how many lines the program prints for an event.

  The program ends what it prints of an event with a line feed.  The name of a topic,
  a key and a value are printed as they are, and any of them may hold line feeds of its
  own: these break the line in rows.  So who reads the output by lines finds the rows
  of all events, one behind the other.  That is a line for each event just if there is
  no line feed in what is printed of any.

  Main results:
    * `Text.asLines_asText` — the lines of an output are the rows of what was printed.
    * `Event.notMem_line_iff` — which events are printed in one row.
    * `Program.rows_of_events` — the lines that the program prints.
-/

import ChangeFeed.Proofs.Lines
import ChangeFeed.Proofs.Printing

namespace ChangeFeed

variable {R : Roles}

/-! ## §1. Rows and lines. -/

namespace Text

/-- The rows that a text takes up: it is broken at each line feed. -/
def rows (s : String) : List String := (s.toList.splitOn '\n').map String.ofList

/-- The lines of what was printed.  Each is ended by a line feed, so that what lies behind the
    last line feed is none. -/
def asLines (s : String) : List String := (rows s).dropLast

theorem rows_append_feed (s t : String) : rows (s ++ "\n" ++ t) = rows s ++ rows t := by
  have hchars : (s ++ "\n" ++ t).toList = s.toList ++ '\n' :: t.toList := by simp
  unfold rows
  rw [hchars, List.splitOn_append_cons_self, List.map_append]

/-- A text is broken once more than it has line feeds. -/
theorem length_splitOn_feed (cs : List Char) :
    (cs.splitOn '\n').length = cs.count '\n' + 1 := by
  induction cs with
  | nil => rfl
  | cons c cs ih =>
    rw [List.splitOn_cons_eq_if_modifyHead, List.count_cons]
    by_cases hc : (c == '\n') = true
    · rw [if_pos hc, if_pos hc, List.length_cons, ih]
    · rw [if_neg hc, if_neg hc, List.length_modifyHead, ih]

theorem length_rows (s : String) : (rows s).length = s.toList.count '\n' + 1 := by
  unfold rows
  rw [List.length_map, length_splitOn_feed]

theorem rows_eq_singleton_iff {s : String} : rows s = [s] ↔ '\n' ∉ s.toList := by
  constructor
  · intro h
    have hlength := length_rows s
    rw [h] at hlength
    exact List.count_eq_zero.1 (by simpa using hlength.symm)
  · intro h
    unfold rows
    rw [List.splitOn_eq_singleton h, List.map_singleton, String.ofList_toList]

theorem rows_asText (ls : List String) : rows (asText ls) = ls.flatMap rows ++ [""] := by
  induction ls with
  | nil => rfl
  | cons l ls ih =>
    have hfirst : asText (l :: ls) = l ++ "\n" ++ asText ls := by simp [asText]
    rw [hfirst, rows_append_feed, ih, List.flatMap_cons, List.append_assoc]

/-- **The lines of an output are the rows of what was printed**, one behind the other. -/
theorem asLines_asText (ls : List String) : asLines (asText ls) = ls.flatMap rows := by
  unfold asLines
  rw [rows_asText, List.dropLast_concat]

/-- There are at least as many as were printed, -/
theorem length_flatMap_rows (ls : List String) :
    (ls.flatMap rows).length = ls.length + (ls.map fun l => l.toList.count '\n').sum := by
  induction ls with
  | nil => rfl
  | cons l ls ih =>
    rw [List.flatMap_cons, List.length_append, length_rows, ih, List.length_cons, List.map_cons,
      List.sum_cons]
    omega

/-- and just as many if none of them is broken. -/
theorem length_flatMap_rows_iff {ls : List String} :
    (ls.flatMap rows).length = ls.length ↔ ∀ l ∈ ls, '\n' ∉ l.toList := by
  rw [length_flatMap_rows, Nat.add_eq_left, List.sum_eq_zero_iff, List.forall_mem_map]
  exact forall₂_congr fun l _ => List.count_eq_zero

theorem flatMap_rows_iff {ls : List String} :
    ls.flatMap rows = ls ↔ ∀ l ∈ ls, '\n' ∉ l.toList := by
  constructor
  · intro h
    exact length_flatMap_rows_iff.1 (congrArg List.length h)
  · intro h
    calc ls.flatMap rows = ls.flatMap fun l => [l] :=
          List.flatMap_congr fun l hl => rows_eq_singleton_iff.2 (h l hl)
      _ = ls := List.flatMap_singleton' ls

end Text

/-! ## §2. Events in one row. -/

/-- No index is written with a line feed. -/
theorem Partition.feed_mem_label_iff (p : Partition) :
    '\n' ∈ p.label.toList ↔ '\n' ∈ p.topic.toList := by
  have hindex : '\n' ∉ (toString p.index).toList :=
    notMem_index (by decide) (by decide) p.index
  have hclose : '\n' ∉ (toString p.index).toList ++ [']'] := by
    rw [List.mem_append, not_or]
    exact ⟨hindex, by decide⟩
  rw [toList_label, List.mem_append, List.mem_cons]
  constructor
  · rintro (htopic | hopen | hbehind)
    · exact htopic
    · exact absurd hopen (by decide)
    · exact absurd hbehind hclose
  · exact .inl

namespace Event

/-- There is no line feed in the name of the topic, nor in the key or the value. -/
structure Unbroken (e : Event) : Prop where
  topic : '\n' ∉ e.source.topic.toList
  key : ∀ k, e.key? = some k → '\n' ∉ k.plain.toList
  value : ∀ v, e.value? = some v → '\n' ∉ v.plain.toList

theorem feed_notMem_heading (k : Kind) : '\n' ∉ k.heading.toList := by
  cases k <;> decide

theorem notMem_details_iff (e : Event) :
    '\n' ∉ e.details.toList ↔
      (∀ k, e.key? = some k → '\n' ∉ k.plain.toList) ∧
        ∀ v, e.value? = some v → '\n' ∉ v.plain.toList := by
  cases e <;> simp [details, key?, value?]

/-- **Which events are printed in one row.** -/
theorem notMem_line_iff (e : Event) : '\n' ∉ e.line.toList ↔ e.Unbroken := by
  rw [toList_line, List.mem_append, List.mem_append, not_or, not_or, notMem_details_iff,
    Partition.feed_mem_label_iff]
  constructor
  · rintro ⟨-, htopic, hkey, hvalue⟩
    exact ⟨htopic, hkey, hvalue⟩
  · intro h
    exact ⟨feed_notMem_heading e.kind, h.topic, h.key, h.value⟩

/-- What is printed of an event, by rows. -/
def rows (e : Event) : List String := Text.rows e.line

theorem flatMap_rows (events : List Event) :
    (events.map line).flatMap Text.rows = events.flatMap rows := by
  rw [List.flatMap_map]
  rfl

theorem unbroken_lines_iff {events : List Event} :
    (∀ l ∈ events.map line, '\n' ∉ l.toList) ↔ ∀ e ∈ events, e.Unbroken := by
  rw [List.forall_mem_map]
  exact forall₂_congr fun e _ => notMem_line_iff e

end Event

/-! ## §3. What the program prints. -/

/-- **The lines that the program prints** are the rows of the events that it reports. They are
    as many as the events, and each is the line of its event, just if there is no line feed
    in any topic, key or value. -/
theorem Program.rows_of_events (C : Conduct R) (store : Config.Store) {words topics : List String}
    {config group : CommandLine.Setting}
    (hwords : CommandLine.parse words = .run topics config group) (turns : List Turn)
    (s : Session R) :
    let final := ((main C.environment store words turns).1.run s).2
    let given := (configure store (originOf config) (appIdOf group)).1
    ∃ taken ds events errors,
      Recounts C (prepared C given topics s.own).memory s.readers.length turns s final taken ds
        events errors ∧
      Text.asLines final.output = Text.asLines s.output ++ events.flatMap Event.rows ∧
      ((Text.asLines final.output).length = (Text.asLines s.output).length + events.length ↔
        ∀ e ∈ events, e.Unbroken) ∧
      (Text.asLines final.output = Text.asLines s.output ++ events.map Event.line ↔
        ∀ e ∈ events, e.Unbroken) := by
  intro final given
  have hmain : (main C.environment store words turns).1 =
      serve C.environment given topics printing turns := by
    unfold main
    rw [hwords]
  obtain ⟨taken, ds, events, errors, hrecounts⟩ := recounts_serve C given topics turns s
  rw [← hmain] at hrecounts
  have hrows : Text.asLines final.output = Text.asLines s.output ++ events.flatMap Event.rows := by
    rw [hrecounts.output, Session.output, ← asText_append, Text.asLines_asText, Text.asLines_asText,
      List.flatMap_append, Event.flatMap_rows]
  refine ⟨taken, ds, events, errors, hrecounts, hrows, ?_, ?_⟩
  · rw [hrows, List.length_append, Nat.add_left_cancel_iff, ← Event.flatMap_rows,
      ← Event.unbroken_lines_iff, ← Text.length_flatMap_rows_iff, List.length_map]
  · rw [hrows, List.append_cancel_left_eq, ← Event.flatMap_rows, ← Event.unbroken_lines_iff,
      ← Text.flatMap_rows_iff]

theorem rows_of_events_of_sample :
    CommandLine.parse ["t"] = .run ["t"] .absent .absent ∧
      let final := ((Program.main Sample.conduct.environment Sample.remembering ["t"]
        Sample.morning).1.run Sample.blank).2
      let given := (Program.configure Sample.remembering .default none).1
      ∃ taken ds events errors,
        Recounts Sample.conduct
          (Program.prepared Sample.conduct given ["t"] Sample.blank.own).memory
          Sample.blank.readers.length Sample.morning Sample.blank final taken ds events errors ∧
        Text.asLines final.output =
          Text.asLines Sample.blank.output ++ events.flatMap Event.rows ∧
        ((Text.asLines final.output).length =
            (Text.asLines Sample.blank.output).length + events.length ↔
          ∀ e ∈ events, e.Unbroken) ∧
        (Text.asLines final.output =
            Text.asLines Sample.blank.output ++ events.map Event.line ↔
          ∀ e ∈ events, e.Unbroken) := by
  have hwords : CommandLine.parse ["t"] = .run ["t"] .absent .absent := by rfl
  exact ⟨hwords, Program.rows_of_events Sample.conduct Sample.remembering hwords Sample.morning
    Sample.blank⟩

/-- An element is set whose key holds a line feed. -/
def Sample.brokenKey : List Turn := [Sample.brings 0 (some [0x6b, 0x0a, 0x6b]) (some [0x76]) none]

/-- One event was printed, and there are two lines to read. -/
theorem line_feed_breaks_line :
    let final := ((Program.main Sample.conduct.environment Sample.remembering ["t"]
      Sample.brokenKey).1.run Sample.blank).2
    final.journal.filterMap Occurrence.printed? =
        [(Event.set (Sample.partition 0) (.text "k\nk") (.text "v")).line] ∧
      Text.asLines final.output = ["SET    t[0] k", "k = v"] := by
  decide +kernel

end ChangeFeed
