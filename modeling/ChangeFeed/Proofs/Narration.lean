/-
  ChangeFeed.Proofs.Narration — what is printed of what is delivered.

  A reader of texts that prints whatever it reports tells a story: a line for
  each element that is written or gone, for each partition that is swept or
  read to its end, and elsewhere a line for each error.  The story is told
  here from what is delivered alone, in terms of the octets that texts are
  encoded as; how they are decoded does not come into it.

  Main results:
    * `told_message` — what is printed of one message.
    * `narrated_newsOf` — what is printed of any deliveries.
-/

import ChangeFeed.Proofs.Deliveries

namespace ChangeFeed

variable {R : Roles}

/-! ## §1. The story. -/

/-- No text is encoded like this. -/
def Octets.NoText (b : Octets) : Prop := ∀ s, Octets.encode s ≠ b

theorem Octets.noText_of_decode? {b : Octets} (h : Octets.decode? b = none) : b.NoText := by
  intro s hs
  rw [Octets.decode?_eq_some_iff.2 hs] at h
  cases h

/-- What is told of a message: the events, the errors, and what is tracked
    afterwards. -/
inductive Told (t : Tracker) (m : Message) : List Event → List ErrorCode → Tracker → Prop where
  /-- A record with a key and nothing else. -/
  | deleted {key : String} (herror : m.error = none) (hkey : m.key = some (Octets.encode key))
      (hpayload : m.payload = none ∨ m.payload = some []) :
      Told t m [.delete m.partition (.text key)] [] (t.update m.partition m.offset)
  /-- A record with a key and a value. -/
  | set {key value : String} (herror : m.error = none)
      (hkey : m.key = some (Octets.encode key))
      (hpayload : m.payload = some (Octets.encode value)) (hvalue : Octets.encode value ≠ []) :
      Told t m [.set m.partition (.text key) (.text value)] [] (t.update m.partition m.offset)
  /-- A record without a key, or with a key or a value that is no text. -/
  | unread (herror : m.error = none)
      (hoctets : m.key = none ∨ (∃ b, m.key = some b ∧ b.NoText) ∨
        ∃ b, m.payload = some b ∧ b.NoText) :
      Told t m [] [] (t.update m.partition m.offset)
  /-- The partition has been read to its end. -/
  | endReached (herror : m.error = some .endOfPartition) :
      Told t m [.endReached m.partition] [] t
  /-- Any other error. -/
  | failed {code : ErrorCode} (herror : m.error = some code) (hcode : code ≠ .endOfPartition) :
      Told t m [] [code] t

/-- What is told of several deliveries, in order. -/
inductive Narrated :
    Tracker → List Delivery → List Event → List (Message × ErrorCode) → Tracker → Prop where
  | done (t : Tracker) : Narrated t [] [] [] t
  /-- At a rebalance the partitions that were tracked and are not assigned any
      more are swept, in their order. -/
  | swept {t u : Tracker} {left : Assignment} {rest : List Delivery} {gone : List Partition}
      {events : List Event} {errors : List (Message × ErrorCode)}
      (hascending : gone.Pairwise (· < ·))
      (hgone : ∀ p, p ∈ gone ↔ t.contains p = true ∧ p ∉ Assignment.partitions left)
      (hrest : Narrated (t.restrict (Assignment.partitions left)) rest events errors u) :
      Narrated t (.rebalance left :: rest) (gone.map .clear ++ events) errors u
  | message {t u v : Tracker} {m : Message} {rest : List Delivery} {first events : List Event}
      {codes : List ErrorCode} {errors : List (Message × ErrorCode)}
      (hfirst : Told t m first codes u) (hrest : Narrated u rest events errors v) :
      Narrated t (.message m :: rest) (first ++ events) (codes.map (m, ·) ++ errors) v

/-! ## §2. What is printed. -/

/-- The line that was printed, if one was. -/
def Occurrence.printed? : Occurrence → Option String
  | .printed line => some line
  | _ => none

/-- The line that was printed to where errors go, if one was. -/
def Occurrence.complained? : Occurrence → Option String
  | .complained line => some line
  | _ => none

section

variable {X : Type} (f : X → String) (xs : List X)

theorem printed_map : (xs.map fun x => .printed (f x)).filterMap Occurrence.printed? = xs.map f := by
  rw [List.filterMap_map]
  exact congrFun List.filterMap_eq_map xs

theorem complained_map :
    (xs.map fun x => .complained (f x)).filterMap Occurrence.complained? = xs.map f := by
  rw [List.filterMap_map]
  exact congrFun List.filterMap_eq_map xs

theorem printed_of_complained :
    (xs.map fun x => .complained (f x)).filterMap Occurrence.printed? = [] := by
  rw [List.filterMap_map]
  exact List.filterMap_eq_nil_iff.2 fun _ _ => rfl

theorem complained_of_printed :
    (xs.map fun x => .printed (f x)).filterMap Occurrence.complained? = [] := by
  rw [List.filterMap_map]
  exact List.filterMap_eq_nil_iff.2 fun _ _ => rfl

end

theorem printed?_applied (feed : Feed) (a : Assignment) :
    [feed.applied a].filterMap Occurrence.printed? = [] := by
  cases feed <;> rfl

theorem complained?_applied (feed : Feed) (a : Assignment) :
    [feed.applied a].filterMap Occurrence.complained? = [] := by
  cases feed <;> rfl

/-- Lines, each with its end. -/
def asText (lines : List String) : String := String.join (lines.map (· ++ "\n"))

theorem asText_append (lines more : List String) :
    asText (lines ++ more) = asText lines ++ asText more := by
  unfold asText
  rw [List.map_append, String.join_append]

namespace Session

/-- Everything that was printed. -/
def output (s : Session R) : String := asText (s.journal.filterMap Occurrence.printed?)

/-- Everything that was printed to where errors go. -/
def complaints (s : Session R) : String := asText (s.journal.filterMap Occurrence.complained?)

/-- What shows in news only is found among the news. -/
theorem filterMap_news {X : Type} {f : Occurrence → Option X}
    (h : ∀ o, o.isNews = false → f o = none) (s : Session R) :
    s.news.filterMap f = s.journal.filterMap f := by
  unfold news
  rw [List.filterMap_filter]
  refine congrArg (fun g => s.journal.filterMap g) (funext fun o => ?_)
  by_cases ho : o.isNews = true
  · rw [if_pos ho]
  · rw [if_neg ho, h o (by simpa using ho)]

theorem output_eq_news (s : Session R) :
    s.output = asText (s.news.filterMap Occurrence.printed?) := by
  rw [filterMap_news]
  · rfl
  · intro o ho
    cases o <;> first | rfl | cases ho

theorem complaints_eq_news (s : Session R) :
    s.complaints = asText (s.news.filterMap Occurrence.complained?) := by
  rw [filterMap_news]
  · rfl
  · intro o ho
    cases o <;> first | rfl | cases ho

end Session

/-- Keys and values are texts in UTF-8. -/
def Codec.utf8 : Codec where
  key data := .ok ((Session.decodeText data).map .text)
  value _ data := .ok ((Session.decodeText (some data)).map .text)

section

variable {r : Reader R}

/-- A reader that prints what it reports. -/
structure Reader.Prints (r : Reader R) : Prop where
  onEvent : r.onEvent = .print
  onError : r.onError = .print

theorem Reader.Prints.eventCalls (h : r.Prints) (e : Event) :
    r.eventCalls e = [.printed e.line] := by
  unfold Reader.eventCalls
  rw [h.onEvent]

theorem Reader.Prints.errorCalls (h : r.Prints) (m : Message) (code : ErrorCode) :
    r.errorCalls m code = [.complained (Session.errorLine m code)] := by
  unfold Reader.errorCalls
  rw [h.onError]

theorem Reader.Prints.clears (h : r.Prints) (ps : List Partition) :
    r.clears ps = ps.map fun p => .printed (Event.clear p).line := by
  induction ps with
  | nil => rfl
  | cons p rest ih =>
    show r.eventCalls (.clear p) ++ r.clears rest = _
    rw [h.eventCalls, ih]
    rfl

/-! ## §3. One message. -/

/-- The payload of a record that has a key. -/
theorem told_payload (t : Tracker) {m : Message} {key : String} (herror : m.error = none)
    (hkey : m.key = some (Octets.encode key)) :
    ∃ event, Codec.utf8.eventUnder m (.text key) = .ok event ∧
      Told t m event.toList [] (t.update m.partition m.offset) := by
  unfold Codec.eventUnder
  rcases hpayload : m.payload with _ | _ | ⟨octet, rest⟩
  · exact ⟨_, rfl, .deleted herror hkey (.inl hpayload)⟩
  · exact ⟨_, rfl, .deleted herror hkey (.inr hpayload)⟩
  · cases hdecoded : Octets.decode? (octet :: rest) with
    | none =>
      refine ⟨none, ?_, .unread herror (.inr (.inr ⟨_, hpayload, Octets.noText_of_decode? hdecoded⟩))⟩
      show Except.ok (((Octets.decode? (octet :: rest)).map Value.text).map _) = _
      rw [hdecoded]
      rfl
    | some value =>
      have hencoded : Octets.encode value = octet :: rest := Octets.decode?_eq_some_iff.1 hdecoded
      refine ⟨some (.set m.partition (.text key) (.text value)), ?_,
        .set herror hkey (by rw [hpayload, hencoded]) (by rw [hencoded]; exact List.cons_ne_nil _ _)⟩
      show Except.ok (((Octets.decode? (octet :: rest)).map Value.text).map _) = _
      rw [hdecoded]
      rfl

/-- A record stands for one event at most, and always moves what is tracked. -/
theorem told_record (t : Tracker) {m : Message} (herror : m.error = none) :
    ∃ event, Codec.utf8.event? m = .ok event ∧
      Told t m event.toList [] (t.update m.partition m.offset) := by
  have hasked : ∀ key, (m.key.bind Octets.decode?) = key →
      Codec.utf8.key m.key = .ok (key.map .text) := by
    intro key hkey
    rw [← hkey]
    rfl
  unfold Codec.event?
  cases hdecoded : m.key.bind Octets.decode? with
  | none =>
    rw [hasked none hdecoded]
    refine ⟨none, rfl, .unread herror ?_⟩
    cases hkey : m.key with
    | none => exact .inl rfl
    | some b =>
      rw [hkey] at hdecoded
      exact .inr (.inl ⟨b, rfl, Octets.noText_of_decode? hdecoded⟩)
  | some key =>
    rw [hasked (some key) hdecoded]
    obtain ⟨b, hkey, hb⟩ := Option.bind_eq_some_iff.1 hdecoded
    have hencoded : Octets.encode key = b := Octets.decode?_eq_some_iff.1 hb
    exact told_payload t herror (by rw [hkey, hencoded])

/-- **What is printed of a message.** -/
theorem told_message (h : r.Prints) (t : Tracker) (m : Message) :
    ∃ events codes, Told t m events codes (Codec.utf8.note t m) ∧
      Codec.utf8.told r m = events.map (fun e => .printed e.line) ++
        codes.map fun code => .complained (Session.errorLine m code) := by
  unfold Codec.note Codec.told
  cases herror : m.error with
  | some code =>
    by_cases hcode : code = .endOfPartition
    · subst hcode
      refine ⟨[.endReached m.partition], [], .endReached herror, ?_⟩
      exact h.eventCalls _
    · have hother : isEndOfPartition (some code) = false := by
        simpa [isEndOfPartition] using hcode
      refine ⟨[], [code], .failed herror hcode, ?_⟩
      simp only [hother]
      exact h.errorCalls m code
  | none =>
    obtain ⟨event, hevent, htold⟩ := told_record t herror
    simp only [hevent]
    refine ⟨event.toList, [], htold, ?_⟩
    cases event with
    | none => rfl
    | some e => exact h.eventCalls e

/-! ## §4. Several deliveries. -/

/-- **What is printed of what is delivered**, and what is tracked in the end.  The
    induction is on what is delivered. -/
theorem narrated_newsOf (h : r.Prints) (feed : Feed) (xs : List Delivery) (t : Tracker) :
    ∃ events errors, Narrated t xs events errors (xs.foldl Codec.utf8.track t) ∧
      (Codec.utf8.newsOf feed r t xs).filterMap Occurrence.printed? = events.map Event.line ∧
      (Codec.utf8.newsOf feed r t xs).filterMap Occurrence.complained? =
        errors.map fun x => Session.errorLine x.1 x.2 := by
  induction xs generalizing t with
  | nil => exact ⟨[], [], .done t, rfl, rfl⟩
  | cons x rest ih =>
    obtain ⟨events, errors, hrest, hprinted, hcomplained⟩ := ih (Codec.utf8.track t x)
    cases x with
    | rebalance left =>
      refine ⟨_, errors, .swept (t.untrackedBy_ascending (Assignment.partitions left))
        (t.mem_untrackedBy (Assignment.partitions left)) hrest, ?_, ?_⟩
      · show (r.clears _ ++ [feed.applied _] ++ Codec.newsOf _ feed r _ rest).filterMap _ = _
        rw [List.filterMap_append, List.filterMap_append, hprinted, h.clears, printed_map,
          List.map_append, List.map_map, printed?_applied, List.append_nil]
        rfl
      · show (r.clears _ ++ [feed.applied _] ++ Codec.newsOf _ feed r _ rest).filterMap _ = _
        rw [List.filterMap_append, List.filterMap_append, hcomplained, h.clears, complained_of_printed,
          complained?_applied]
        rfl
    | message m =>
      obtain ⟨first, codes, htold, hcalls⟩ := told_message h t m
      refine ⟨_, _, .message htold hrest, ?_, ?_⟩
      · show (Codec.told _ r m ++ Codec.newsOf _ feed r _ rest).filterMap _ = _
        rw [List.filterMap_append, hprinted, hcalls, List.filterMap_append, printed_map,
          printed_of_complained, List.append_nil, List.map_append]
      · show (Codec.told _ r m ++ Codec.newsOf _ feed r _ rest).filterMap _ = _
        rw [List.filterMap_append, hcomplained, hcalls, List.filterMap_append, complained_map,
          complained_of_printed, List.nil_append, List.map_append, List.map_map]
        rfl

end

end ChangeFeed
