/-
  ChangeFeed.Proofs.Interleaving — partitions do not get in each other's way.

  Two runs may be delivered the same rebalances and, between them, the same
  messages of each partition, and yet differ in how the messages of different
  partitions are interleaved.  What is tracked of a partition, and what the
  handler is told of it, depends on the deliveries that concern the partition
  and on no others.  So whenever both runs have come to the end of a segment
  they track the same, and every rebalance finds the same tracker.

  Main results:
    * `track_interleaves` — the tracker at the end of a segment.
    * `eventsOf_interleaves` — the events of one partition.
    * `rebalances_interleaves` — what is cleared and resumed at rebalances.
    * `interleaving_irrelevant` — two runs of a reader.
-/

import ChangeFeed.Proofs.Deliveries

namespace ChangeFeed

variable {R : Roles}

/-! ## §1. Deliveries that concern a partition. -/

namespace Delivery

/-- Does it concern a partition?  A rebalance concerns all of them. -/
def concerns (p : Partition) : Delivery → Bool
  | .rebalance _ => true
  | .message m => decide (m.partition = p)

def isRebalance : Delivery → Bool
  | .rebalance _ => true
  | .message _ => false

/-- The first of the deliveries, if there is one, is a rebalance. -/
def Opens (xs : List Delivery) : Prop := ∀ x, xs.head? = some x → x.isRebalance = true

/-- Both are the same rebalances and, between them, the same messages of each
    partition; messages of different partitions may be interleaved in any
    way. -/
def Interleaves (xs ys : List Delivery) : Prop :=
  ∀ p, xs.filter (concerns p) = ys.filter (concerns p)

theorem concerns_of_isRebalance {x : Delivery} (h : x.isRebalance = true) (p : Partition) :
    x.concerns p = true := by
  cases x with
  | rebalance left => rfl
  | message m => cases h

/-- Rebalances are not lost when only one partition is of concern. -/
theorem countP_filter_concerns (p : Partition) (xs : List Delivery) :
    (xs.filter (concerns p)).countP isRebalance = xs.countP isRebalance := by
  rw [List.countP_filter]
  refine List.countP_congr fun x _ => ?_
  rw [Bool.and_eq_true]
  exact ⟨And.left, fun h => ⟨h, concerns_of_isRebalance h p⟩⟩

theorem Interleaves.countP_eq {xs ys : List Delivery} (h : Interleaves xs ys) :
    xs.countP isRebalance = ys.countP isRebalance := by
  rw [← countP_filter_concerns default xs, h default, countP_filter_concerns]

theorem Opens.filter {xs : List Delivery} (h : Opens xs) (p : Partition) :
    Opens (xs.filter (concerns p)) := by
  cases xs with
  | nil => exact h
  | cons x rest =>
    have hx : x.isRebalance = true := h x rfl
    rw [List.filter_cons, if_pos (concerns_of_isRebalance hx p)]
    intro y hy
    obtain rfl := Option.some.inj hy
    exact hx

/-- A list is cut in one way only into so many rebalances and what follows. -/
theorem append_cut {as as' bs bs' : List Delivery} (h : as ++ bs = as' ++ bs')
    (hbs : Opens bs) (hbs' : Opens bs')
    (hcount : as.countP isRebalance = as'.countP isRebalance) : as = as' ∧ bs = bs' := by
  -- what one part has more than the other holds no rebalance, and so nothing
  have hnil : ∀ {cs ds : List Delivery}, Opens (cs ++ ds) → cs.countP isRebalance = 0 →
      cs = [] := by
    intro cs ds hopens hzero
    cases cs with
    | nil => rfl
    | cons c rest =>
      have hc : c.isRebalance = true := hopens c rfl
      rw [List.countP_cons_of_pos hc] at hzero
      omega
  rcases List.append_eq_append_iff.1 h with ⟨cs, rfl, rfl⟩ | ⟨cs, rfl, rfl⟩
  · rw [List.countP_append] at hcount
    obtain rfl := hnil hbs (by omega)
    simp
  · rw [List.countP_append] at hcount
    obtain rfl := hnil hbs' (by omega)
    simp

/-- **What is interleaved as a whole is interleaved up to each rebalance and
    from there on.** -/
theorem Interleaves.cut {xs xs' ys ys' : List Delivery}
    (h : Interleaves (xs ++ xs') (ys ++ ys')) (hxs : Opens xs') (hys : Opens ys')
    (hcount : xs.countP isRebalance = ys.countP isRebalance) :
    Interleaves xs ys ∧ Interleaves xs' ys' := by
  have hcut : ∀ p, xs.filter (concerns p) = ys.filter (concerns p) ∧
      xs'.filter (concerns p) = ys'.filter (concerns p) := by
    intro p
    have hp := h p
    rw [List.filter_append, List.filter_append] at hp
    refine append_cut hp (hxs.filter p) (hys.filter p) ?_
    rw [countP_filter_concerns, countP_filter_concerns, hcount]
  exact ⟨fun p => (hcut p).1, fun p => (hcut p).2⟩

/-- Neighbouring messages of different partitions may change places. -/
theorem interleaves_swap {m n : Message} (h : m.partition ≠ n.partition) (xs ys : List Delivery) :
    Interleaves (xs ++ .message m :: .message n :: ys) (xs ++ .message n :: .message m :: ys) := by
  intro p
  rw [List.filter_append, List.filter_append]
  refine congrArg _ ?_
  by_cases hm : m.partition = p
  · have hn : concerns p (.message n) = false := decide_eq_false fun hn => h (hm.trans hn.symm)
    simp only [List.filter_cons, hn, Bool.false_eq_true, if_false]
  · have hm : concerns p (.message m) = false := decide_eq_false hm
    simp only [List.filter_cons, hm, Bool.false_eq_true, if_false]

/-- The first rebalance, if there is any, and the messages before it. -/
theorem split_at_rebalance (xs : List Delivery) :
    xs.countP isRebalance = 0 ∨ ∃ before left after,
      xs = before ++ .rebalance left :: after ∧ before.countP isRebalance = 0 := by
  induction xs with
  | nil => exact .inl rfl
  | cons x rest ih =>
    cases x with
    | rebalance left => exact .inr ⟨[], left, rest, rfl, rfl⟩
    | message m =>
      rcases ih with hzero | ⟨before, left, after, rfl, hbefore⟩
      · exact .inl (by rw [List.countP_cons_of_neg (by simp [isRebalance]), hzero])
      · refine .inr ⟨.message m :: before, left, after, rfl, ?_⟩
        rw [List.countP_cons_of_neg (by simp [isRebalance]), hbefore]

end Delivery

/-! ## §2. The tracker. -/

namespace Tracker

/-- What is kept of some partitions depends on nothing else. -/
theorem restrict_congr {t u : Tracker} {kept : List Partition}
    (h : ∀ p ∈ kept, t.find? p = u.find? p) : t.restrict kept = u.restrict kept := by
  refine ext fun p => ?_
  rw [find?_restrict, find?_restrict]
  by_cases hp : p ∈ kept
  · rw [if_pos hp, if_pos hp, h p hp]
  · rw [if_neg hp, if_neg hp]

theorem untrackedBy_restrict (t : Tracker) (only kept : List Partition) :
    (t.restrict only).untrackedBy kept = (t.untrackedBy kept).filter fun p => only.contains p := by
  show ((t.entries.filter fun e => only.contains e.1).map Prod.fst).filter _ =
    ((t.entries.map Prod.fst).filter _).filter _
  rw [List.filter_map, List.filter_map, List.filter_map, List.filter_filter, List.filter_filter]
  refine congrArg _ (List.filter_congr fun e _ => ?_)
  exact Bool.and_comm _ _

end Tracker

namespace Codec

variable {d : Codec} {t u : Tracker} {p : Partition} {xs ys : List Delivery}

/-- A message matters to what is tracked of its own partition only. -/
theorem find?_note_of_ne (d : Codec) (t : Tracker) {m : Message} (h : m.partition ≠ p) :
    (d.note t m).find? p = t.find? p := by
  unfold note
  split
  · rw [Tracker.find?_update, if_neg (Ne.symm h)]
  · rfl

/-- **What a delivery makes of a partition** depends on what was tracked of that
    partition. -/
theorem find?_track_congr (d : Codec) (h : t.find? p = u.find? p) (x : Delivery) :
    (d.track t x).find? p = (d.track u x).find? p := by
  cases x with
  | rebalance left =>
    show (t.restrict _).find? p = (u.restrict _).find? p
    rw [Tracker.find?_restrict, Tracker.find?_restrict, h]
  | message m =>
    show (d.note t m).find? p = (d.note u m).find? p
    unfold note
    split
    · rw [Tracker.find?_update, Tracker.find?_update, h]
    · exact h

theorem find?_track_of_not_concerns (d : Codec) (t : Tracker) {x : Delivery}
    (h : x.concerns p = false) : (d.track t x).find? p = t.find? p := by
  cases x with
  | rebalance left => cases h
  | message m => exact d.find?_note_of_ne t (of_decide_eq_false h)

/-- What is tracked of a partition in the end, from the deliveries that concern
    it. -/
theorem find?_foldl_track (d : Codec) (h : t.find? p = u.find? p) (xs : List Delivery) :
    (xs.foldl d.track t).find? p =
      ((xs.filter (Delivery.concerns p)).foldl d.track u).find? p := by
  induction xs generalizing t u with
  | nil => exact h
  | cons x rest ih =>
    rw [List.foldl_cons]
    cases hx : x.concerns p with
    | true =>
      rw [List.filter_cons_of_pos hx, List.foldl_cons]
      exact ih (d.find?_track_congr h x)
    | false =>
      rw [List.filter_cons_of_neg (by simp [hx])]
      exact ih ((d.find?_track_of_not_concerns t hx).trans h)

/-- **How partitions are interleaved does not matter to what is tracked.** -/
theorem track_interleaves (h : Delivery.Interleaves xs ys) (t : Tracker) :
    xs.foldl d.track t = ys.foldl d.track t := by
  refine Tracker.ext fun p => ?_
  calc (xs.foldl d.track t).find? p
      = ((xs.filter (Delivery.concerns p)).foldl d.track t).find? p := d.find?_foldl_track rfl xs
    _ = ((ys.filter (Delivery.concerns p)).foldl d.track t).find? p := by rw [h p]
    _ = (ys.foldl d.track t).find? p := (d.find?_foldl_track rfl ys).symm

end Codec

/-! ## §3. The events of one partition. -/

/-- Is it the telling of an event of this partition? -/
def Occurrence.tellsOf (p : Partition) : Occurrence → Bool
  | .event _ e => decide (e.source = p)
  | _ => false

/-- Is it part of a rebalance: a clear event, or an assignment that the source
    takes over? -/
def Occurrence.isRebalancing : Occurrence → Bool
  | .event _ (.clear _) => true
  | .assigned _ | .assign _ => true
  | _ => false

section

variable {d : Codec} {feed : Feed} {r : Reader R} {h : R.EventHandler} {p : Partition}

theorem Reader.eventCalls_of_custom (hr : r.onEvent = .custom h) (e : Event) :
    r.eventCalls e = [.event r.name e] := by
  unfold Reader.eventCalls
  rw [hr]

/-- Of its partition's elements a record says one thing or another, but not that
    they are void. -/
theorem Codec.event?_ok {m : Message} {e : Event} (he : d.event? m = .ok (some e)) :
    e.source = m.partition ∧ ∀ q, e ≠ .clear q := by
  unfold Codec.event? at he
  generalize d.key m.key = asked at he
  rcases asked with f | _ | key
  · cases he
  · cases he
  simp only [Codec.eventUnder] at he
  generalize m.payload = payload at he
  rcases payload with _ | _ | ⟨octet, rest⟩
  · cases he
    exact ⟨rfl, fun q hq => by cases hq⟩
  · cases he
    exact ⟨rfl, fun q hq => by cases hq⟩
  · simp only at he
    generalize d.value key (octet :: rest) = asked at he
    rcases asked with f | _ | value
    · cases he
    · cases he
    · cases he
      exact ⟨rfl, fun q hq => by cases hq⟩

/-- What is told of a message concerns its partition, and is no rebalance. -/
theorem Codec.told_cases (hr : r.onEvent = .custom h) (m : Message) :
    (∃ e, d.told r m = [.event r.name e] ∧ e.source = m.partition ∧ ∀ q, e ≠ .clear q) ∨
      ∀ o ∈ d.told r m, o.isRebalancing = false ∧ ∀ q, o.tellsOf q = false := by
  unfold Codec.told
  cases m.error with
  | some code =>
    simp only
    split
    · exact .inl ⟨_, r.eventCalls_of_custom hr _, rfl, fun q hq => by cases hq⟩
    · refine .inr fun o ho => ?_
      unfold Reader.errorCalls at ho
      split at ho <;> simp only [List.mem_singleton, List.not_mem_nil] at ho
      · exact ⟨by rw [ho]; rfl, fun q => by rw [ho]; rfl⟩
      · exact ⟨by rw [ho]; rfl, fun q => by rw [ho]; rfl⟩
  | none =>
    simp only
    split
    · next e he =>
      obtain ⟨hsource, hclear⟩ := Codec.event?_ok he
      exact .inl ⟨e, r.eventCalls_of_custom hr e, hsource, hclear⟩
    · exact .inr fun o ho => by cases ho

theorem Codec.told_other (hr : r.onEvent = .custom h) {m : Message} (hm : m.partition ≠ p) :
    (d.told r m).filter (Occurrence.tellsOf p) = [] := by
  rcases Codec.told_cases (d := d) hr m with ⟨e, htold, hsource, -⟩ | hnone
  · have hother : (Occurrence.event r.name e).tellsOf p = false :=
      decide_eq_false (by rw [hsource]; exact hm)
    rw [htold, List.filter_cons_of_neg (by simp [hother])]
    rfl
  · rw [List.filter_eq_nil_iff]
    intro o ho
    rw [(hnone o ho).2 p]
    exact Bool.false_ne_true

theorem Codec.told_message (hr : r.onEvent = .custom h) (m : Message) :
    (d.told r m).filter Occurrence.isRebalancing = [] := by
  rw [List.filter_eq_nil_iff]
  intro o ho
  rcases Codec.told_cases (d := d) hr m with ⟨e, htold, -, hclear⟩ | hnone
  · rw [htold, List.mem_singleton] at ho
    rw [ho]
    cases e with
    | clear q => exact absurd rfl (hclear q)
    | set q key value => exact Bool.false_ne_true
    | delete q key => exact Bool.false_ne_true
    | endReached q => exact Bool.false_ne_true
  · rw [(hnone o ho).1]
    exact Bool.false_ne_true

theorem tellsOf_applied (feed : Feed) (a : Assignment) :
    [feed.applied a].filter (Occurrence.tellsOf p) = [] := by
  cases feed <;> rfl

/-- Of a partition that is swept or not, the handler is told by what is tracked
    of it. -/
theorem filter_clears (hr : r.onEvent = .custom h) (t : Tracker) (kept : List Partition) :
    (r.clears (t.untrackedBy kept)).filter (Occurrence.tellsOf p) =
      r.clears ((t.restrict [p]).untrackedBy kept) := by
  have honly : (fun q => [p].contains q) = fun q : Partition => decide (q = p) := by
    funext q
    simp
  rw [Tracker.untrackedBy_restrict, Reader.clears_of_custom hr, Reader.clears_of_custom hr,
    List.filter_map, honly]
  rfl

/-- **The events of a partition**, from the deliveries that concern it.  Whether
    it is swept depends on what was tracked of it. -/
theorem Codec.newsOf_about (hr : r.onEvent = .custom h) {t u : Tracker}
    (htu : t.find? p = u.find? p) (xs : List Delivery) :
    (d.newsOf feed r t xs).filter (Occurrence.tellsOf p) =
      (d.newsOf feed r u (xs.filter (Delivery.concerns p))).filter (Occurrence.tellsOf p) := by
  induction xs generalizing t u with
  | nil => rfl
  | cons x rest ih =>
    show (d.news feed r t x ++ d.newsOf feed r (d.track t x) rest).filter _ = _
    rw [List.filter_append]
    cases hx : x.concerns p with
    | false =>
      rw [List.filter_cons_of_neg (by simp [hx])]
      have hnothing : (d.news feed r t x).filter (Occurrence.tellsOf p) = [] := by
        cases x with
        | rebalance left => cases hx
        | message m => exact Codec.told_other hr (of_decide_eq_false hx)
      rw [hnothing, List.nil_append]
      exact ih ((d.find?_track_of_not_concerns t hx).trans htu)
    | true =>
      rw [List.filter_cons_of_pos hx]
      show _ = (d.news feed r u x ++ d.newsOf feed r (d.track u x) _).filter _
      rw [List.filter_append, ih (d.find?_track_congr htu x)]
      refine congrArg (· ++ _) ?_
      cases x with
      | message m => rfl
      | rebalance left =>
        have honly : t.restrict [p] = u.restrict [p] :=
          Tracker.restrict_congr fun q hq => by rw [List.mem_singleton.1 hq, htu]
        show (r.clears _ ++ [feed.applied _]).filter _ = (r.clears _ ++ [feed.applied _]).filter _
        rw [List.filter_append, List.filter_append, tellsOf_applied, tellsOf_applied,
          filter_clears hr, filter_clears hr, honly]

/-- **How partitions are interleaved does not matter to the events of any one of
    them.** -/
theorem Codec.eventsOf_interleaves (hr : r.onEvent = .custom h) {xs ys : List Delivery}
    (hxy : Delivery.Interleaves xs ys) (t : Tracker) (p : Partition) :
    (d.newsOf feed r t xs).filter (Occurrence.tellsOf p) =
      (d.newsOf feed r t ys).filter (Occurrence.tellsOf p) := by
  rw [Codec.newsOf_about hr rfl xs, hxy p, ← Codec.newsOf_about hr rfl ys]

/-! ## §4. Rebalances. -/

/-- Messages are no part of a rebalance. -/
theorem Codec.newsOf_messages (hr : r.onEvent = .custom h) {xs : List Delivery}
    (hxs : xs.countP Delivery.isRebalance = 0) (t : Tracker) :
    (d.newsOf feed r t xs).filter Occurrence.isRebalancing = [] := by
  induction xs generalizing t with
  | nil => rfl
  | cons x rest ih =>
    cases x with
    | rebalance left =>
      rw [List.countP_cons_of_pos rfl] at hxs
      omega
    | message m =>
      rw [List.countP_cons_of_neg (by simp [Delivery.isRebalance])] at hxs
      show (d.told r m ++ d.newsOf feed r _ rest).filter _ = []
      rw [List.filter_append, Codec.told_message hr, ih hxs]
      rfl

/-- What becomes known of rebalances, the first one split off. -/
theorem Codec.newsOf_split (hr : r.onEvent = .custom h) {before : List Delivery}
    (hbefore : before.countP Delivery.isRebalance = 0) (left : Assignment)
    (after : List Delivery) (t : Tracker) :
    (d.newsOf feed r t (before ++ .rebalance left :: after)).filter Occurrence.isRebalancing =
      (d.news feed r (before.foldl d.track t) (.rebalance left)).filter
          Occurrence.isRebalancing ++
        (d.newsOf feed r (d.track (before.foldl d.track t) (.rebalance left)) after).filter
          Occurrence.isRebalancing := by
  rw [Codec.newsOf_append, List.filter_append, Codec.newsOf_messages hr hbefore, List.nil_append,
    Codec.newsOf, List.filter_append]

/-- **How partitions are interleaved does not matter to any rebalance.**  The
    induction is on the number of rebalances: each finds the tracker that the
    segment before it left. -/
theorem Codec.rebalances_interleaves (hr : r.onEvent = .custom h) {n : Nat}
    {xs ys : List Delivery} (hxy : Delivery.Interleaves xs ys)
    (hn : xs.countP Delivery.isRebalance = n) (t : Tracker) :
    (d.newsOf feed r t xs).filter Occurrence.isRebalancing =
      (d.newsOf feed r t ys).filter Occurrence.isRebalancing := by
  induction n generalizing xs ys t with
  | zero =>
    rw [Codec.newsOf_messages hr hn, Codec.newsOf_messages hr (hxy.countP_eq ▸ hn)]
  | succ n ih =>
    have hn' : ys.countP Delivery.isRebalance = n + 1 := hxy.countP_eq ▸ hn
    rcases Delivery.split_at_rebalance xs with h | ⟨before, left, after, rfl, hbefore⟩
    · omega
    rcases Delivery.split_at_rebalance ys with h | ⟨before', left', after', rfl, hbefore'⟩
    · omega
    have hopens : ∀ left after, Delivery.Opens (.rebalance left :: after) := by
      intro left after x hx
      obtain rfl := Option.some.inj hx
      rfl
    obtain ⟨hfirst, hrest⟩ := hxy.cut (hopens left after) (hopens left' after')
      (hbefore.trans hbefore'.symm)
    -- both start with their first rebalance, so it is the same one
    have hhead : ∀ p, left = left' ∧
        after.filter (Delivery.concerns p) = after'.filter (Delivery.concerns p) := by
      intro p
      have hp := hrest p
      rw [List.filter_cons_of_pos rfl, List.filter_cons_of_pos rfl] at hp
      obtain ⟨hleft, hafter⟩ := List.cons.inj hp
      cases hleft
      exact ⟨rfl, hafter⟩
    obtain rfl : left = left' := (hhead default).1
    have hafter : after.countP Delivery.isRebalance = n := by
      rw [List.countP_append, List.countP_cons_of_pos rfl] at hn
      omega
    rw [Codec.newsOf_split hr hbefore, Codec.newsOf_split hr hbefore',
      Codec.track_interleaves hfirst t, ih (fun p => (hhead p).2) hafter]

end

/-! ## §5. Two runs. -/

namespace Session

/-- Two sessions in which the same has become of a reader: it tracks the same,
    its handler was told the same of each partition, and at every rebalance the
    same partitions were cleared, in the same order, and the same offsets were
    written. -/
structure SameOutcome (serial : Nat) (s t : Session R) : Prop where
  tracker : s.tracker serial = t.tracker serial
  events : ∀ p, s.journal.filter (Occurrence.tellsOf p) = t.journal.filter (Occurrence.tellsOf p)
  rebalances :
    s.journal.filter Occurrence.isRebalancing = t.journal.filter Occurrence.isRebalancing

theorem filter_news (s : Session R) {keep : Occurrence → Bool}
    (h : ∀ o, keep o = true → o.isNews = true) :
    s.journal.filter keep = s.news.filter keep := by
  show _ = (s.journal.filter Occurrence.isNews).filter keep
  rw [List.filter_filter]
  refine List.filter_congr fun o _ => ?_
  cases hkeep : keep o with
  | false => rfl
  | true => rw [h o hkeep]; rfl

theorem isNews_of_tellsOf {p : Partition} (o : Occurrence) (h : o.tellsOf p = true) :
    o.isNews = true := by
  cases o <;> first | rfl | cases h

theorem isNews_of_isRebalancing (o : Occurrence) (h : o.isRebalancing = true) :
    o.isNews = true := by
  cases o <;> first | rfl | cases h

variable {C : Conduct R} {base : Listener} {r : Reader R} {d : Codec} {s : Session R}
  {serial : Nat} {h : R.EventHandler}

/-- Two runs that are delivered the same but for the interleaving. -/
theorem sameOutcome_of_interleaves (hC : C.Reads r d) (hr : r.onEvent = .custom h)
    (hbase : ∀ a o, (C.hear base a o).Ordinary) (hs : s.Stands serial base r)
    {xs ys : List Stride}
    (hxy : Delivery.Interleaves (s.delivered C base serial xs) (s.delivered C base serial ys)) :
    SameOutcome serial (s.strides C.environment serial xs)
      (s.strides C.environment serial ys) := by
  have hxs := hs.tracks.strides hC hbase xs
  have hys := hs.tracks.strides hC hbase ys
  refine ⟨?_, fun p => ?_, ?_⟩
  · rw [tracker_of_reader? hxs.stands.reader, tracker_of_reader? hys.stands.reader]
    exact Codec.track_interleaves hxy r.tracker
  · rw [filter_news _ isNews_of_tellsOf, filter_news _ isNews_of_tellsOf, hxs.news, hys.news,
      List.filter_append, List.filter_append, Codec.eventsOf_interleaves hr hxy]
  · rw [filter_news _ isNews_of_isRebalancing, filter_news _ isNews_of_isRebalancing, hxs.news,
      hys.news, List.filter_append, List.filter_append, Codec.rebalances_interleaves hr hxy rfl]

/-- **Partitions are independent.**  Two runs of a reader, whose decoders depend
    on nothing but what they are given and whose handler takes every event, are
    delivered the same rebalances and, between them, the same messages of each
    partition.  Then the same has become of the reader whenever both runs have
    come to the end of the same segment, however different partitions were
    interleaved. -/
theorem interleaving_irrelevant (hC : C.Reads r d) (hr : r.onEvent = .custom h)
    (hbase : ∀ a o, (C.hear base a o).Ordinary) (hs : s.Stands serial base r)
    (before after before' after' : List Stride)
    (hxy : Delivery.Interleaves (s.delivered C base serial (before ++ after))
      (s.delivered C base serial (before' ++ after')))
    (hafter : Delivery.Opens
      ((s.strides C.environment serial before).delivered C base serial after))
    (hafter' : Delivery.Opens
      ((s.strides C.environment serial before').delivered C base serial after'))
    (hcount : (s.delivered C base serial before).countP Delivery.isRebalance =
      (s.delivered C base serial before').countP Delivery.isRebalance) :
    SameOutcome serial (s.strides C.environment serial before)
      (s.strides C.environment serial before') := by
  unfold delivered at hxy
  rw [gathered_append, gathered_append] at hxy
  exact sameOutcome_of_interleaves hC hr hbase hs (hxy.cut hafter hafter' hcount).1

end Session

namespace Sample

/-- Nothing is made of octets. -/
def plain : Codec := ⟨fun data => .ok (data.map .octets), fun _ data => .ok (some (.octets data))⟩

/-- A reader with a handler that takes every event. -/
def taking : Reader roles := reader "p" false []

theorem taking_reads : conduct.Reads taking plain := ⟨fun _ _ => rfl, fun _ _ _ => rfl, fun _ _ => rfl⟩

/-- The source on which it stands. -/
def taken : Session roles :=
  { blank with readers := [taking], installed := .reader 0 .nobody }

/-- Two partitions are assigned. -/
def assigning : Session.Stride :=
  (none, { Turn.idle with assign := some [⟨partition 0, none⟩, ⟨partition 1, none⟩] })

/-- Only the second one stays assigned. -/
def revoking : Session.Stride := (none, { Turn.idle with assign := some [⟨partition 1, none⟩] })

end Sample

/-- Two records of different partitions between the rebalances, in one order and
    in the other: up to the second rebalance, and with it. -/
theorem interleaving_irrelevant_to_sample :
    Session.SameOutcome 0
        (Sample.taken.strides Sample.conduct.environment 0
          [Sample.assigning, (none, Sample.delivery 0 3), (none, Sample.delivery 1 9)])
        (Sample.taken.strides Sample.conduct.environment 0
          [Sample.assigning, (none, Sample.delivery 1 9), (none, Sample.delivery 0 3)]) ∧
      Session.SameOutcome 0
        (Sample.taken.strides Sample.conduct.environment 0
          [Sample.assigning, (none, Sample.delivery 0 3), (none, Sample.delivery 1 9),
            Sample.revoking])
        (Sample.taken.strides Sample.conduct.environment 0
          [Sample.assigning, (none, Sample.delivery 1 9), (none, Sample.delivery 0 3),
            Sample.revoking]) := by
  have hs : Sample.taken.Stands 0 .nobody Sample.taking := ⟨rfl, rfl, rfl, rfl⟩
  -- what is delivered is what the transport brings, from the start and later on
  have hlater : ∀ before run,
      (Sample.taken.strides Sample.conduct.environment 0 before).delivered Sample.conduct .nobody 0
        run = run.flatMap fun x => x.2.brings .direct := fun before =>
    (hs.tracks.strides Sample.taking_reads Sample.conduct.hear_nobody before).delivered
      Sample.taking_reads fun _ _ => rfl
  have hbrings : ∀ run, Sample.taken.delivered Sample.conduct .nobody 0 run =
      run.flatMap fun x => x.2.brings .direct := hlater []
  have hxy : Delivery.Interleaves
      (Sample.taken.delivered Sample.conduct .nobody 0
        [Sample.assigning, (none, Sample.delivery 0 3), (none, Sample.delivery 1 9),
          Sample.revoking])
      (Sample.taken.delivered Sample.conduct .nobody 0
        [Sample.assigning, (none, Sample.delivery 1 9), (none, Sample.delivery 0 3),
          Sample.revoking]) := by
    rw [hbrings, hbrings]
    exact Delivery.interleaves_swap (by decide) [_] [_]
  refine ⟨?_, ?_⟩
  · refine Session.interleaving_irrelevant Sample.taking_reads rfl Sample.conduct.hear_nobody hs
      _ [Sample.revoking] _ [Sample.revoking] hxy ?_ ?_ ?_
    · rw [hlater]
      rintro x ⟨⟩
      rfl
    · rw [hlater]
      rintro x ⟨⟩
      rfl
    · rw [hbrings, hbrings]
      rfl
  · refine Session.interleaving_irrelevant Sample.taking_reads rfl Sample.conduct.hear_nobody hs
      _ [] _ [] hxy ?_ ?_ ?_
    · rintro x ⟨⟩
    · rintro x ⟨⟩
    · exact hxy.countP_eq

end ChangeFeed
