/-
  ChangeFeed.Proofs.Timestamps — which of two records shows the smaller time.

  The second that a record shows is that of its time after rounding to millionths, so that
  the last instants of a second are shown as the next one; the thousandths beside it are
  cut off.  They are not padded either, so among records of one second not the thousandths
  are compared but their digits, from the first one on.

  Times are in order, then, if the earlier one is not rounded to another second and, where
  both are of one second, their thousandths have as many digits.

  Main results:
    * `Log.Timestamp.milli_lt` — fewer than a thousand thousandths go with a time.
    * `Log.Timestamp.shownSecond_cases` — which times are shown in another second.
    * `Log.momentText_lt_iff` — how shown moments compare.
    * `Log.Record.start_eq` — where a record shows its time.
    * `Log.Record.times_compare` — how the times of records compare.
-/

import ChangeFeed.Log.Record
import ChangeFeed.Proofs.CalendarOrder
import ChangeFeed.Proofs.Rounding

namespace ChangeFeed

namespace Log

/-! ## §1. Seconds and thousandths. -/

namespace Timestamp

/-- The whole seconds of a time. -/
def second : Timestamp → Int
  | .whole n => n
  | .real (.finite s m e) => Double.truncate s m e
  | .real _ => 0

/-- The thousandths that are set with a time when a record is made: what is whole of those
    of its fraction, which are rounded to binary. -/
def milli : Timestamp → Nat
  | .real (.finite _ m e) =>
    let (num, den) := Double.magnitude m e
    match Double.round false (num % den * 1000) den with
    | .finite _ m e => (Double.magnitude m e).1 / (Double.magnitude m e).2
    | _ => 0
  | _ => 0

/-- The second that is shown of a time. -/
def shownSecond (t : Timestamp) : Int :=
  match t.micros? with
  | .ok micros => micros / 1000000
  | .error _ => 0

/-- A time from 1970 on.  Its mantissa has no more places than there is room for, like that of
    every number that was rounded. -/
def Counted : Timestamp → Prop
  | .whole n => 0 ≤ n
  | .real (.finite s m _) => m < 2 ^ Double.precision ∧ (s = true → m = 0)
  | .real _ => False

/-- One time is of an earlier second than another, or of fewer thousandths of one second. -/
def Earlier (t u : Timestamp) : Prop :=
  t.second < u.second ∨ t.second = u.second ∧ t.milli < u.milli

end Timestamp

/-! ## §2. The fraction of a second. -/

section

variable {m : Nat} {e : Int}

/-- What is left of a number without its whole part. -/
def fraction (m : Nat) (e : Int) : ℚ :=
  ((Double.magnitude m e).1 % (Double.magnitude m e).2 : Nat) / (Double.magnitude m e).2

theorem magnitude_pos (m : Nat) (e : Int) : 0 < (Double.magnitude m e).2 :=
  Nat.pow_pos (by decide)

/-- The fraction is short of one by its last place at least. -/
theorem fraction_le (hm : m < 2 ^ 53) (e : Int) : fraction m e ≤ 1 - 1 / 2 ^ 53 := by
  have hpos : (0 : ℚ) < (Double.magnitude m e).2 := by exact_mod_cast magnitude_pos m e
  have hden := Nat.mod_lt (Double.magnitude m e).1 (magnitude_pos m e)
  have hmantissa : (Double.magnitude m e).1 % (Double.magnitude m e).2 < 2 ^ 53 := by
    show m * 2 ^ e.toNat % 2 ^ (-e).toNat < 2 ^ 53
    by_cases he : 0 ≤ e
    · have hnone : (-e).toNat = 0 := by omega
      rw [hnone, pow_zero, Nat.mod_one]
      positivity
    · have hnone : e.toNat = 0 := by omega
      rw [hnone, pow_zero, mul_one]
      exact (Nat.mod_le _ _).trans_lt hm
  unfold fraction
  generalize (Double.magnitude m e).1 % (Double.magnitude m e).2 = r at hden hmantissa ⊢
  generalize (Double.magnitude m e).2 = den at hpos hden ⊢
  have hnat : r * 2 ^ 53 + den ≤ den * 2 ^ 53 := by
    rcases le_total den (2 ^ 53) with hle | hle <;> nlinarith
  have hrat : (r * 2 ^ 53 + den : ℚ) ≤ den * 2 ^ 53 := by exact_mod_cast hnat
  rw [div_le_iff₀ hpos]
  linarith

/-- A multiple of the fraction, as it comes out in binary. -/
theorem scaled_near (hm : m < 2 ^ 53) (e : Int) (scale : Nat) {j : Nat} (hscale : scale ≤ 2 ^ j)
    (hj : j ≤ 1000) :
    ∃ m' e', Double.round false
        ((Double.magnitude m e).1 % (Double.magnitude m e).2 * scale) (Double.magnitude m e).2 =
          .finite false m' e' ∧
      |Double.size m' e' - fraction m e * scale| ≤ 2 ^ ((j : Int) - 54) := by
  have hfraction : (((Double.magnitude m e).1 % (Double.magnitude m e).2 * scale : Nat) : ℚ) /
      (Double.magnitude m e).2 = fraction m e * scale := by
    unfold fraction
    push_cast
    ring
  have hscale' : (scale : ℚ) ≤ 2 ^ j := by exact_mod_cast hscale
  have hless : fraction m e * scale < 2 ^ j := by
    have hle := fraction_le hm e
    have hone : fraction m e < 1 := hle.trans_lt (by norm_num)
    have hfirst : 0 ≤ fraction m e := by unfold fraction; positivity
    calc fraction m e * scale ≤ fraction m e * 2 ^ j := by gcongr
      _ < 1 * 2 ^ j := by gcongr
      _ = 2 ^ j := one_mul _
  rw [← hfraction] at hless ⊢
  exact Double.round_near (magnitude_pos m e) hless hj

theorem size_lt_iff (m : Nat) (e : Int) (n : Nat) :
    (Double.magnitude m e).1 / (Double.magnitude m e).2 < n ↔ Double.size m e < n := by
  have hpos : (0 : ℚ) < (Double.magnitude m e).2 := by exact_mod_cast magnitude_pos m e
  rw [Nat.div_lt_iff_lt_mul (magnitude_pos m e), ← Double.magnitude_eq, div_lt_iff₀ hpos]
  exact_mod_cast Iff.rfl

/-- The thousandths of a fraction, up to what is lost by rounding them. -/
theorem milli_near (hm : m < 2 ^ 53) (s : Bool) (e : Int) :
    ∃ x : ℚ, |x - fraction m e * 1000| ≤ 2 ^ (-44 : Int) ∧
      ∀ n : Nat, Timestamp.milli (.real (.finite s m e)) < n ↔ x < n := by
  obtain ⟨m', e', hround, hnear⟩ := scaled_near hm e 1000 (j := 10) (by norm_num)
    (by norm_num)
  refine ⟨Double.size m' e', by simpa using hnear, fun n => ?_⟩
  rw [← size_lt_iff]
  unfold Timestamp.milli
  dsimp only
  rw [hround]

theorem micros?_finite (s : Bool) {num den m' : Nat} {e' : Int}
    (hpair : Double.magnitude m e = (num, den))
    (hround : Double.round false (num % den * 1000000) den = .finite false m' e') :
    Timestamp.micros? (.real (.finite s m e)) =
      let (n, d) := Double.magnitude m' e'
      let micros : Int := (num / den * 1000000 + Double.roundQuotient n d : Nat)
      .ok (if s then -micros else micros) := by
  -- what is rounded is a product with a large number, and must not be opened
  rw [Timestamp.micros?, hpair]
  simp only [hround]

/-- The millionths of a time, up to what is lost by rounding those of its fraction. -/
theorem micros_near (hm : m < 2 ^ 53) {s : Bool} (hs : s = true → m = 0) (e : Int) :
    ∃ q : Nat, |(q : ℚ) - fraction m e * 1000000| ≤ 1 / 2 + 2 ^ (-34 : Int) ∧
      Timestamp.micros? (.real (.finite s m e)) =
        .ok ((Double.magnitude m e).1 / (Double.magnitude m e).2 * 1000000 + q : Nat) := by
  obtain ⟨m', e', hround, hnear⟩ := scaled_near hm e 1000000 (j := 20) (by norm_num)
    (by norm_num)
  have hhalf := Double.roundQuotient_near (Double.magnitude m' e').1 (magnitude_pos m' e')
  rw [Double.magnitude_eq] at hhalf
  generalize hq : Double.roundQuotient (Double.magnitude m' e').1 (Double.magnitude m' e').2 = q
    at hhalf
  have hmillionths : |(q : ℚ) - fraction m e * 1000000| ≤ 1 / 2 + 2 ^ (-34 : Int) := by
    have htriangle := abs_sub_le (q : ℚ) (Double.size m' e') (fraction m e * 1000000)
    norm_num at hnear
    linarith
  refine ⟨q, hmillionths, ?_⟩
  have hpair : Double.magnitude m e = ((Double.magnitude m e).1, (Double.magnitude m e).2) := rfl
  rw [micros?_finite s hpair hround]
  simp only [hq]
  cases s with
  | false => rw [if_neg Bool.false_ne_true]
  | true =>
    -- a time before 1970 can only be zero
    obtain rfl := hs rfl
    have hnone : q = 0 := by
      have hfraction : fraction 0 e = 0 := by simp [fraction, Double.magnitude]
      rw [hfraction, zero_mul, sub_zero, abs_of_nonneg (by positivity)] at hmillionths
      have hlt : (q : ℚ) < 1 := by
        norm_num at hmillionths
        linarith
      exact_mod_cast Nat.lt_one_iff.1 (by exact_mod_cast hlt)
    simp [hnone, Double.magnitude]

end

namespace Timestamp

theorem Counted.cases {t : Timestamp} (ht : t.Counted) :
    (∃ n, t = .whole n) ∨
      ∃ s m e, t = .real (.finite s m e) ∧ m < 2 ^ 53 ∧ (s = true → m = 0) := by
  cases t with
  | whole n => exact .inl ⟨n, rfl⟩
  | real x =>
    cases x with
    | nan => cases ht
    | infinite s => cases ht
    | finite s m e => exact .inr ⟨s, m, e, rfl, ht⟩

/-- **Fewer than a thousand thousandths go with a time.** -/
theorem milli_lt {t : Timestamp} (ht : t.Counted) : t.milli < 1000 := by
  obtain ⟨n, rfl⟩ | ⟨s, m, e, rfl, hm, -⟩ := ht.cases
  · exact Nat.zero_lt_succ _
  · obtain ⟨x, hnear, hlt⟩ := milli_near hm s e
    have hfraction := fraction_le hm e
    have habove := (abs_le.1 hnear).2
    refine (hlt 1000).2 ?_
    norm_num at hfraction habove ⊢
    linarith

section

variable {s : Bool} {m q : Nat} {e : Int}

theorem second_finite (hs : s = true → m = 0) :
    second (.real (.finite s m e)) =
      ((Double.magnitude m e).1 / (Double.magnitude m e).2 : Nat) := by
  cases s with
  | false => rfl
  | true =>
    obtain rfl := hs rfl
    simp [second, Double.truncate, Double.magnitude]

/-- The millionths of the fraction come to a second of their own or to none. -/
theorem shownSecond_finite (hs : s = true → m = 0)
    (hmicros : micros? (.real (.finite s m e)) =
      .ok ((Double.magnitude m e).1 / (Double.magnitude m e).2 * 1000000 + q : Nat)) :
    shownSecond (.real (.finite s m e)) =
      second (.real (.finite s m e)) + (q / 1000000 : Nat) := by
  unfold shownSecond
  rw [hmicros, second_finite hs]
  dsimp only
  omega

/-- A fraction that is rounded to a whole second has no thousandth left. -/
theorem milli_of_carried (hm : m < 2 ^ 53) (hs : s = true → m = 0)
    (hq : |((1000000 : Nat) : ℚ) - fraction m e * 1000000| ≤ 1 / 2 + 2 ^ (-34 : Int)) :
    milli (.real (.finite s m e)) = 999 := by
  obtain ⟨x, hnear, hmilli⟩ := milli_near hm s e
  have hbelow := (abs_le.1 hq).2
  have hleast := (abs_le.1 hnear).1
  have hmost := milli_lt (t := .real (.finite s m e)) ⟨hm, hs⟩
  have hnot : ¬milli (.real (.finite s m e)) < 999 := by
    rw [hmilli]
    norm_num at hbelow hleast ⊢
    linarith
  omega

end

/-- **Which times are shown in another second**: the next one, and only if no thousandth of
    their own second is left. -/
theorem shownSecond_cases {t : Timestamp} (ht : t.Counted) :
    t.shownSecond = t.second ∨ t.shownSecond = t.second + 1 ∧ t.milli = 999 := by
  obtain ⟨n, rfl⟩ | ⟨s, m, e, rfl, hm, hs⟩ := ht.cases
  · left
    show n * 1000000 / 1000000 = n
    omega
  · obtain ⟨q, hq, hmicros⟩ := micros_near hm hs e
    rw [shownSecond_finite hs hmicros]
    have hlimit : q ≤ 1000000 := by
      have hfraction := fraction_le hm e
      have habove := (abs_le.1 hq).2
      have hlt : (q : ℚ) < 1000001 := by
        norm_num at hfraction habove
        linarith
      have hlt : q < 1000001 := by exact_mod_cast hlt
      omega
    rcases Nat.lt_or_eq_of_le hlimit with hlt | rfl
    · left
      rw [Nat.div_eq_of_lt hlt, Nat.cast_zero, add_zero]
    · right
      exact ⟨rfl, milli_of_carried hm hs hq⟩

end Timestamp

/-! ## §3. Shown moments. -/

/-- What is behind the digits begins with a sign, which comes before all of them. -/
theorem digits_append_lt_iff {c : Char} {a b rest : List Char} (ha : ∀ x ∈ a, c < x)
    (hb : ∀ x ∈ b, c < x) : a ++ c :: rest < b ++ c :: rest ↔ a < b := by
  induction a generalizing b with
  | nil =>
    cases b with
    | nil => simp
    | cons y b =>
      have hy := hb y List.mem_cons_self
      exact ⟨fun _ => List.nil_lt_cons y b, fun _ => List.cons_lt_cons_iff.2 (.inl hy)⟩
  | cons x a ih =>
    have hx := ha x List.mem_cons_self
    cases b with
    | nil =>
      have hnot : ¬x :: a < ([] : List Char) := List.not_lt_nil _
      rw [List.nil_append, List.cons_append, List.cons_lt_cons_iff]
      refine ⟨?_, fun h => absurd h hnot⟩
      rintro (hlt | ⟨rfl, -⟩)
      · exact absurd hlt hx.asymm
      · exact absurd hx (lt_irrefl _)
    | cons y b =>
      rw [List.cons_append, List.cons_append, List.cons_lt_cons_iff, List.cons_lt_cons_iff,
        ih (fun z hz => ha z (.tail _ hz)) (fun z hz => hb z (.tail _ hz))]

theorem offsetText_eq (separator : String) (minutes : Int) : ∃ sign rest,
    (Calendar.offsetText separator minutes).toList = sign :: rest ∧ sign < '0' := by
  unfold Calendar.offsetText
  split
  · exact ⟨'-', _, by simp only [String.toList_append, List.append_assoc]; rfl, by decide⟩
  · exact ⟨'+', _, by simp only [String.toList_append, List.append_assoc]; rfl, by decide⟩

theorem zero_le_of_mem_repr {n : Nat} {c : Char} (hc : c ∈ n.repr.toList) : '0' ≤ c := by
  rw [Nat.repr_eq_ofList_toDigits, String.toList_ofList] at hc
  have hdigit := Nat.isDigit_of_mem_toDigits (by decide) (by decide) hc
  rw [Char.isDigit, Bool.and_eq_true, decide_eq_true_eq] at hdigit
  exact Char.le_def.2 hdigit.1

/-- A year of four digits needs no padding. -/
theorem toString_year {year : Int} (hyear : 1000 ≤ year) :
    (toString year).toList = (Calendar.padded 4 year.toNat).toList := by
  have hlength : 4 - (Nat.toDigits 10 year.toNat).length = 0 := by
    have hthree := Nat.length_toDigits_le_iff (b := 10) (n := year.toNat) (k := 3) (by decide)
      (by decide)
    omega
  rw [Int.toString_eq_repr, Int.repr_eq_if, if_pos (by omega), Calendar.toList_padded, hlength,
    Nat.repr_eq_ofList_toDigits, String.toList_ofList]
  rfl

variable {offset u v : Int} {n k : Nat}

theorem toList_momentText {m : Calendar.Moment} (hyear : 1000 ≤ m.day.year)
    (hoffset : m.offset = some offset) (millis : Double) :
    (momentText m millis).toList = m.stamp.toList ++
      (',' :: (millis.brief.toList ++ (Calendar.offsetText "" offset).toList)) := by
  unfold momentText Calendar.Moment.stamp Calendar.Day.text
  rw [hoffset]
  simp only [String.toList_append, List.append_assoc, toString_year hyear]
  rfl

/-- **How shown moments compare**: by their seconds, and in one second by the digits of their
    thousandths. -/
theorem momentText_lt_iff
    (hu : 1000 ≤ (Calendar.Moment.ofMicros offset u).day.year ∧
      (Calendar.Moment.ofMicros offset u).day.year ≤ 9999)
    (hv : 1000 ≤ (Calendar.Moment.ofMicros offset v).day.year ∧
      (Calendar.Moment.ofMicros offset v).day.year ≤ 9999)
    (hn : n < 1000) (hk : k < 1000) :
    momentText (.ofMicros offset u) (.round false n 1) <
        momentText (.ofMicros offset v) (.round false k 1) ↔
      u / 1000000 < v / 1000000 ∨ u / 1000000 = v / 1000000 ∧ n.repr < k.repr := by
  obtain ⟨sign, rest, hsuffix, hsign⟩ := offsetText_eq "" offset
  have hbefore : ∀ (i : Nat), ∀ c ∈ i.repr.toList, sign < c := fun i c hc =>
    hsign.trans_le (zero_le_of_mem_repr hc)
  rw [String.lt_iff_toList_lt, toList_momentText hu.1 rfl, toList_momentText hv.1 rfl,
    Calendar.Moment.stamp_append_lt_iff ⟨by omega, hu.2⟩ ⟨by omega, hv.2⟩,
    Double.brief_round_ofNat (by omega), Double.brief_round_ofNat (by omega), hsuffix,
    List.cons_lt_cons_iff, digits_append_lt_iff (hbefore n) (hbefore k), String.lt_iff_toList_lt]
  simp

/-- Numbers of as many digits are compared by value. -/
theorem repr_lt_iff {n k : Nat} (h : n.repr.length = k.repr.length) :
    n.repr < k.repr ↔ n < k := by
  have hpadded : ∀ i : Nat, i.repr.toList = (Calendar.padded i.repr.length i).toList := by
    intro i
    rw [Calendar.toList_padded, Nat.repr_eq_ofList_toDigits, String.toList_ofList,
      String.length_ofList, Nat.sub_self, List.replicate_zero, List.nil_append]
  have hroom : ∀ i : Nat, 0 < i.repr.length ∧ i < 10 ^ i.repr.length := by
    intro i
    rw [Nat.repr_eq_ofList_toDigits, String.length_ofList]
    have hpos : 0 < (Nat.toDigits 10 i).length := Nat.length_toDigits_pos
    exact ⟨hpos, (Nat.length_toDigits_le_iff (by decide) hpos).1 le_rfl⟩
  rw [String.lt_iff_toList_lt, hpadded n, hpadded k, ← h]
  exact Calendar.padded_lt_iff (hroom n).1 (hroom n).2 (h ▸ (hroom k).2)

/-! ## §4. Records. -/

theorem Timestamp.moment?_ok {t : Timestamp} {offset : Int} {m : Calendar.Moment}
    (h : t.moment? offset = .ok m) : ∃ micros, t.micros? = .ok micros ∧
      m = .ofMicros offset micros ∧ m.day.year ≤ 9999 := by
  unfold moment? at h
  cases hmicros : t.micros? with
  | error f =>
    rw [hmicros] at h
    cases h
  | ok micros =>
    rw [hmicros] at h
    simp only [bind, Except.bind] at h
    split at h
    · cases h
    split at h
    · cases h
    split at h
    · cases h
    split at h
    · cases h
    next hcalendar hbefore =>
      cases h
      refine ⟨micros, rfl, rfl, ?_⟩
      simp only [Bool.not_eq_true', Bool.not_eq_false, inCalendar, Bool.and_eq_true,
        decide_eq_true_eq] at hcalendar
      exact hcalendar.2

namespace Record

/-- What a record shows as its time, on a clock `offset` minutes ahead of universal time. -/
def time? (r : Record) (offset : Int) : Except Failure String := do
  let moment ← r.created.moment? offset
  pure (momentText moment r.millis)

/-- The time stands in brackets at the start of the record. -/
theorem start_eq (r : Record) (offset : Int) :
    r.start offset = (do
      let message ← Template.fill r.template r.arguments
      let time ← r.time? offset
      pure (.ofString ("[" ++ time ++ "] [" ++ r.level.name ++ "] [" ++ r.name ++ "] \x7b" ++
        r.keyOrNone.plain ++ "\x7d ") ++ message)) := by
  unfold start time?
  cases Template.fill r.template r.arguments with
  | error f => rfl
  | ok message =>
    cases r.created.moment? offset with
    | error f => rfl
    | ok moment => rfl

/-- A record as it is made, with a year of four digits on its clock. -/
structure Dated (r : Record) (offset : Int) (moment : Calendar.Moment) : Prop where
  created : r.created.Counted
  millis : r.millis = .round false r.created.milli 1
  shown : r.created.moment? offset = .ok moment
  year : 1000 ≤ moment.day.year

variable {r r' : Record} {offset : Int} {moment moment' : Calendar.Moment}

theorem Dated.time_lt_iff (h : r.Dated offset moment) (h' : r'.Dated offset moment') :
    momentText moment r.millis < momentText moment' r'.millis ↔
      r.created.shownSecond < r'.created.shownSecond ∨
        r.created.shownSecond = r'.created.shownSecond ∧
          r.created.milli.repr < r'.created.milli.repr := by
  obtain ⟨micros, hmicros, rfl, hlast⟩ := Timestamp.moment?_ok h.shown
  obtain ⟨micros', hmicros', rfl, hlast'⟩ := Timestamp.moment?_ok h'.shown
  have hshown : r.created.shownSecond = micros / 1000000 := by
    unfold Timestamp.shownSecond
    rw [hmicros]
  have hshown' : r'.created.shownSecond = micros' / 1000000 := by
    unfold Timestamp.shownSecond
    rw [hmicros']
  rw [h.millis, h'.millis, hshown, hshown']
  exact momentText_lt_iff ⟨h.year, hlast⟩ ⟨h'.year, hlast'⟩ (Timestamp.milli_lt h.created)
    (Timestamp.milli_lt h'.created)

theorem Dated.time_eq_iff (h : r.Dated offset moment) (h' : r'.Dated offset moment') :
    momentText moment r.millis = momentText moment' r'.millis ↔
      r.created.shownSecond = r'.created.shownSecond ∧ r.created.milli = r'.created.milli := by
  constructor
  · intro heq
    have hnot : ¬momentText moment r.millis < momentText moment' r'.millis :=
      heq ▸ lt_irrefl (momentText moment r.millis)
    have hnot' : ¬momentText moment' r'.millis < momentText moment r.millis :=
      heq ▸ lt_irrefl (momentText moment r.millis)
    rw [h.time_lt_iff h', not_or, not_and] at hnot
    rw [h'.time_lt_iff h, not_or, not_and] at hnot'
    have hseconds : r.created.shownSecond = r'.created.shownSecond := by omega
    have hdigits : r.created.milli.repr = r'.created.milli.repr :=
      le_antisymm (not_lt.1 (hnot'.2 hseconds.symm)) (not_lt.1 (hnot.2 hseconds))
    exact ⟨hseconds, Nat.repr_inj.1 hdigits⟩
  · rintro ⟨hseconds, hmilli⟩
    refine le_antisymm ?_ ?_
    · rw [← not_lt, h'.time_lt_iff h, hseconds, hmilli]
      simp
    · rw [← not_lt, h.time_lt_iff h', hseconds, hmilli]
      simp

/-- **How the times of records compare.**  The seconds that are shown decide, and in one second
    the digits of the thousandths; two records show one time just if both agree.  A second is
    shown as the next one only if no thousandth of it is left.  Where this is not so, the earlier
    of two records shows the smaller time, unless it is of the same second as the other and
    their thousandths have different numbers of digits. -/
theorem times_compare (h : r.Dated offset moment) (h' : r'.Dated offset moment') :
    ∃ time time', r.time? offset = .ok time ∧ r'.time? offset = .ok time' ∧
      (time < time' ↔
        r.created.shownSecond < r'.created.shownSecond ∨
          r.created.shownSecond = r'.created.shownSecond ∧
            r.created.milli.repr < r'.created.milli.repr) ∧
      (time = time' ↔
        r.created.shownSecond = r'.created.shownSecond ∧ r.created.milli = r'.created.milli) ∧
      (r.created.shownSecond = r.created.second ∨
        r.created.shownSecond = r.created.second + 1 ∧ r.created.milli = 999) ∧
      (r.created.Earlier r'.created → r.created.shownSecond = r.created.second →
        (r.created.second = r'.created.second →
          r.created.milli.repr.length = r'.created.milli.repr.length) →
        time < time') := by
  have htime : r.time? offset = .ok (momentText moment r.millis) := by
    unfold time?
    rw [h.shown]
    rfl
  have htime' : r'.time? offset = .ok (momentText moment' r'.millis) := by
    unfold time?
    rw [h'.shown]
    rfl
  refine ⟨_, _, htime, htime', h.time_lt_iff h', h.time_eq_iff h',
    Timestamp.shownSecond_cases h.created, ?_⟩
  intro hearlier hown hdigits
  have hshown' := Timestamp.shownSecond_cases h'.created
  rw [h.time_lt_iff h', hown]
  rcases hearlier with hsecond | ⟨hsecond, hmilli⟩
  · left
    omega
  · rcases hshown' with hshown' | ⟨hshown', -⟩
    · right
      exact ⟨by omega, (repr_lt_iff (hdigits hsecond)).2 hmilli⟩
    · left
      omega

end Record

end Log

namespace Sample

/-- A record that was made at a time. -/
def recordAt (created : Log.Timestamp) : Log.Record :=
  { name := "log", level := Log.Level.info, template := "started", arguments := [], key := none,
    properties := .null, created, millis := .round false created.milli 1, failure := none,
    stack := "" }

/-- An eighth of a second and a quarter. -/
def eighth : Log.Timestamp := .real (.finite false (2 ^ 52) (-55))

def quarter : Log.Timestamp := .real (.finite false (2 ^ 52) (-54))

/-- Seven thousandths of a second and eleven, and a fraction of another one. -/
def seventh : Log.Timestamp := .real (.finite false (2 ^ 52) (-59))

def eleventh : Log.Timestamp := .real (.finite false (3 * 2 ^ 51) (-59))

/-- A fourth of a millionth short of the first second, and some time later. -/
def lastInstant : Log.Timestamp := .real (.finite false (2 ^ 53 - 2 ^ 31) (-53))

def nextSecond : Log.Timestamp := .real (.finite false (2047 * 2 ^ 42) (-52))

theorem dated (created : Log.Timestamp) (hcreated : created.Counted) {offset : Int}
    {moment : Calendar.Moment} (hshown : created.moment? offset = .ok moment)
    (hyear : 1000 ≤ moment.day.year) : (recordAt created).Dated offset moment :=
  ⟨hcreated, rfl, hshown, hyear⟩

theorem dated_eighth : (recordAt eighth).Dated 60 (.ofMicros 60 125000) :=
  dated eighth ⟨by decide +kernel, by decide⟩ (by decide +kernel) (by decide +kernel)

theorem dated_quarter : (recordAt quarter).Dated 60 (.ofMicros 60 250000) :=
  dated quarter ⟨by decide +kernel, by decide⟩ (by decide +kernel) (by decide +kernel)

end Sample

theorem times_compare_of_sample :
    (Sample.recordAt Sample.eighth).Dated 60 (.ofMicros 60 125000) ∧
      (Sample.recordAt Sample.quarter).Dated 60 (.ofMicros 60 250000) ∧
      ∃ time time', (Sample.recordAt Sample.eighth).time? 60 = .ok time ∧
        (Sample.recordAt Sample.quarter).time? 60 = .ok time' ∧ time < time' := by
  obtain ⟨time, time', htime, htime', -, -, -, hearlier⟩ :=
    Log.Record.times_compare Sample.dated_eighth Sample.dated_quarter
  refine ⟨Sample.dated_eighth, Sample.dated_quarter, time, time', htime, htime', ?_⟩
  exact hearlier (.inr (by decide +kernel)) (by decide +kernel) (fun _ => by decide +kernel)

/-- Seven thousandths come behind eleven, and two seconds look alike. -/
theorem times_out_of_order :
    (Sample.seventh.Earlier Sample.eleventh ∧
      (Sample.recordAt Sample.seventh).time? 0 = .ok "1970-01-01T00:00:00,7+0000" ∧
      (Sample.recordAt Sample.eleventh).time? 0 = .ok "1970-01-01T00:00:00,11+0000" ∧
      "1970-01-01T00:00:00,11+0000" < "1970-01-01T00:00:00,7+0000") ∧
    (Sample.lastInstant.Earlier Sample.nextSecond ∧
      (Sample.recordAt Sample.lastInstant).time? 0 = .ok "1970-01-01T00:00:01,999+0000" ∧
      (Sample.recordAt Sample.nextSecond).time? 0 = .ok "1970-01-01T00:00:01,999+0000") := by
  refine ⟨⟨.inr (by decide +kernel), by decide +kernel, by decide +kernel, by decide +kernel⟩,
    .inl (by decide +kernel), by decide +kernel, by decide +kernel⟩

end ChangeFeed
