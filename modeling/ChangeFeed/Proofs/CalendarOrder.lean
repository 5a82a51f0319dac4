/-
  ChangeFeed.Proofs.CalendarOrder — days, clock times and their texts are in one order.

  A day is found from its number by way of the year that starts in March: the days before
  such a year, and those before a month of it, are counted by two formulas, and a day lies
  between two counts.  So the calendar gives later days later dates.

  Numbers that are padded to one width are compared digit by digit as they are by value.
  A text that puts the larger unit first is therefore compared unit by unit, and what is
  behind it counts only where all units agree.

  Main results:
    * `Text.append_lt_append_iff` — texts that begin with pieces of one length.
    * `Calendar.padded_append_lt_iff` — texts that begin with padded numbers.
    * `Calendar.Day.ofNumber_before_iff` — the order of days is that of their dates.
    * `Calendar.Moment.stamp_append_lt_iff` — texts that begin with a moment.
-/

import Mathlib
import ChangeFeed.Calendar

namespace ChangeFeed

/-! ## §1. Texts that begin with pieces of one length. -/

theorem Text.append_lt_append_iff {a b c d : List Char} (hlength : a.length = b.length) :
    a ++ c < b ++ d ↔ a < b ∨ a = b ∧ c < d := by
  induction a generalizing b with
  | nil =>
    obtain rfl := List.length_eq_zero_iff.1 hlength.symm
    simp
  | cons x a ih =>
    cases b with
    | nil => cases hlength
    | cons y b =>
      have hrest := ih (Nat.succ.inj hlength)
      rw [List.cons_append, List.cons_append, List.cons_lt_cons_iff, List.cons_lt_cons_iff, hrest,
        List.cons.injEq, and_or_left, or_assoc, and_assoc]

namespace Calendar

/-! ## §2. Padded numbers. -/

section

variable {width n m : Nat}

theorem digitChar_lt : ∀ m < 10, ∀ n < m, Nat.digitChar n < Nat.digitChar m := by decide

theorem toList_padded (width n : Nat) :
    (padded width n).toList =
      List.replicate (width - (Nat.toDigits 10 n).length) '0' ++ Nat.toDigits 10 n :=
  String.toList_ofList

/-- The last digit stands behind the others. -/
theorem toList_padded_succ (hwidth : 0 < width) (n : Nat) :
    (padded (width + 1) n).toList =
      (padded width (n / 10)).toList ++ [Nat.digitChar (n % 10)] := by
  rw [toList_padded, toList_padded]
  by_cases hn : n < 10
  · -- all others are zeros
    have hquotient : n / 10 = 0 := Nat.div_eq_of_lt hn
    obtain ⟨w, rfl⟩ : ∃ w, width = w + 1 := ⟨width - 1, by omega⟩
    rw [hquotient, Nat.mod_eq_of_lt hn, Nat.toDigits_of_lt_base hn, Nat.toDigits_zero]
    show List.replicate (w + 1) '0' ++ _ = _
    rw [List.replicate_succ']
    rfl
  · rw [Nat.toDigits_of_base_le (by decide) (Nat.le_of_not_lt hn), List.length_append,
      List.length_singleton, Nat.add_sub_add_right, List.append_assoc]

theorem length_padded (hwidth : 0 < width) (hn : n < 10 ^ width) :
    (padded width n).toList.length = width := by
  have hdigits := (Nat.length_toDigits_le_iff (b := 10) (by decide) hwidth).2 hn
  rw [toList_padded, List.length_append, List.length_replicate, Nat.sub_add_cancel hdigits]

/-- Padded numbers are compared as they are by value.  The induction is on the width; the
    quotients by ten decide, or where they agree the last digits. -/
theorem padded_lt (hwidth : 0 < width) (hlt : n < m) (hm : m < 10 ^ width) :
    (padded width n).toList < (padded width m).toList := by
  induction width, hwidth using Nat.le_induction generalizing n m with
  | base =>
    have hm : m < 10 := hm
    rw [toList_padded, toList_padded, Nat.toDigits_of_lt_base (hlt.trans hm),
      Nat.toDigits_of_lt_base hm]
    exact List.cons_lt_cons_iff.2 (.inl (digitChar_lt m hm n hlt))
  | succ width hwidth ih =>
    have hquotient : m / 10 < 10 ^ width := by rw [pow_succ] at hm; omega
    have hlength : (padded width (n / 10)).toList.length = (padded width (m / 10)).toList.length := by
      rw [length_padded hwidth hquotient, length_padded hwidth (by omega)]
    rw [toList_padded_succ hwidth, toList_padded_succ hwidth, Text.append_lt_append_iff hlength]
    by_cases hquotients : n / 10 < m / 10
    · exact .inl (ih hquotients hquotient)
    · have hsame : n / 10 = m / 10 := by omega
      have hlast : n % 10 < m % 10 := by omega
      have hdigit := digitChar_lt (m % 10) (Nat.mod_lt _ (by decide)) (n % 10) hlast
      exact .inr ⟨by rw [hsame], List.cons_lt_cons_iff.2 (.inl hdigit)⟩

theorem padded_lt_iff (hwidth : 0 < width) (hn : n < 10 ^ width) (hm : m < 10 ^ width) :
    (padded width n).toList < (padded width m).toList ↔ n < m := by
  constructor
  · intro h
    by_contra hnot
    rcases Nat.eq_or_lt_of_le (Nat.le_of_not_lt hnot) with rfl | hlt
    · exact lt_irrefl _ h
    · exact lt_asymm h (padded_lt hwidth hlt hn)
  · intro h
    exact padded_lt hwidth h hm

/-- **Texts that begin with padded numbers.** -/
theorem padded_append_lt_iff (hwidth : 0 < width) (hn : n < 10 ^ width) (hm : m < 10 ^ width)
    {c d : List Char} :
    (padded width n).toList ++ c < (padded width m).toList ++ d ↔ n < m ∨ n = m ∧ c < d := by
  have hlength : (padded width n).toList.length = (padded width m).toList.length := by
    rw [length_padded hwidth hn, length_padded hwidth hm]
  rw [Text.append_lt_append_iff hlength, padded_lt_iff hwidth hn hm]
  constructor
  · rintro (hlt | ⟨hsame, hbehind⟩)
    · exact .inl hlt
    · rcases Nat.lt_trichotomy n m with hlt | heq | hgt
      · exact .inl hlt
      · exact .inr ⟨heq, hbehind⟩
      · have hless := padded_lt hwidth hgt hn
        rw [hsame] at hless
        exact absurd hless (lt_irrefl _)
  · rintro (hlt | ⟨rfl, hbehind⟩)
    · exact .inl hlt
    · exact .inr ⟨rfl, hbehind⟩

end

/-! ## §3. Days. -/

/-- How many days lie before a year that starts in March, from the year 0 on. -/
def yearStart (year : Int) : Int := 365 * year + year / 4 - year / 100 + year / 400

/-- How many days of such a year lie before a month, counted from March. -/
def monthStart (month : Int) : Int := (153 * month + 2) / 5

theorem yearStart_mono {y z : Int} (h : y ≤ z) : yearStart y ≤ yearStart z := by
  unfold yearStart
  omega

theorem monthStart_mono {m k : Int} (h : m ≤ k) : monthStart m ≤ monthStart k := by
  unfold monthStart
  omega

/-- A day lies in a year that starts in March, in a month of it, at a place in that month. -/
structure Day.Placed (d : Day) (n year month : Int) : Prop where
  day : n + 719468 = yearStart year + monthStart month + (d.day - 1)
  inYear : n + 719468 < yearStart (year + 1)
  inMonth : monthStart month + (d.day - 1) < monthStart (month + 1)
  first : 1 ≤ d.day
  months : 0 ≤ month ∧ month ≤ 11
  calendar : 12 * d.year + d.month = 12 * year + month + 3
  month : 1 ≤ d.month ∧ d.month ≤ 12

/-- The year within its cycle of 400, of which the last has a day more. -/
theorem yearOfCycle_spec (day : Int) {year : Int} (hday : 0 ≤ day) (hcycle : day < 146097)
    (hyear : year = (day - day / 1460 + day / 36524 - day / 146096) / 365) :
    0 ≤ year ∧ year ≤ 399 ∧ yearStart year ≤ day ∧ day < yearStart (year + 1) := by
  have hbounds : 0 ≤ year ∧ year ≤ 399 := by omega
  refine ⟨hbounds.1, hbounds.2, ?_⟩
  have hlast : day / 146096 = 0 ∨ day = 146096 := by omega
  -- within a century each four years have a leap day, so that the year is known but for a few
  have hfour : year = 4 * (day / 1460) - 1 ∨ year = 4 * (day / 1460) ∨
      year = 4 * (day / 1460) + 1 ∨ year = 4 * (day / 1460) + 2 ∨
      year = 4 * (day / 1460) + 3 := by omega
  unfold yearStart
  rcases hlast with hlast | rfl
  · have hcentury : day / 36524 = 0 ∨ day / 36524 = 1 ∨ day / 36524 = 2 ∨ day / 36524 = 3 := by
      omega
    rcases hcentury with hc | hc | hc | hc <;> rw [hc, hlast] at hyear <;>
      rcases hfour with h | h | h | h | h <;> constructor <;> omega
  · subst hyear
    decide

theorem yearStart_cycle (year cycle : Int) :
    yearStart (year + cycle * 400) = yearStart year + cycle * 146097 := by
  unfold yearStart
  omega

/-- The month within a year that starts in March, and the place in it. -/
theorem monthFromMarch_spec (day : Int) {month : Int} (hday : 0 ≤ day) (hyear : day < 366)
    (hmonth : month = (5 * day + 2) / 153) :
    (0 ≤ month ∧ month ≤ 11) ∧ monthStart month ≤ day ∧ day < monthStart (month + 1) := by
  unfold monthStart
  omega

/-- **Where the day of a number lies.** -/
theorem Day.placed_ofNumber (n : Int) : ∃ year month, (Day.ofNumber n).Placed n year month := by
  have hcycle := yearOfCycle_spec ((n + 719468) % 146097)
    (Int.emod_nonneg _ (by decide)) (Int.emod_lt_of_pos _ (by decide)) rfl
  have hsplit := Int.mul_ediv_add_emod (n + 719468) 146097
  unfold ofNumber
  simp only
  generalize (n + 719468) / 146097 = cycle at hsplit ⊢
  generalize (n + 719468) % 146097 = dayOfCycle at hcycle hsplit ⊢
  generalize (dayOfCycle - dayOfCycle / 1460 + dayOfCycle / 36524 - dayOfCycle / 146096) / 365 =
    year at hcycle ⊢
  obtain ⟨hfirst, hlast, hstart, hend⟩ := hcycle
  -- within a cycle the leap day of its last year is still to come
  have hcount : yearStart year = 365 * year + year / 4 - year / 100 := by
    unfold yearStart
    omega
  have hlength : yearStart (year + 1) ≤ yearStart year + 366 := by
    unfold yearStart
    omega
  rw [← hcount]
  have hmonth := monthFromMarch_spec (dayOfCycle - yearStart year) (by omega) (by omega) rfl
  generalize (5 * (dayOfCycle - yearStart year) + 2) / 153 = month at hmonth ⊢
  obtain ⟨hmonths, hmonthStart, hmonthEnd⟩ := hmonth
  have hstartOf := yearStart_cycle year cycle
  have hendOf := yearStart_cycle (year + 1) cycle
  rw [add_right_comm] at hendOf
  refine ⟨year + cycle * 400, month, ?_⟩
  have hday : ((dayOfCycle - yearStart year - monthStart month + 1).toNat : Int) =
      dayOfCycle - yearStart year - monthStart month + 1 := Int.toNat_of_nonneg (by omega)
  show Placed ⟨_, _, (dayOfCycle - yearStart year - monthStart month + 1).toNat⟩ _ _ _
  generalize (dayOfCycle - yearStart year - monthStart month + 1).toNat = day at hday ⊢
  refine ⟨?day, ?inYear, ?inMonth, ?first, hmonths, ?calendar, ?month⟩
  case day => dsimp only; omega
  case inYear => omega
  case inMonth => dsimp only; omega
  case first => dsimp only; omega
  -- from January on the year is the next one
  case calendar => dsimp only; omega
  case month => dsimp only; split <;> omega

/-- The order of dates. -/
def Day.Before (d e : Day) : Prop :=
  d.year < e.year ∨ d.year = e.year ∧ (d.month < e.month ∨ d.month = e.month ∧ d.day < e.day)

namespace Day.Placed

variable {d e : Day} {n m y z k l : Int}

theorem year_le (hd : d.Placed n y k) (he : e.Placed m z l) (h : n < m) : y ≤ z := by
  by_contra hnot
  have hnext := yearStart_mono (y := z + 1) (z := y) (by omega)
  have hstart : 0 ≤ monthStart k := monthStart_mono (m := 0) hd.months.1
  have hday := hd.day
  have hfirst := hd.first
  have hinYear := he.inYear
  omega

/-- Within a year the months go on. -/
theorem month_le (hd : d.Placed n y k) (he : e.Placed m y l) (h : n < m) : k ≤ l := by
  by_contra hnot
  have hnext := monthStart_mono (m := l + 1) (k := k) (by omega)
  have hday := hd.day
  have hday' := he.day
  have hfirst := hd.first
  have hinMonth := he.inMonth
  omega

/-- Later days have later places. -/
theorem places (hd : d.Placed n y k) (he : e.Placed m z l) (h : n < m) :
    12 * y + k < 12 * z + l ∨ 12 * y + k = 12 * z + l ∧ d.day < e.day := by
  have hmonths := hd.months
  have hmonths' := he.months
  rcases Int.lt_or_eq_of_le (hd.year_le he h) with hlt | rfl
  · left
    omega
  · rcases Int.lt_or_eq_of_le (hd.month_le he h) with hlt | rfl
    · left
      omega
    · have hday := hd.day
      have hday' := he.day
      right
      omega

theorem before (hd : d.Placed n y k) (he : e.Placed m z l) (h : n < m) : d.Before e := by
  have hplaces := hd.places he h
  have hcalendar := hd.calendar
  have hcalendar' := he.calendar
  have hmonth := hd.month
  have hmonth' := he.month
  unfold Before
  omega

end Day.Placed

theorem Day.ofNumber_before {n m : Int} (h : n < m) : (ofNumber n).Before (ofNumber m) := by
  obtain ⟨y, k, hn⟩ := placed_ofNumber n
  obtain ⟨z, l, hm⟩ := placed_ofNumber m
  exact hn.before hm h

theorem Day.Before.asymm {d e : Day} (h : d.Before e) : ¬e.Before d := by
  unfold Before at *
  omega

/-- **The order of days is that of their dates.** -/
theorem Day.ofNumber_before_iff {n m : Int} : (ofNumber n).Before (ofNumber m) ↔ n < m := by
  constructor
  · intro h
    by_contra hnot
    rcases Int.lt_or_eq_of_le (Int.not_lt.1 hnot) with hlt | rfl
    · exact h.asymm (ofNumber_before hlt)
    · exact h.asymm h
  · exact ofNumber_before

theorem Day.ofNumber_inj {n m : Int} : ofNumber n = ofNumber m ↔ n = m := by
  constructor
  · intro h
    have hnot : ∀ d : Day, ¬d.Before d := fun d hd => hd.asymm hd
    have hnm : ¬n < m := fun hlt => hnot _ (h ▸ ofNumber_before hlt)
    have hmn : ¬m < n := fun hlt => hnot _ (h ▸ ofNumber_before hlt)
    omega
  · rintro rfl
    rfl

/-! ## §4. Texts that begin with a moment. -/

section

variable {a b : List Char}

/-- Each unit of the day has room in its text. -/
structure Day.Fits (d : Day) : Prop where
  year : 0 ≤ d.year ∧ d.year ≤ 9999
  month : d.month < 100
  day : d.day < 100

theorem Day.fits_ofNumber {n : Int} (hyear : 0 ≤ (ofNumber n).year ∧ (ofNumber n).year ≤ 9999) :
    (ofNumber n).Fits := by
  obtain ⟨year, month, hplaced⟩ := placed_ofNumber n
  have hmonth := hplaced.month
  have hday := hplaced.inMonth
  unfold monthStart at hday
  exact ⟨hyear, by omega, by omega⟩

theorem Day.text_append_lt_iff {d e : Day} (hd : d.Fits) (he : e.Fits) :
    d.text.toList ++ a < e.text.toList ++ b ↔ d.Before e ∨ d = e ∧ a < b := by
  obtain ⟨year, month, day⟩ := d
  obtain ⟨year', month', day'⟩ := e
  have hyear := hd.year
  have hyear' := he.year
  dsimp only at hyear hyear'
  have hsame : year.toNat = year'.toNat ↔ year = year' := by omega
  have hless : year.toNat < year'.toNat ↔ year < year' := by omega
  simp only [text, String.toList_append, List.append_assoc]
  rw [padded_append_lt_iff (by decide) (by omega) (by omega),
    Text.append_lt_append_iff rfl,
    padded_append_lt_iff (by decide) hd.month he.month,
    Text.append_lt_append_iff rfl,
    padded_append_lt_iff (by decide) hd.day he.day, hsame, hless]
  simp only [Before, lt_self_iff_false, false_or, true_and, Day.mk.injEq]
  by_cases hbehind : a < b
  · simp only [hbehind, and_true]
    omega
  · simp only [hbehind, and_false, or_false]

/-- Each unit of the time has room in its text. -/
structure Clock.Fits (c : Clock) : Prop where
  hour : c.hour < 100
  minute : c.minute < 60
  second : c.second < 60

/-- How many seconds of the day are over. -/
def Clock.passed (c : Clock) : Nat := 3600 * c.hour + 60 * c.minute + c.second

theorem Clock.seconds_append_lt_iff {c e : Clock} (hc : c.Fits) (he : e.Fits) :
    c.seconds.toList ++ a < e.seconds.toList ++ b ↔
      c.passed < e.passed ∨ c.passed = e.passed ∧ a < b := by
  have hminute := hc.minute
  have hminute' := he.minute
  have hsecond := hc.second
  have hsecond' := he.second
  simp only [seconds, String.toList_append, List.append_assoc]
  rw [padded_append_lt_iff (by decide) hc.hour he.hour,
    Text.append_lt_append_iff rfl,
    padded_append_lt_iff (by decide) (by omega) (by omega),
    Text.append_lt_append_iff rfl,
    padded_append_lt_iff (by decide) (by omega) (by omega)]
  simp only [lt_self_iff_false, false_or, true_and]
  unfold passed
  by_cases hbehind : a < b <;> simp only [hbehind, and_true, and_false, or_false] <;> omega

namespace Moment

/-- Day and time as far as the second. -/
def stamp (m : Moment) : String := m.day.text ++ "T" ++ m.clock.seconds

variable {offset u v : Int}

theorem day_ofMicros (offset u : Int) :
    (ofMicros offset u).day = Day.ofNumber ((u + offset * 60000000) / 86400000000) := rfl

theorem fits_ofMicros (offset u : Int) : (ofMicros offset u).clock.Fits := by
  have hrest : ((u + offset * 60000000) % 86400000000).toNat < 86400000000 := by omega
  unfold ofMicros
  constructor <;> dsimp only <;> omega

theorem passed_ofMicros (offset u : Int) :
    ((ofMicros offset u).clock.passed : Int) =
      u / 1000000 + offset * 60 - (u + offset * 60000000) / 86400000000 * 86400 := by
  unfold ofMicros Clock.passed
  dsimp only
  omega

/-- **Texts that begin with a moment**: the second decides, and where it is the same, what
    stands behind it. -/
theorem stamp_append_lt_iff
    (hu : 0 ≤ (ofMicros offset u).day.year ∧ (ofMicros offset u).day.year ≤ 9999)
    (hv : 0 ≤ (ofMicros offset v).day.year ∧ (ofMicros offset v).day.year ≤ 9999) :
    (ofMicros offset u).stamp.toList ++ a < (ofMicros offset v).stamp.toList ++ b ↔
      u / 1000000 < v / 1000000 ∨ u / 1000000 = v / 1000000 ∧ a < b := by
  have hfitsu : (ofMicros offset u).day.Fits := Day.fits_ofNumber hu
  have hfitsv : (ofMicros offset v).day.Fits := Day.fits_ofNumber hv
  have hpassedu := passed_ofMicros offset u
  have hpassedv := passed_ofMicros offset v
  simp only [stamp, String.toList_append, List.append_assoc]
  rw [Day.text_append_lt_iff hfitsu hfitsv, Text.append_lt_append_iff rfl,
    Clock.seconds_append_lt_iff (fits_ofMicros offset u) (fits_ofMicros offset v),
    day_ofMicros, day_ofMicros, Day.ofNumber_before_iff, Day.ofNumber_inj]
  simp only [lt_self_iff_false, false_or, true_and]
  by_cases hbehind : a < b <;> simp only [hbehind, and_true, and_false, or_false] <;> omega

end Moment

end

end Calendar

end ChangeFeed
