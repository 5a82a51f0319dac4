/-
  ChangeFeed.Proofs.Rounding — how near a rounded number is to the quotient it stands for.

  A quotient below a power of two is rounded in steps that are smaller by fifty-three
  binary places, so it is missed by half of such a step at most.  Naturals below 2 ^ 53
  are met, and one of at most six digits is written with just these digits.

  Main results:
    * `Double.round_near` — how near the rounded number is.
    * `Double.round_ofNat` — naturals are met.
    * `Double.brief_round_ofNat` — how short naturals are written.
-/

import Mathlib
import ChangeFeed.Number.Written

namespace ChangeFeed

namespace Double

/-! ## §1. Quotients. -/

theorem roundQuotient_bounds (n : Nat) {d : Nat} (hd : 0 < d) :
    2 * n ≤ 2 * (roundQuotient n d * d) + d ∧ 2 * (roundQuotient n d * d) ≤ 2 * n + d := by
  have hsplit := Nat.div_add_mod' n d
  have hbelow := Nat.mod_lt n hd
  have hnext : (n / d + 1) * d = n / d * d + d := Nat.succ_mul _ _
  unfold roundQuotient
  dsimp only
  split
  case h_1 hcmp =>
    rw [Nat.compare_eq_lt] at hcmp
    omega
  case h_2 hcmp =>
    rw [Nat.compare_eq_gt] at hcmp
    rw [hnext]
    omega
  case h_3 hcmp =>
    rw [Nat.compare_eq_eq] at hcmp
    split
    · omega
    · rw [hnext]
      omega

/-- The nearest integer is missed by a half at most. -/
theorem roundQuotient_near (n : Nat) {d : Nat} (hd : 0 < d) :
    |(roundQuotient n d : ℚ) - n / d| ≤ 1 / 2 := by
  obtain ⟨hbelow, habove⟩ := roundQuotient_bounds n hd
  have hd' : (0 : ℚ) < d := by exact_mod_cast hd
  have hbelow' : (2 * n : ℚ) ≤ 2 * (roundQuotient n d * d) + d := by exact_mod_cast hbelow
  have habove' : (2 * (roundQuotient n d * d) : ℚ) ≤ 2 * n + d := by exact_mod_cast habove
  rw [abs_le, neg_le_sub_iff_le_add, sub_le_iff_le_add, div_le_iff₀ hd']
  constructor
  · linarith
  · rw [← sub_le_iff_le_add', le_div_iff₀ hd']
    linarith

theorem roundQuotient_mul (q : Nat) {d : Nat} (hd : 0 < d) : roundQuotient (q * d) d = q := by
  unfold roundQuotient
  rw [Nat.mul_mod_left, Nat.mul_div_cancel _ hd]
  have hcmp : compare (2 * 0) d = .lt := Nat.compare_eq_lt.2 hd
  rw [hcmp]

/-- The value of a finite number, without its sign. -/
def size (mantissa : Nat) (exponent : Int) : ℚ := mantissa * 2 ^ exponent

theorem two_zpow_split (e : Int) : (2 : ℚ) ^ e = 2 ^ e.toNat / 2 ^ (-e).toNat := by
  rw [← zpow_natCast, ← zpow_natCast, ← zpow_sub₀ (by norm_num)]
  congr 1
  omega

theorem magnitude_eq (m : Nat) (e : Int) :
    ((magnitude m e).1 : ℚ) / (magnitude m e).2 = size m e := by
  show ((m * 2 ^ e.toNat : Nat) : ℚ) / ((2 ^ (-e).toNat : Nat) : ℚ) = _
  unfold size
  rw [two_zpow_split]
  push_cast
  ring

theorem scaleDown_eq (num den : Nat) (e : Int) :
    ((scaleDown num den e).1 : ℚ) / (scaleDown num den e).2 = num / den / 2 ^ e := by
  show ((num * 2 ^ (-e).toNat : Nat) : ℚ) / ((den * 2 ^ e.toNat : Nat) : ℚ) = _
  rw [two_zpow_split]
  push_cast
  field_simp

theorem scaleDown_pos (num : Nat) {den : Nat} (hden : 0 < den) (e : Int) : 0 < (scaleDown num den e).2 := by
  show 0 < den * 2 ^ e.toNat
  positivity

/-! ## §2. Rounding. -/

/-- The leading place of a quotient is not beyond it. -/
theorem two_zpow_leadingExponent_le {num den : Nat} (hnum : 0 < num) (hden : 0 < den) :
    (2 : ℚ) ^ leadingExponent num den ≤ num / den := by
  unfold leadingExponent
  dsimp only
  split
  case isTrue hle =>
    have hpos : (0 : ℚ) < (scaleDown num den (num.log2 - den.log2)).2 := by
      exact_mod_cast scaleDown_pos num hden _
    have hone : (1 : ℚ) ≤ num / den / 2 ^ ((num.log2 : Int) - den.log2) := by
      rw [← scaleDown_eq, one_le_div hpos]
      exact_mod_cast hle
    rwa [one_le_div (by positivity)] at hone
  case isFalse =>
    -- the leading places of both numbers alone come to half of it
    have hnumBits : ((2 : ℚ) ^ num.log2) ≤ num := by exact_mod_cast Nat.log2_self_le hnum.ne'
    have hdenBits : (den : ℚ) ≤ 2 ^ (den.log2 + 1) := by exact_mod_cast Nat.lt_log2_self.le
    have hden' : (0 : ℚ) < den := by exact_mod_cast hden
    calc (2 : ℚ) ^ ((num.log2 : Int) - den.log2 - 1)
        = 2 ^ num.log2 / 2 ^ (den.log2 + 1) := by
          rw [← zpow_natCast, ← zpow_natCast, ← zpow_sub₀ (by norm_num)]
          congr 1
          push_cast
          ring
      _ ≤ num / den := div_le_div₀ (by positivity) hnumBits hden' hdenBits

theorem leadingExponent_lt {num den j : Nat} (hnum : 0 < num) (hden : 0 < den)
    (h : (num : ℚ) / den < 2 ^ j) : leadingExponent num den < j := by
  have hpowers : (2 : ℚ) ^ leadingExponent num den < 2 ^ (j : Int) := by
    rw [zpow_natCast]
    exact (two_zpow_leadingExponent_le hnum hden).trans_lt h
  exact (zpow_lt_zpow_iff_right₀ (by norm_num)).1 hpowers

/-- The mantissa is rounded to a half of the last place. -/
theorem size_roundQuotient_near (num : Nat) {den : Nat} (hden : 0 < den) (e : Int) :
    |size (roundQuotient (scaleDown num den e).1 (scaleDown num den e).2) e - num / den| ≤
      2 ^ (e - 1) := by
  have hhalf := roundQuotient_near (scaleDown num den e).1 (scaleDown_pos num hden e)
  rw [scaleDown_eq] at hhalf
  generalize roundQuotient (scaleDown num den e).1 (scaleDown num den e).2 = q at hhalf ⊢
  have hpow : (0 : ℚ) < 2 ^ e := by positivity
  calc |size q e - num / den| = |(q : ℚ) - num / den / 2 ^ e| * 2 ^ e := by
        rw [size, ← abs_of_pos hpow, ← abs_mul, abs_of_pos hpow, sub_mul,
          div_mul_cancel₀ _ hpow.ne']
    _ ≤ 1 / 2 * 2 ^ e := by gcongr
    _ = 2 ^ (e - 1) := by
        rw [zpow_sub_one₀ (by norm_num)]
        ring

/-- **How near the rounded number is**: a quotient below `2 ^ j` is missed by no more than
    a unit that lies fifty-four binary places below. -/
theorem round_near {num den j : Nat} (hden : 0 < den) (h : (num : ℚ) / den < 2 ^ j)
    (hj : j ≤ 1000) :
    ∃ m e, round false num den = .finite false m e ∧
      |size m e - num / den| ≤ 2 ^ ((j : Int) - 54) := by
  unfold round
  by_cases hnum : num = 0
  · rw [if_pos hnum]
    refine ⟨0, minExponent, rfl, ?_⟩
    have hzero : size 0 minExponent - num / den = 0 := by simp [size, hnum]
    rw [hzero, abs_zero]
    positivity
  · have hlead := leadingExponent_lt (Nat.pos_of_ne_zero hnum) hden h
    rw [if_neg hnum]
    dsimp only
    generalize he : max (leadingExponent num den - ((precision - 1 : Nat) : Int)) minExponent = e
    have hbound : e ≤ j - 53 := by
      unfold precision minExponent at he
      omega
    have hnear := size_roundQuotient_near num hden e
    generalize roundQuotient (scaleDown num den e).1 (scaleDown num den e).2 = m at hnear ⊢
    have hnear : |size m e - num / den| ≤ 2 ^ ((j : Int) - 54) := by
      refine hnear.trans (zpow_le_zpow_right₀ (by norm_num) ?_)
      omega
    by_cases hcarry : m = Nat.pow 2 precision
    · -- one place more, and the last one dropped
      rw [if_pos hcarry]
      have hfinite : ¬maxExponent < e + 1 := by unfold maxExponent; omega
      refine ⟨m / 2, e + 1, if_neg hfinite, ?_⟩
      have hsize : size (m / 2) (e + 1) = size m e := by
        rw [hcarry]
        unfold size
        rw [zpow_add_one₀ (by norm_num)]
        norm_num [precision]
        ring
      rwa [hsize]
    · rw [if_neg hcarry]
      have hfinite : ¬maxExponent < e := by unfold maxExponent; omega
      exact ⟨m, e, if_neg hfinite, hnear⟩

/-! ## §3. Naturals. -/

section

variable {n : Nat}

theorem leadingExponent_ofNat (hn : 0 < n) : leadingExponent n 1 = n.log2 := by
  have hself : n.log2 = (n.log2 : Int) - (Nat.log2 1 : Int) := by
    rw [show Nat.log2 1 = 0 from rfl, Nat.cast_zero, sub_zero]
  have hscaled : scaleDown n 1 n.log2 = (n, 2 ^ n.log2) := by
    have hup : (-(n.log2 : Int)).toNat = 0 := by omega
    unfold scaleDown
    rw [hup, Int.toNat_natCast]
    show (n * 2 ^ 0, 1 * 2 ^ n.log2) = _
    rw [pow_zero, mul_one, one_mul]
  unfold leadingExponent
  simp only [← hself, hscaled]
  exact if_pos (Nat.log2_self_le hn.ne')

/-- **Naturals are met**, as long as all their places stand in the mantissa. -/
theorem round_ofNat (hn : 0 < n) (hbits : n < 2 ^ 53) :
    round false n 1 = .finite false (n * 2 ^ (52 - n.log2)) (n.log2 - 52) := by
  have hlog : n.log2 < 53 := (Nat.log2_lt hn.ne').2 hbits
  have hexponent : max (leadingExponent n 1 - ((precision - 1 : Nat) : Int)) minExponent =
      n.log2 - 52 := by
    rw [leadingExponent_ofNat hn]
    unfold precision minExponent
    omega
  have hscaled : scaleDown n 1 (n.log2 - 52) = (n * 2 ^ (52 - n.log2), 1) := by
    have hup : (-((n.log2 : Int) - 52)).toNat = 52 - n.log2 := by omega
    have hdown : ((n.log2 : Int) - 52).toNat = 0 := by omega
    unfold scaleDown
    rw [hup, hdown]
    rfl
  have hroom : n * 2 ^ (52 - n.log2) < 2 ^ 53 := by
    calc n * 2 ^ (52 - n.log2) < 2 ^ (n.log2 + 1) * 2 ^ (52 - n.log2) :=
          Nat.mul_lt_mul_of_pos_right Nat.lt_log2_self (by positivity)
      _ = 2 ^ 53 := by
          rw [← pow_add]
          congr 1
          omega
  have hquotient : roundQuotient (n * 2 ^ (52 - n.log2)) 1 = n * 2 ^ (52 - n.log2) := by
    simpa using roundQuotient_mul (n * 2 ^ (52 - n.log2)) Nat.one_pos
  have hfinite : ¬maxExponent < (n.log2 : Int) - 52 := by unfold maxExponent; omega
  unfold round
  rw [if_neg hn.ne']
  simp only [hexponent, hscaled, hquotient]
  rw [if_neg (show ¬n * 2 ^ (52 - n.log2) = Nat.pow 2 precision from hroom.ne), if_neg hfinite]

/-- Zeros behind the last digit. -/
theorem toDigits_mul_pow (hn : 0 < n) (zeros : Nat) :
    Nat.toDigits 10 (n * 10 ^ zeros) = Nat.toDigits 10 n ++ List.replicate zeros '0' := by
  induction zeros with
  | zero => simp
  | succ zeros ih =>
    have hpos : 0 < n * 10 ^ zeros := by positivity
    have hnext : n * 10 ^ (zeros + 1) = n * 10 ^ zeros * 10 := by rw [pow_succ, mul_assoc]
    rw [hnext, Nat.toDigits_of_base_le (by decide) (by omega), Nat.mul_div_cancel _ (by decide),
      Nat.mul_mod_left, ih, List.replicate_succ', List.append_assoc]
    rfl

/-- The digits of a natural, and zeros up to the sixth place. -/
theorem leadingDigits_ofNat (hn : 0 < n) (hdigits : n < 10 ^ 6) {m den : Nat} {e : Int}
    (hm : m ≠ 0) (hden : 0 < den) (hmagnitude : magnitude m e = (n * den, den)) :
    leadingDigits m e 6 =
      (Nat.toDigits 10 n ++ List.replicate (6 - (Nat.toDigits 10 n).length) '0',
        ((Nat.toDigits 10 n).length : Int) - 1) := by
  have hwidth : (Nat.toDigits 10 n).length ≤ 6 :=
    (Nat.length_toDigits_le_iff (by decide) (by decide)).2 hdigits
  have hplace : Decimal.leadingPlace (n * den) den = (Nat.toDigits 10 n).length := by
    unfold Decimal.leadingPlace
    rw [if_pos (Nat.le_mul_of_pos_left den hn), Nat.mul_div_cancel _ hden]
    rfl
  have hbelow : n < 10 ^ (Nat.toDigits 10 n).length :=
    (Nat.length_toDigits_le_iff (by decide) Nat.length_toDigits_pos).1 le_rfl
  generalize hw : (Nat.toDigits 10 n).length = w at hwidth hplace hbelow ⊢
  have hplaces : Decimal.inPlaces (n * den) den ((w : Int) - 6) = (n * 10 ^ (6 - w) * den, den) := by
    have hup : (-((w : Int) - 6)).toNat = 6 - w := by omega
    have hdown : ((w : Int) - 6).toNat = 0 := by omega
    unfold Decimal.inPlaces
    rw [hup, hdown]
    show (n * den * 10 ^ (6 - w), den * 10 ^ 0) = _
    rw [pow_zero, mul_one, Nat.mul_right_comm]
  have hroom : n * 10 ^ (6 - w) < 10 ^ 6 := by
    calc n * 10 ^ (6 - w) < 10 ^ w * 10 ^ (6 - w) :=
          Nat.mul_lt_mul_of_pos_right hbelow (by positivity)
      _ = 10 ^ 6 := by rw [← pow_add, Nat.add_sub_cancel' hwidth]
  have htoPlaces : Decimal.toPlaces (n * den) den 6 = ⟨n * 10 ^ (6 - w), (w : Int) - 6⟩ := by
    unfold Decimal.toPlaces
    simp only [hplace, Nat.cast_ofNat, hplaces, roundQuotient_mul _ hden]
    exact if_neg (show ¬n * 10 ^ (6 - w) = Nat.pow 10 6 from hroom.ne)
  unfold leadingDigits
  rw [if_neg hm, hmagnitude]
  simp only [htoPlaces, toDigits_mul_pow hn, List.length_append, List.length_replicate, hw,
    Prod.mk.injEq, true_and]
  omega

/-- A point behind the first digits, with zeros after it. -/
theorem positional_append_zeros {ds : List Char} (hds : 0 < ds.length) (zeros : Nat) :
    positional (ds ++ List.replicate zeros '0') ((ds.length : Int) - 1 + 1) =
      (ds, List.replicate zeros '0') := by
  have hpoint : ¬(ds.length : Int) - 1 + 1 ≤ 0 := by omega
  have hplace : ((ds.length : Int) - 1 + 1).toNat = ds.length := by omega
  unfold positional
  rw [if_neg hpoint]
  simp only [hplace, List.take_left, List.drop_left, List.length_append]
  rw [Nat.sub_eq_zero_of_le (Nat.le_add_right _ _), List.replicate_zero, List.append_nil]

theorem withoutTrailingZeros_replicate (zeros : Nat) :
    withoutTrailingZeros (List.replicate zeros '0') = [] := by
  simp [withoutTrailingZeros]

/-- **How short naturals are written**: with their digits. -/
theorem brief_round_ofNat (hdigits : n < 10 ^ 6) : (round false n 1).brief = n.repr := by
  rcases Nat.eq_zero_or_pos n with rfl | hn
  · rfl
  have hbits : n < 2 ^ 53 := hdigits.trans (by norm_num)
  have hlog : n.log2 < 53 := (Nat.log2_lt hn.ne').2 hbits
  have hmagnitude : magnitude (n * 2 ^ (52 - n.log2)) (n.log2 - 52) =
      (n * 2 ^ (52 - n.log2), 2 ^ (52 - n.log2)) := by
    have hup : ((n.log2 : Int) - 52).toNat = 0 := by omega
    have hdown : (-((n.log2 : Int) - 52)).toNat = 52 - n.log2 := by omega
    unfold magnitude
    rw [hup, hdown]
    show (_ * 2 ^ 0, _) = _
    rw [pow_zero, mul_one]
    rfl
  have hwidth : (Nat.toDigits 10 n).length ≤ 6 :=
    (Nat.length_toDigits_le_iff (by decide) (by decide)).2 hdigits
  have hpos : 0 < (Nat.toDigits 10 n).length := Nat.length_toDigits_pos
  have hleading := leadingDigits_ofNat hn hdigits (by positivity) (by positivity) hmagnitude
  rw [round_ofNat hn hbits, Nat.repr_eq_ofList_toDigits]
  show String.ofList ([] ++ (general _ _ 6 false).toList) = _
  have hrange : -4 ≤ ((Nat.toDigits 10 n).length : Int) - 1 ∧
      ((Nat.toDigits 10 n).length : Int) - 1 < ((6 : Nat) : Int) := by omega
  have hexact : min 6 mostDigits = 6 := rfl
  unfold general
  simp only [Nat.reduceLeDiff, sup_of_le_left, hexact, hleading, if_pos hrange,
    positional_append_zeros hpos, withoutTrailingZeros_replicate]
  show String.ofList ([] ++ (Nat.toDigits 10 n ++ [] ++ [])) = _
  rw [List.append_nil, List.append_nil, List.nil_append]

end

end Double

end ChangeFeed
