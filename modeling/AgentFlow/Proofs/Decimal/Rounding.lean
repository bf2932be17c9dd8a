import Mathlib.Tactic.Ring
import AgentFlow.Proofs.Decimal.BinaryValue

/-!
The size of a rounded quotient.

Rounding does not cross a power of two: a quotient below `2 ^ k` is rounded to at most `2 ^ k`, and
one that is at least one to at least one.
-/

namespace AgentFlow

lemma cast_pow2 (n : ℕ) : (pow2 n : ℚ) = 2 ^ n := by
  have h : pow2 n = 2 ^ n := rfl
  rw [h, Nat.cast_pow, Nat.cast_ofNat]

namespace Binary64

/-! ### Fractions -/

lemma shifted_spec (num : ℕ) {den : ℕ} (hden : 0 < den) (shift : ℤ) :
    0 < (shifted num den shift).2 ∧
      ((shifted num den shift).1 / (shifted num den shift).2 : ℚ) = num / den * 2 ^ shift := by
  unfold shifted
  split
  · next h =>
    obtain ⟨k, rfl⟩ := Int.eq_ofNat_of_zero_le h
    refine ⟨hden, ?_⟩
    simp only [Int.toNat_natCast, Nat.cast_mul, cast_pow2, zpow_natCast]
    ring
  · next h =>
    obtain ⟨k, rfl⟩ : ∃ k : ℕ, shift = -k := ⟨(-shift).toNat, by omega⟩
    refine ⟨Nat.mul_pos hden (Nat.pow_pos (by omega)), ?_⟩
    simp only [neg_neg, Int.toNat_natCast, Nat.cast_mul, cast_pow2, zpow_neg, zpow_natCast]
    rw [div_mul_eq_div_div, div_eq_mul_inv _ ((2 : ℚ) ^ k)]

lemma log2_spec {n : ℕ} (hn : 0 < n) :
    (2 : ℚ) ^ (n.log2 : ℤ) ≤ n ∧ (n : ℚ) < 2 ^ (n.log2 + 1 : ℤ) := by
  have hlow : 2 ^ n.log2 ≤ n := Nat.log2_self_le (by omega)
  have hhigh : n < 2 ^ (n.log2 + 1) := Nat.lt_log2_self
  refine ⟨?_, ?_⟩
  · rw [zpow_natCast]
    exact_mod_cast hlow
  · have hcast : ((n.log2 + 1 : ℕ) : ℤ) = n.log2 + 1 := by omega
    rw [← hcast, zpow_natCast]
    exact_mod_cast hhigh

/-- The binary lengths of numerator and denominator tell the quotient up to a factor of four. -/
lemma log2_quotient {num den : ℕ} (hnum : 0 < num) (hden : 0 < den) :
    (2 : ℚ) ^ ((num.log2 : ℤ) - den.log2 - 1) ≤ num / den ∧
      (num / den : ℚ) < 2 ^ ((num.log2 : ℤ) - den.log2 + 1) := by
  obtain ⟨hnlow, hnhigh⟩ := log2_spec hnum
  obtain ⟨hdlow, hdhigh⟩ := log2_spec hden
  have hdpos : (0 : ℚ) < den := by exact_mod_cast hden
  refine ⟨?_, ?_⟩
  · rw [le_div_iff₀ hdpos]
    calc (2 : ℚ) ^ ((num.log2 : ℤ) - den.log2 - 1) * den
        ≤ 2 ^ ((num.log2 : ℤ) - den.log2 - 1) * 2 ^ (den.log2 + 1 : ℤ) :=
          mul_le_mul_of_nonneg_left hdhigh.le (by positivity)
      _ = 2 ^ (num.log2 : ℤ) := by
        rw [← zpow_add₀ two_ne_zero]
        congr 1
        omega
      _ ≤ num := hnlow
  · rw [div_lt_iff₀ hdpos]
    calc (num : ℚ) < 2 ^ (num.log2 + 1 : ℤ) := hnhigh
      _ = 2 ^ ((num.log2 : ℤ) - den.log2 + 1) * 2 ^ (den.log2 : ℤ) := by
        rw [← zpow_add₀ two_ne_zero]
        congr 1
        omega
      _ ≤ 2 ^ ((num.log2 : ℤ) - den.log2 + 1) * den :=
        mul_le_mul_of_nonneg_left hdlow (by positivity)

/-- The exponent brackets the quotient between two powers of two. -/
lemma binaryExponent_spec {num den : ℕ} (hnum : 0 < num) (hden : 0 < den) :
    (2 : ℚ) ^ binaryExponent num den ≤ num / den ∧
      (num / den : ℚ) < 2 ^ (binaryExponent num den + 1) := by
  obtain ⟨hlow, hhigh⟩ := log2_quotient hnum hden
  unfold binaryExponent
  generalize (num.log2 : ℤ) - den.log2 = guess at hlow hhigh ⊢
  obtain ⟨hpos, hratio⟩ := shifted_spec num hden (-guess)
  -- the comparison of the shifted fraction with one decides between two exponents
  have hone : (0 : ℚ) < (shifted num den (-guess)).2 := by exact_mod_cast hpos
  have hcompare : (shifted num den (-guess)).1 < (shifted num den (-guess)).2 ↔
      (num / den : ℚ) < 2 ^ guess := by
    rw [← Nat.cast_lt (α := ℚ), ← div_lt_one hone, hratio, zpow_neg,
      mul_inv_lt_iff₀ (by positivity), one_mul]
  dsimp only
  split
  · next h => exact ⟨hlow, by rw [sub_add_cancel]; exact hcompare.1 h⟩
  · next h => exact ⟨not_lt.1 (mt hcompare.2 h), hhigh⟩

/-! ### Rounding -/

lemma roundHalfEven_le {n d bound : ℕ} (hd : 0 < d) (h : n ≤ bound * d) :
    roundHalfEven n d ≤ bound := by
  have hquot : n / d ≤ bound := (Nat.div_le_iff_le_mul_add_pred hd).2 (by nlinarith)
  have hstep : n % d ≠ 0 → n / d + 1 ≤ bound := by
    intro hrest
    by_contra hcontra
    have heq : n / d = bound := by omega
    have hsplit := Nat.div_add_mod n d
    rw [heq, Nat.mul_comm] at hsplit
    omega
  unfold roundHalfEven
  dsimp only
  split
  · exact hquot
  · have := hstep (by omega)
    split
    · exact this
    · split <;> omega

lemma le_roundHalfEven {n d bound : ℕ} (hd : 0 < d) (h : bound * d ≤ n) :
    bound ≤ roundHalfEven n d := by
  have hquot : bound ≤ n / d := (Nat.le_div_iff_mul_le hd).2 h
  unfold roundHalfEven
  dsimp only
  split
  · exact hquot
  · split
    · omega
    · split <;> omega

lemma magnitude_ofMagnitude (negative : Bool) {m : ℕ} (h : m ≤ infinityBits) :
    (ofMagnitude negative m).magnitude = m := by
  have hinf : infinityBits = 9218868437227405312 := rfl
  have h63 : pow2 63 = 9223372036854775808 := rfl
  unfold magnitude ofMagnitude
  rw [UInt64.toNat_ofNat', h63]
  cases negative <;> simp <;> omega

lemma ofMagnitude_magnitude (x : Binary64) :
    ofMagnitude x.isNegative x.magnitude = x := by
  have hbits : x.bits.toNat < 2 ^ 64 := x.bits.toNat_lt
  have h63 : pow2 63 = 9223372036854775808 := rfl
  have hsum : (if x.isNegative then pow2 63 else 0) + x.magnitude = x.bits.toNat := by
    simp only [isNegative, magnitude, decide_eq_true_eq, h63]
    split <;> omega
  rw [ofMagnitude, hsum, UInt64.ofNat_toNat]

lemma magnitude_ofRatio (negative : Bool) {num : ℕ} (den : ℕ) (hnum : num ≠ 0) :
    (ofRatio negative num den).magnitude =
      min ((max (binaryExponent num den - 52) (-1074) + 1074).toNat * pow2 52 +
        roundHalfEven (shifted num den (-max (binaryExponent num den - 52) (-1074))).1
          (shifted num den (-max (binaryExponent num den - 52) (-1074))).2) infinityBits := by
  rw [ofRatio, if_neg hnum]
  exact magnitude_ofMagnitude negative (min_le_right _ _)

lemma roundHalfEven_shifted_le {num den : ℕ} (hden : 0 < den) {e unit : ℤ}
    (h : (num / den : ℚ) ≤ 2 ^ e) {w : ℕ} (hw : e - unit ≤ w) :
    roundHalfEven (shifted num den (-unit)).1 (shifted num den (-unit)).2 ≤ pow2 w := by
  obtain ⟨hpos, hratio⟩ := shifted_spec num hden (-unit)
  generalize shifted num den (-unit) = fraction at hpos hratio ⊢
  have hdpos : (0 : ℚ) < fraction.2 := by exact_mod_cast hpos
  refine roundHalfEven_le hpos ?_
  have hle : (fraction.1 / fraction.2 : ℚ) ≤ 2 ^ w := by
    rw [hratio, ← zpow_natCast]
    calc (num / den : ℚ) * 2 ^ (-unit) ≤ 2 ^ e * 2 ^ (-unit) :=
          mul_le_mul_of_nonneg_right h (by positivity)
      _ = 2 ^ (e - unit) := by rw [← zpow_add₀ two_ne_zero, ← sub_eq_add_neg e]
      _ ≤ 2 ^ (w : ℤ) := zpow_le_zpow_right₀ one_le_two hw
  rw [div_le_iff₀ hdpos, ← cast_pow2] at hle
  exact_mod_cast hle

lemma le_roundHalfEven_shifted {num den : ℕ} (hden : 0 < den) {e unit : ℤ}
    (h : (2 : ℚ) ^ e ≤ num / den) {w : ℕ} (hw : (w : ℤ) ≤ e - unit) :
    pow2 w ≤ roundHalfEven (shifted num den (-unit)).1 (shifted num den (-unit)).2 := by
  obtain ⟨hpos, hratio⟩ := shifted_spec num hden (-unit)
  generalize shifted num den (-unit) = fraction at hpos hratio ⊢
  have hdpos : (0 : ℚ) < fraction.2 := by exact_mod_cast hpos
  refine le_roundHalfEven hpos ?_
  have hge : (2 : ℚ) ^ w ≤ fraction.1 / fraction.2 := by
    rw [hratio, ← zpow_natCast]
    calc (2 : ℚ) ^ (w : ℤ) ≤ 2 ^ (e - unit) := zpow_le_zpow_right₀ one_le_two hw
      _ = 2 ^ e * 2 ^ (-unit) := by rw [← zpow_add₀ two_ne_zero, ← sub_eq_add_neg e]
      _ ≤ num / den * 2 ^ (-unit) := mul_le_mul_of_nonneg_right h (by positivity)
  rw [le_div_iff₀ hdpos, ← cast_pow2] at hge
  exact_mod_cast hge

lemma magnitude_ofRatio_le (negative : Bool) {num den k : ℕ} (hden : 0 < den)
    (h : (num / den : ℚ) < 2 ^ k) :
    (ofRatio negative num den).magnitude ≤ (k + 1023) * pow2 52 := by
  by_cases hnum : num = 0
  · rw [ofRatio, if_pos hnum, magnitude_ofMagnitude negative (Nat.zero_le _)]
    exact Nat.zero_le _
  rw [magnitude_ofRatio negative den hnum]
  refine (min_le_left _ _).trans ?_
  obtain ⟨hlow, hhigh⟩ := binaryExponent_spec (Nat.pos_of_ne_zero hnum) hden
  generalize binaryExponent num den = e at hlow hhigh ⊢
  have he : e < k := by
    have hlt : (2 : ℚ) ^ e < 2 ^ (k : ℤ) := by
      rw [zpow_natCast]
      exact hlow.trans_lt h
    exact (zpow_lt_zpow_iff_right₀ one_lt_two).1 hlt
  have h52 : pow2 52 = 4503599627370496 := rfl
  have h53 : pow2 53 = 9007199254740992 := rfl
  -- a normal number has a significand of fifty-three bits, a subnormal one of fifty-two at most
  by_cases hnormal : -1022 ≤ e
  · have hround := roundHalfEven_shifted_le hden hhigh.le
      (show e + 1 - max (e - 52) (-1074) ≤ (53 : ℕ) by omega)
    rw [h53] at hround
    have hunit : (max (e - 52) (-1074) + 1074).toNat + 2 ≤ k + 1023 := by omega
    rw [h52]
    omega
  · have hround := roundHalfEven_shifted_le hden hhigh.le
      (show e + 1 - max (e - 52) (-1074) ≤ (52 : ℕ) by omega)
    rw [h52] at hround
    have hunit : (max (e - 52) (-1074) + 1074).toNat = 0 := by omega
    rw [h52]
    omega

lemma le_magnitude_ofRatio (negative : Bool) {num den : ℕ} (hden : 0 < den) (h : den ≤ num) :
    1023 * pow2 52 ≤ (ofRatio negative num den).magnitude := by
  have hnum : num ≠ 0 := by omega
  rw [magnitude_ofRatio negative den hnum]
  obtain ⟨hlow, hhigh⟩ := binaryExponent_spec (Nat.pos_of_ne_zero hnum) hden
  generalize binaryExponent num den = e at hlow hhigh ⊢
  have he : 0 ≤ e := by
    have hone : (2 : ℚ) ^ (0 : ℤ) ≤ num / den := by
      rw [zpow_zero, one_le_div (by exact_mod_cast hden)]
      exact_mod_cast h
    have := (zpow_lt_zpow_iff_right₀ one_lt_two).1 (hone.trans_lt hhigh)
    omega
  have hround := le_roundHalfEven_shifted hden hlow
    (show ((52 : ℕ) : ℤ) ≤ e - max (e - 52) (-1074) by omega)
  have hunit : 1022 ≤ (max (e - 52) (-1074) + 1074).toNat := by omega
  have hinf : infinityBits = 2047 * pow2 52 := rfl
  have h52 : pow2 52 = 4503599627370496 := rfl
  rw [hinf]
  rw [h52] at hround ⊢
  omega

/-! ### Bounds in powers of two -/

lemma grade_pow (k : ℕ) : grade ((k + 1023) * pow2 52) = 2 ^ k := by
  have h52 : pow2 52 = 4503599627370496 := rfl
  have hdiv : (k + 1023) * pow2 52 / pow2 52 = k + 1023 := Nat.mul_div_cancel _ (by omega)
  have hmax : max (k + 1023) 1 = k + 1023 := by omega
  have hexp : ((52 : ℕ) : ℤ) + (((k + 1023 : ℕ) : ℤ) - 1075) = k := by omega
  rw [grade, hdiv, Nat.mul_mod_left, hmax, if_neg (by omega), Nat.add_zero, cast_pow2,
    ← zpow_natCast, ← zpow_natCast, ← zpow_add₀ two_ne_zero, hexp]

lemma ratio_spec (x : Binary64) :
    0 < x.ratio.2 ∧ (x.ratio.1 / x.ratio.2 : ℚ) = grade x.magnitude := by
  obtain ⟨hpos, hratio⟩ := shifted_spec x.significand one_pos x.scale
  refine ⟨hpos, hratio.trans ?_⟩
  rw [Nat.cast_one, div_one]
  rfl

/-- A number of at least one may divide without making the quotient larger. -/
lemma magnitude_div_le {x y : Binary64} {k : ℕ} (hx : x.magnitude ≤ (k + 1023) * pow2 52)
    (hy : 1023 * pow2 52 ≤ y.magnitude) :
    (x.div y).magnitude ≤ (k + 1 + 1023) * pow2 52 := by
  obtain ⟨hxpos, hxratio⟩ := ratio_spec x
  obtain ⟨hypos, hyratio⟩ := ratio_spec y
  have hxle : grade x.magnitude ≤ 2 ^ k := grade_pow k ▸ grade_strictMono.monotone hx
  have hyge : 1 ≤ grade y.magnitude := by
    have h := grade_strictMono.monotone hy
    have hone := grade_pow 0
    rw [Nat.zero_add, pow_zero] at hone
    rwa [hone] at h
  have hynum : 0 < y.ratio.1 := by
    rw [← hyratio] at hyge
    rcases Nat.eq_zero_or_pos y.ratio.1 with h0 | hpos
    · rw [h0, Nat.cast_zero, zero_div] at hyge
      linarith
    · exact hpos
  refine magnitude_ofRatio_le _ (Nat.mul_pos hxpos hynum) ?_
  have hquot : ((x.ratio.1 * y.ratio.2 : ℕ) / (x.ratio.2 * y.ratio.1 : ℕ) : ℚ) =
      grade x.magnitude / grade y.magnitude := by
    rw [← hxratio, ← hyratio, div_div_div_eq, Nat.cast_mul, Nat.cast_mul]
  rw [hquot]
  calc grade x.magnitude / grade y.magnitude ≤ grade x.magnitude :=
        div_le_self (grade_nonneg _) hyge
    _ ≤ 2 ^ k := hxle
    _ < 2 ^ (k + 1) := pow_lt_pow_right₀ one_lt_two (Nat.lt_succ_self k)

lemma isFinite_of_magnitude_le {x : Binary64} {k : ℕ} (h : x.magnitude ≤ (k + 1023) * pow2 52)
    (hk : k < 1024) : x.isFinite = true := by
  have hinf : infinityBits = 2047 * 4503599627370496 := rfl
  have h52 : pow2 52 = 4503599627370496 := rfl
  simp only [isFinite, decide_eq_true_eq, hinf]
  rw [h52] at h
  omega

lemma isFinite_negate {x : Binary64} (h : x.isFinite = true) : x.negate.isFinite = true := by
  simp only [isFinite, decide_eq_true_eq] at h ⊢
  rw [negate, magnitude_ofMagnitude _ h.le]
  exact h

/-- A rounded quotient that does not overflow is finite: it is never a NaN. -/
lemma isFinite_ofRatio {negative : Bool} {num den : ℕ}
    (h : ¬(ofRatio negative num den).isInfinite = true) :
    (ofRatio negative num den).isFinite = true := by
  have hle : (ofRatio negative num den).magnitude ≤ infinityBits := by
    by_cases hnum : num = 0
    · rw [ofRatio, if_pos hnum, magnitude_ofMagnitude negative (Nat.zero_le _)]
      exact Nat.zero_le _
    · rw [magnitude_ofRatio negative den hnum]
      exact min_le_right _ _
  simp only [isInfinite, decide_eq_true_eq] at h
  simp only [isFinite, decide_eq_true_eq]
  exact lt_of_le_of_ne hle h

end Binary64

end AgentFlow
