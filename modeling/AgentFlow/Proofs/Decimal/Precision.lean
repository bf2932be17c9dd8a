import Mathlib.Tactic.FieldSimp
import Mathlib.Tactic.NormNum
import AgentFlow.Proofs.Decimal.Rounding

/-!
How far rounding goes.

A quotient of at least one is rounded up by one part in `2 ^ 53` at most, and no quotient below
`overflowBound` is rounded to infinity.
-/

namespace AgentFlow.Binary64

/-- The least number that is rounded to infinity: it lies half a unit above the greatest finite
number. -/
def overflowBound : ℚ := (2 ^ 53 - 1 / 2) * 2 ^ 971

lemma overflowBound_le : overflowBound ≤ 10 ^ (309 : ℤ) := by
  have hnat : (2 : ℕ) ^ 53 * 2 ^ 971 ≤ 10 ^ 309 := by decide +kernel
  have hcast : (2 : ℚ) ^ 53 * 2 ^ 971 ≤ 10 ^ 309 := by exact_mod_cast hnat
  refine le_trans ?_ hcast
  exact mul_le_mul_of_nonneg_right (by norm_num) (by positivity)

lemma roundHalfEven_le_add_half {n d : ℕ} (hd : 0 < d) :
    (roundHalfEven n d : ℚ) ≤ n / d + 1 / 2 := by
  have hnat : 2 * (roundHalfEven n d * d) ≤ 2 * n + d := by
    have hsplit := Nat.div_add_mod n d
    rw [Nat.mul_comm] at hsplit
    have hup : d ≤ 2 * (n % d) → 2 * ((n / d + 1) * d) ≤ 2 * n + d := by
      intro h
      rw [Nat.add_mul, Nat.one_mul]
      omega
    unfold roundHalfEven
    dsimp only
    split
    · omega
    · next h =>
      split
      · exact hup (by omega)
      · split
        · omega
        · exact hup (by omega)
  have hpos : (0 : ℚ) < d := by exact_mod_cast hd
  have hcast : 2 * ((roundHalfEven n d : ℚ) * d) ≤ 2 * n + d := by exact_mod_cast hnat
  have hle : (roundHalfEven n d : ℚ) ≤ (2 * n + d) / (2 * d) := by
    rw [le_div_iff₀ (by positivity)]
    linarith
  refine hle.trans_eq ?_
  field_simp

/-- A significand of fifty-three bits counts units of its scale; the next power of two begins the
next scale. -/
lemma grade_of_significand (k : ℕ) {s : ℕ} (hlow : pow2 52 ≤ s) (hhigh : s ≤ pow2 53) :
    grade (k * pow2 52 + s) = s * 2 ^ ((k : ℤ) - 1074) := by
  have hpos : 0 < pow2 52 := Nat.pow_pos (by omega)
  have hdouble : pow2 53 = pow2 52 + pow2 52 := rfl
  rcases Nat.lt_or_ge s (pow2 53) with hlt | hge
  · obtain ⟨r, rfl⟩ := Nat.exists_eq_add_of_le hlow
    have hr : r < pow2 52 := by omega
    have hsum : k * pow2 52 + (pow2 52 + r) = pow2 52 * (k + 1) + r := by ring
    have hscale : (((max (k + 1) 1 : ℕ) : ℤ) - 1075) = (k : ℤ) - 1074 := by omega
    rw [hsum, grade, Nat.mul_add_div hpos, Nat.mul_add_mod, Nat.div_eq_of_lt hr,
      Nat.mod_eq_of_lt hr, Nat.add_zero, if_neg (Nat.succ_ne_zero k), hscale]
  · obtain rfl : s = pow2 53 := by omega
    have hsum : k * pow2 52 + pow2 53 = pow2 52 * (k + 2) := by rw [hdouble]; ring
    have hscale : (2 : ℚ) ^ (((max (k + 2) 1 : ℕ) : ℤ) - 1075) = 2 * 2 ^ ((k : ℤ) - 1074) := by
      rw [← zpow_one_add₀ two_ne_zero]
      congr 1
      omega
    rw [hsum, grade, Nat.mul_div_cancel_left _ hpos, Nat.mul_mod_right, Nat.add_zero,
      if_neg (Nat.succ_ne_zero _), hscale, hdouble]
    push_cast
    ring

lemma roundHalfEven_shifted_le_add_half (num : ℕ) {den : ℕ} (hden : 0 < den) (unit : ℤ) :
    (roundHalfEven (shifted num den (-unit)).1 (shifted num den (-unit)).2 : ℚ) ≤
      num / den * 2 ^ (-unit) + 1 / 2 := by
  obtain ⟨hpos, hratio⟩ := shifted_spec num hden (-unit)
  exact hratio ▸ roundHalfEven_le_add_half hpos

/-- **Rounding is precise**: a quotient of at least one is rounded up by one part in `2 ^ 53` at
most. -/
theorem grade_ofRatio_le (negative : Bool) {num den : ℕ} (hden : 0 < den) (h : den ≤ num) :
    grade (ofRatio negative num den).magnitude ≤ num / den * (1 + 1 / 2 ^ 53) := by
  have hnum : num ≠ 0 := by omega
  obtain ⟨hlow, hhigh⟩ := binaryExponent_spec (Nat.pos_of_ne_zero hnum) hden
  have he : 0 ≤ binaryExponent num den := by
    have hone : (2 : ℚ) ^ (0 : ℤ) ≤ num / den := by
      rw [zpow_zero, one_le_div (by exact_mod_cast hden)]
      exact_mod_cast h
    have := (zpow_lt_zpow_iff_right₀ one_lt_two).1 (hone.trans_lt hhigh)
    omega
  rw [magnitude_ofRatio negative den hnum]
  refine (grade_strictMono.monotone (min_le_left _ _)).trans ?_
  rw [show max (binaryExponent num den - 52) (-1074) = binaryExponent num den - 52 by omega]
  generalize binaryExponent num den = e at hlow hhigh he ⊢
  have hs52 := le_roundHalfEven_shifted hden hlow (show ((52 : ℕ) : ℤ) ≤ e - (e - 52) by omega)
  have hs53 := roundHalfEven_shifted_le hden hhigh.le
    (show e + 1 - (e - 52) ≤ ((53 : ℕ) : ℤ) by omega)
  have hhalf := roundHalfEven_shifted_le_add_half num hden (e - 52)
  generalize roundHalfEven _ _ = s at hs52 hs53 hhalf ⊢
  have hscale : (((e - 52 + 1074).toNat : ℕ) : ℤ) - 1074 = e - 52 := by omega
  rw [grade_of_significand _ hs52 hs53, hscale]
  -- half a unit is one part in `2 ^ 53` of a significand of fifty-three bits
  have hunits : (2 : ℚ) ^ 52 ≤ num / den * 2 ^ (-(e - 52)) := by
    calc (2 : ℚ) ^ 52 = 2 ^ e * 2 ^ (-(e - 52)) := by
          rw [← zpow_add₀ two_ne_zero, ← zpow_natCast]
          congr 1
          omega
      _ ≤ num / den * 2 ^ (-(e - 52)) := mul_le_mul_of_nonneg_right hlow (by positivity)
  calc (s : ℚ) * 2 ^ (e - 52)
      ≤ (num / den * 2 ^ (-(e - 52)) * (1 + 1 / 2 ^ 53)) * 2 ^ (e - 52) := by
        refine mul_le_mul_of_nonneg_right (hhalf.trans ?_) (by positivity)
        linarith
    _ = num / den * (1 + 1 / 2 ^ 53) := by
        rw [zpow_neg]
        field_simp

lemma roundHalfEven_lt {n d bound : ℕ} (hd : 0 < d) (h : (n / d : ℚ) < bound - 1 / 2) :
    roundHalfEven n d < bound := by
  have hle := roundHalfEven_le_add_half (n := n) hd
  have hlt : (roundHalfEven n d : ℚ) < bound := by linarith
  exact_mod_cast hlt

/-- **Overflow has a bound**: below it no quotient is rounded to infinity. -/
theorem isFinite_ofRatio_of_lt (negative : Bool) {num den : ℕ} (hden : 0 < den)
    (h : (num / den : ℚ) < overflowBound) : (ofRatio negative num den).isFinite = true := by
  have hinf : infinityBits = 2047 * pow2 52 := rfl
  have h52 : pow2 52 = 4503599627370496 := rfl
  have h53 : pow2 53 = 9007199254740992 := rfl
  simp only [isFinite, decide_eq_true_eq]
  by_cases hnum : num = 0
  · rw [ofRatio, if_pos hnum, magnitude_ofMagnitude negative (Nat.zero_le _), hinf, h52]
    omega
  rw [magnitude_ofRatio negative den hnum]
  refine (min_le_left _ _).trans_lt ?_
  obtain ⟨hlow, hhigh⟩ := binaryExponent_spec (Nat.pos_of_ne_zero hnum) hden
  generalize binaryExponent num den = e at hlow hhigh ⊢
  have he : e < 1024 := by
    have hlt : (2 : ℚ) ^ e < 2 ^ ((53 + 971 : ℕ) : ℤ) := by
      refine hlow.trans_lt (h.trans ?_)
      rw [zpow_natCast, pow_add, overflowBound]
      refine mul_lt_mul_of_pos_right ?_ (by positivity)
      norm_num
    exact (zpow_lt_zpow_iff_right₀ one_lt_two).1 hlt
  rcases Int.lt_or_le e 1023 with hlt | hge
  · have hround := roundHalfEven_shifted_le hden hhigh.le
      (show e + 1 - max (e - 52) (-1074) ≤ ((53 : ℕ) : ℤ) by omega)
    have hunit : (max (e - 52) (-1074) + 1074).toNat ≤ 2044 := by omega
    rw [h53] at hround
    rw [hinf, h52]
    omega
  · -- only in the highest binade does the bound itself decide
    obtain rfl : e = 1023 := by omega
    rw [show max (1023 - 52) (-1074) = (971 : ℤ) by omega]
    obtain ⟨hpos, hratio⟩ := shifted_spec num hden (-971)
    have hround :
        roundHalfEven (shifted num den (-971)).1 (shifted num den (-971)).2 < pow2 53 := by
      refine roundHalfEven_lt hpos ?_
      rw [hratio, cast_pow2]
      calc (num / den : ℚ) * 2 ^ (-971 : ℤ) < overflowBound * 2 ^ (-971 : ℤ) :=
            mul_lt_mul_of_pos_right h (by positivity)
        _ = ((2 ^ 53 : ℚ) - 1 / 2) := by
            rw [overflowBound, mul_assoc, ← zpow_natCast (2 : ℚ) 971, ← zpow_add₀ two_ne_zero]
            simp
    rw [h53] at hround
    rw [hinf, h52]
    omega

/-! ### Products -/

lemma grade_ofNat_le (n : ℕ) : grade (ofNat n).magnitude ≤ n * (1 + 1 / 2 ^ 53) := by
  rcases Nat.eq_zero_or_pos n with rfl | hn
  · have hzero : (ofNat 0).magnitude = 0 := by decide
    rw [hzero, grade_zero, Nat.cast_zero, zero_mul]
  · have h := grade_ofRatio_le false one_pos hn
    rwa [Nat.cast_one, div_one] at h

lemma isFinite_mul_of_lt {x y : Binary64}
    (h : grade x.magnitude * grade y.magnitude < overflowBound) : (x.mul y).isFinite = true := by
  obtain ⟨hxpos, hxratio⟩ := ratio_spec x
  obtain ⟨hypos, hyratio⟩ := ratio_spec y
  refine isFinite_ofRatio_of_lt _ (Nat.mul_pos hxpos hypos) ?_
  rw [Nat.cast_mul, Nat.cast_mul, ← div_mul_div_comm, hxratio, hyratio]
  exact h

lemma isInfinite_eq_false {x : Binary64} (h : x.isFinite = true) : x.isInfinite = false := by
  simp only [isFinite, isInfinite, decide_eq_true_eq, decide_eq_false_iff_not] at *
  omega

end AgentFlow.Binary64
