import AgentFlow.Decimal.Shortest
import AgentFlow.Proofs.Decimal.Rounding

/-!
The digits that are picked for a number.

They lie in the interval of the reals that round to it, and so they are at most half a unit above
it. Where no digits are found there are none, which stands for zero.
-/

namespace AgentFlow.Decimal

lemma cast_pow10 (n : ℕ) : (pow10 n : ℚ) = 10 ^ n := by
  have h : pow10 n = 10 ^ n := rfl
  rw [h, Nat.cast_pow, Nat.cast_ofNat]

namespace Scientific

/-- The number that the digits and the exponent denote. -/
def toRat (s : Scientific) : ℚ := s.digits * 10 ^ s.exponent

lemma toRat_strip (n : ℕ) (s : Scientific) : (strip n s).toRat = s.toRat := by
  induction n generalizing s with
  | zero => rfl
  | succ n ih =>
    unfold strip
    split
    · next h =>
      have hdigits : s.digits = s.digits / 10 * 10 := by omega
      rw [ih, toRat, toRat, zpow_add_one₀ (by norm_num)]
      conv_rhs => rw [hdigits]
      push_cast
      ring
    · rfl

lemma digits_strip_ne_zero (n : ℕ) {s : Scientific} (h : s.digits ≠ 0) :
    (strip n s).digits ≠ 0 := by
  induction n generalizing s with
  | zero => exact h
  | succ n ih =>
    unfold strip
    split
    · next hzero => exact ih (by change s.digits / 10 ≠ 0; omega)
    · exact h

end Scientific

/-- The power of ten of a grid as a fraction. -/
lemma grid_spec (exponent : ℤ) {p q : ℕ}
    (h : (if 0 ≤ exponent then (pow10 exponent.toNat, 1) else (1, pow10 (-exponent).toNat)) =
      (p, q)) : 0 < q ∧ (p / q : ℚ) = 10 ^ exponent := by
  split at h
  · next hnonneg =>
    obtain ⟨k, rfl⟩ := Int.eq_ofNat_of_zero_le hnonneg
    cases h
    refine ⟨one_pos, ?_⟩
    rw [Int.toNat_natCast, cast_pow10, Nat.cast_one, div_one, zpow_natCast]
  · next hneg =>
    obtain ⟨k, rfl⟩ : ∃ k : ℕ, exponent = -k := ⟨(-exponent).toNat, by omega⟩
    cases h
    refine ⟨Nat.pow_pos (by omega), ?_⟩
    rw [neg_neg, Int.toNat_natCast, cast_pow10, Nat.cast_one, one_div, zpow_neg, zpow_natCast]

namespace Rounding

lemma le_of_contains {r : Rounding} {digits num den : ℕ} (h : r.contains digits num den = true) :
    r.lower * den ≤ digits * num ∧ digits * num ≤ r.upper * den := by
  unfold contains at h
  dsimp only at h
  split at h <;> simp only [Bool.and_eq_true, decide_eq_true_eq] at h <;> omega

end Rounding

/-- The digits lie in the interval, unless none are found. -/
lemma search_spec {r : Rounding} (hr : 0 < r.lower) (scale top : ℤ) (tie : Tie) (fuel n : ℕ) :
    search r scale top tie fuel n = ⟨0, 0⟩ ∨
      (search r scale top tie fuel n).digits ≠ 0 ∧
        (search r scale top tie fuel n).toRat ≤ r.upper * 2 ^ (scale - 2) := by
  induction fuel generalizing n with
  | zero => exact .inl rfl
  | succ fuel ih =>
    unfold search
    dsimp only
    generalize top - (n : ℤ) + 1 = exponent
    generalize hpower : (if 0 ≤ exponent then (pow10 exponent.toNat, 1)
      else (1, pow10 (-exponent).toNat)) = power
    obtain ⟨hpos, hratio⟩ := grid_spec exponent hpower
    obtain ⟨hden, hunit⟩ := Binary64.shifted_spec power.1 hpos (2 - scale)
    generalize Binary64.shifted power.1 power.2 (2 - scale) = unit at hden hunit ⊢
    generalize r.value * unit.2 / unit.1 = below
    split
    · next digits hpick =>
      have hinside : r.contains digits unit.1 unit.2 = true := by
        split at hpick
        · next hboth =>
          rw [Bool.and_eq_true] at hboth
          split at hpick <;> cases hpick
          · exact hboth.1
          · exact hboth.2
          · exact hboth.2
          · split
            · exact hboth.1
            · exact hboth.2
        · split at hpick
          · next hlower => cases hpick; exact hlower
          · split at hpick <;> cases hpick
            assumption
      obtain ⟨hlow, hhigh⟩ := Rounding.le_of_contains hinside
      have hne : digits ≠ 0 := by
        rintro rfl
        have := Nat.mul_pos hr hden
        omega
      refine .inr ⟨Scientific.digits_strip_ne_zero 20 hne, ?_⟩
      rw [Scientific.toRat_strip]
      have hdenpos : (0 : ℚ) < unit.2 := by exact_mod_cast hden
      have hinunits : (digits : ℚ) * (10 ^ exponent * 2 ^ (2 - scale)) ≤ r.upper := by
        rw [← hratio, ← hunit, ← mul_div_assoc, div_le_iff₀ hdenpos]
        exact_mod_cast hhigh
      calc (digits : ℚ) * 10 ^ exponent
          = digits * (10 ^ exponent * 2 ^ (2 - scale)) * 2 ^ (scale - 2) := by
            rw [mul_assoc, mul_assoc, ← zpow_add₀ two_ne_zero, sub_add_sub_cancel, sub_self,
              zpow_zero, mul_one]
        _ ≤ r.upper * 2 ^ (scale - 2) := mul_le_mul_of_nonneg_right hinunits (by positivity)
    · exact ih (n + 1)

/-- **The digits of a number are at most half a unit above it**, unless none are found. -/
theorem shortest_spec (tie : Tie) {x : Binary64} (hx : x.significand ≠ 0) :
    shortest tie x = ⟨0, 0⟩ ∨ (shortest tie x).digits ≠ 0 ∧
      (shortest tie x).toRat ≤ (x.significand + 1 / 2) * 2 ^ x.scale := by
  have hlower : 0 < (Rounding.around x).lower := by
    unfold Rounding.around
    dsimp only
    split <;> omega
  have hupper : ((Rounding.around x).upper : ℚ) * 2 ^ (x.scale - 2) =
      (x.significand + 1 / 2) * 2 ^ x.scale := by
    have hcast : ((Rounding.around x).upper : ℚ) = 4 * x.significand + 2 := by
      simp [Rounding.around]
    rw [hcast, zpow_sub₀ two_ne_zero]
    ring
  exact hupper ▸ search_spec hlower x.scale _ tie 18 1

end AgentFlow.Decimal
