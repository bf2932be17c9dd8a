import Mathlib.Algebra.Order.Field.Rat
import Mathlib.Algebra.Order.Field.Power
import Mathlib.Order.Monotone.Basic
import Mathlib.Tactic.Linarith
import Mathlib.Tactic.Positivity
import AgentFlow.Decimal.Binary64

/-!
The values of binary64 numbers as rationals.

The bits below the sign count the numbers upwards from zero, so that comparing the bits compares the
values.
-/

namespace AgentFlow.Binary64

/-- The value of the magnitude `m`. -/
def grade (m : ℕ) : ℚ :=
  (if m / pow2 52 = 0 then m else pow2 52 + m % pow2 52 : ℕ) *
    2 ^ ((max (m / pow2 52) 1 : ℕ) - 1075 : ℤ)

/-- The value of a finite number: its significand in units of its scale. An infinity counts as
`2 ^ 1024` here, which is above the values of all finite numbers. -/
def toRat (x : Binary64) : ℚ :=
  (if x.isNegative then -1 else 1) * (x.significand * 2 ^ x.scale)

lemma toRat_eq (x : Binary64) :
    x.toRat = if x.isNegative then -grade x.magnitude else grade x.magnitude := by
  have hgrade : (x.significand * 2 ^ x.scale : ℚ) = grade x.magnitude := rfl
  rw [toRat, hgrade]
  split <;> simp

lemma grade_lt_succ (m : ℕ) : grade m < grade (m + 1) := by
  have hp : pow2 52 = 4503599627370496 := rfl
  unfold grade
  rw [hp]
  by_cases hr : m % 4503599627370496 + 1 < 4503599627370496
  · have hq : (m + 1) / 4503599627370496 = m / 4503599627370496 := by omega
    have hr' : (m + 1) % 4503599627370496 = m % 4503599627370496 + 1 := by omega
    rw [hq, hr']
    have hpos : (0 : ℚ) < 2 ^ ((max (m / 4503599627370496) 1 : ℕ) - 1075 : ℤ) := by positivity
    refine mul_lt_mul_of_pos_right ?_ hpos
    split <;> exact_mod_cast by omega
  · have hq : (m + 1) / 4503599627370496 = m / 4503599627370496 + 1 := by omega
    have hr' : (m + 1) % 4503599627370496 = 0 := by omega
    have hm : m % 4503599627370496 = 4503599627370495 := by omega
    rw [hq, hr', hm, if_neg (Nat.succ_ne_zero _)]
    rcases Nat.eq_zero_or_pos (m / 4503599627370496) with h0 | h0
    · have : m = 4503599627370495 := by omega
      rw [h0, if_pos rfl, this]
      refine mul_lt_mul_of_pos_right (by norm_num) (by positivity)
    · rw [if_neg (by omega), Nat.max_eq_left h0, Nat.max_eq_left (by omega)]
      have hpos : (0 : ℚ) < 2 ^ ((m / 4503599627370496 : ℕ) - 1075 : ℤ) := by positivity
      have hdouble : (2 : ℚ) ^ ((m / 4503599627370496 + 1 : ℕ) - 1075 : ℤ) =
          2 * 2 ^ ((m / 4503599627370496 : ℕ) - 1075 : ℤ) := by
        rw [← zpow_one_add₀ (by norm_num)]
        congr 1
        omega
      rw [hdouble]
      generalize (2 : ℚ) ^ ((m / 4503599627370496 : ℕ) - 1075 : ℤ) = u at hpos
      push_cast
      linarith

lemma grade_strictMono : StrictMono grade := strictMono_nat_of_lt_succ grade_lt_succ

lemma grade_zero : grade 0 = 0 := by simp [grade]

lemma grade_nonneg (m : ℕ) : 0 ≤ grade m := grade_zero ▸ grade_strictMono.monotone (Nat.zero_le m)

lemma grade_eq_zero_iff {m : ℕ} : grade m = 0 ↔ m = 0 := by
  rw [← grade_zero]
  exact grade_strictMono.injective.eq_iff

lemma valueKey_le_iff (x y : Binary64) : x.valueKey ≤ y.valueKey ↔ x.toRat ≤ y.toRat := by
  have hx := grade_nonneg x.magnitude
  have hy := grade_nonneg y.magnitude
  have hle := grade_strictMono.le_iff_le (a := x.magnitude) (b := y.magnitude)
  have hge := grade_strictMono.le_iff_le (a := y.magnitude) (b := x.magnitude)
  rw [toRat_eq, toRat_eq]
  unfold valueKey
  by_cases hxn : x.isNegative <;> by_cases hyn : y.isNegative <;> simp only [hxn, hyn]
  · simp [hge]
  · simp only [if_true, Bool.false_eq_true, if_false]
    constructor <;> intro <;> [linarith; omega]
  · simp only [if_true, Bool.false_eq_true, if_false]
    constructor
    · intro h
      rw [grade_eq_zero_iff.2 (by omega : x.magnitude = 0),
        grade_eq_zero_iff.2 (by omega : y.magnitude = 0)]
      simp
    · intro h
      rw [grade_eq_zero_iff.1 (by linarith : grade x.magnitude = 0),
        grade_eq_zero_iff.1 (by linarith : grade y.magnitude = 0)]
      simp
  · simp [hle]

lemma isNaN_eq_false {x : Binary64} (h : x.isFinite = true) : x.isNaN = false := by
  simp only [isFinite, isNaN, decide_eq_true_eq, decide_eq_false_iff_not] at *
  omega

/-- **Comparison is comparison of values**, and no NaN is comparable. -/
theorem atMost_eq_true_iff {x y : Binary64} :
    x.atMost y = true ↔ x.isNaN = false ∧ y.isNaN = false ∧ x.toRat ≤ y.toRat := by
  simp [atMost, valueKey_le_iff, and_assoc]

lemma atMost_iff {x y : Binary64} (hx : x.isFinite = true) (hy : y.isFinite = true) :
    x.atMost y = true ↔ x.toRat ≤ y.toRat := by
  rw [atMost_eq_true_iff, and_iff_right (isNaN_eq_false hx), and_iff_right (isNaN_eq_false hy)]

/-- What lies between zero and a finite number is finite. -/
lemma isFinite_of_atMost {x y : Binary64} (h0 : zero.atMost x = true) (hy : y.isFinite = true)
    (h : x.atMost y = true) : x.isFinite = true := by
  have hz : zero.valueKey = 0 := by decide
  simp only [atMost, Bool.and_eq_true, decide_eq_true_eq, hz] at h0 h
  simp only [isFinite, decide_eq_true_eq] at hy ⊢
  have hyle : y.valueKey ≤ y.magnitude := by unfold valueKey; split <;> omega
  have hxk : (x.magnitude : ℤ) ≤ x.valueKey := by
    have := h0.2
    unfold valueKey at this ⊢
    split at this <;> simp_all
  omega

end AgentFlow.Binary64
