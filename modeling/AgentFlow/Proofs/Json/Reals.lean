import AgentFlow.Proofs.Decimal.Precision
import AgentFlow.Proofs.Json.Layouts

/-!
Literals of binary64 numbers.

Every such number is spelt by a literal. A finite one is read back as some finite number: the digits
are at most half a unit above it, and the two roundings of a reader do not carry that beyond the
greatest number. For the last two numbers of either sign this is too coarse.
-/

namespace AgentFlow.Json

open Decimal

/-! ### Reading digits -/

lemma natOf_mul_le (ds es : List Char) : natOf ds * pow10 es.length ≤ natOf (ds ++ es) := by
  induction es using List.reverseRecOn with
  | nil => simp [pow10]
  | append_singleton es e ih =>
    have hpow : pow10 (es.length + 1) = pow10 es.length * 10 := rfl
    rw [← List.append_assoc, natOf_concat, List.length_append, List.length_singleton, hpow,
      ← Nat.mul_assoc]
    omega

lemma natOf_le_append (ds es : List Char) : natOf ds ≤ natOf (ds ++ es) :=
  (Nat.le_mul_of_pos_right _ (Nat.pow_pos (by omega))).trans (natOf_mul_le ds es)

lemma natOf_lt {ds : List Char} (h : ∀ c ∈ ds, isDigit c = true) : natOf ds < pow10 ds.length := by
  induction ds using List.reverseRecOn with
  | nil => decide
  | append_singleton ds d ih =>
    have hpow : pow10 (ds.length + 1) = pow10 ds.length * 10 := rfl
    have hlt := ih fun c hc => h c (List.mem_append_left _ hc)
    have hdigit : digitValue d ≤ 9 := by
      have hd := h d (by simp)
      simp only [isDigit, Bool.and_eq_true, decide_eq_true_eq] at hd
      have hle : d.toNat ≤ 57 := hd.2
      unfold digitValue
      omega
    rw [natOf_concat, List.length_append, List.length_singleton, hpow]
    omega

namespace Numeral

/-- A number that fits is read to its last digit. -/
lemma gather_of_lt (ds es : List Char) (h : natOf (ds ++ es) < pow2 64) :
    gather (natOf ds) es = (natOf (ds ++ es), []) := by
  induction es generalizing ds with
  | nil => rw [gather, List.append_nil]
  | cons e es ih =>
    rw [← List.singleton_append, ← List.append_assoc] at h ⊢
    have hnext : 10 * natOf ds + digitValue e < pow2 64 :=
      natOf_concat ds e ▸ (natOf_le_append _ _).trans_lt h
    rw [List.singleton_append, gather, if_pos hnext, ← natOf_concat, ih _ h]

/-- The digits that are left over only make the number greater. -/
lemma gather_mul_le (ds es : List Char) :
    (gather (natOf ds) es).1 * pow10 (gather (natOf ds) es).2.length ≤ natOf (ds ++ es) := by
  induction es generalizing ds with
  | nil => simp [gather, pow10]
  | cons e es ih =>
    rw [gather]
    split
    · rw [← natOf_concat]
      simpa using ih (ds ++ [e])
    · exact natOf_mul_le ds (e :: es)

/-! ### Scaling -/

/-- What stays below the bound after two roundings is scaled to a number. -/
lemma isSome_scaled {n : ℕ} {exponent : ℤ}
    (h : (n : ℚ) * 10 ^ exponent * (1 + 1 / 2 ^ 53) ^ 2 < Binary64.overflowBound) :
    (scaled (.ofNat n) exponent).isSome = true := by
  unfold scaled
  split
  · next hlarge =>
    -- any digit stands beyond the bound here
    obtain rfl : n = 0 := by
      by_contra hn
      have hone : (1 : ℚ) ≤ n := by exact_mod_cast Nat.pos_of_ne_zero hn
      have hpow : (10 : ℚ) ^ (309 : ℤ) ≤ 10 ^ exponent :=
        zpow_le_zpow_right₀ (by norm_num) (by omega)
      have hle : (10 : ℚ) ^ (309 : ℤ) ≤ n * 10 ^ exponent * (1 + 1 / 2 ^ 53) ^ 2 := by
        calc (10 : ℚ) ^ (309 : ℤ) ≤ 10 ^ exponent := hpow
          _ = 1 * 10 ^ exponent * 1 := by ring
          _ ≤ n * 10 ^ exponent * (1 + 1 / 2 ^ 53) ^ 2 := by
            gcongr
            norm_num
      exact absurd (Binary64.overflowBound_le.trans hle) (not_le.2 h)
    decide
  split
  · next hnonneg =>
    obtain ⟨k, rfl⟩ := Int.eq_ofNat_of_zero_le hnonneg
    have hfinite : ((Binary64.ofNat n).mul (.ofNat (pow10 k))).isFinite = true := by
      refine Binary64.isFinite_mul_of_lt (lt_of_le_of_lt ?_ h)
      calc Binary64.grade (Binary64.ofNat n).magnitude *
            Binary64.grade (Binary64.ofNat (pow10 k)).magnitude
          ≤ n * (1 + 1 / 2 ^ 53) * (pow10 k * (1 + 1 / 2 ^ 53)) :=
            mul_le_mul (Binary64.grade_ofNat_le n) (Binary64.grade_ofNat_le _)
              (Binary64.grade_nonneg _) (by positivity)
        _ = n * 10 ^ (k : ℤ) * (1 + 1 / 2 ^ 53) ^ 2 := by
            rw [cast_pow10, zpow_natCast]
            ring
    simp [Binary64.isInfinite_eq_false hfinite]
  split
  · rfl
  split <;> rfl

/-- A literal with a short whole part that stays below the bound after two roundings has a
magnitude. -/
lemma isSome_magnitude {n : Numeral} (hdigits : ∀ c ∈ n.whole, isDigit c = true)
    (hlength : n.whole.length ≤ 16)
    (h : n.toRat * (1 + 1 / 2 ^ 53) ^ 2 < Binary64.overflowBound) :
    n.magnitude.isSome = true := by
  have hwhole : gather 0 n.whole = (natOf n.whole, []) := by
    refine gather_of_lt [] n.whole ((natOf_lt hdigits).trans_le ?_)
    calc pow10 n.whole.length ≤ pow10 16 := Nat.pow_le_pow_right (by omega) hlength
      _ ≤ pow2 64 := by decide
  have hrow := gather_mul_le n.whole (n.fraction.getD [])
  rw [magnitude, hwhole]
  dsimp only
  generalize gather (natOf n.whole) (n.fraction.getD []) = found at hrow ⊢
  obtain ⟨digits, dropped⟩ := found
  refine isSome_scaled (lt_of_le_of_lt ?_ h)
  refine mul_le_mul_of_nonneg_right ?_ (by positivity)
  have hexponent : ((([] : List Char).length : ℤ) - ((n.fraction.getD []).length - dropped.length) +
      n.power) = dropped.length + (n.power - (n.fraction.getD []).length) := by
    rw [List.length_nil]
    omega
  rw [hexponent, zpow_add₀ (by norm_num), zpow_natCast, ← mul_assoc, toRat, row, ← cast_pow10]
  refine mul_le_mul_of_nonneg_right ?_ (by positivity)
  exact_mod_cast hrow

end Numeral

/-! ### The literal of a number -/

namespace Number

def written (x : Binary64) : Scientific := if x.isZero then ⟨0, 0⟩ else shortest .even x

def literal : Number → Numeral
  | .int n => intLiteral n
  | .real x => .ofScientific x.isNegative (written x)

lemma significand_ne_zero {x : Binary64} (h : ¬x.isZero = true) : x.significand ≠ 0 := by
  have hpos : 0 < pow2 52 := Nat.pow_pos (by omega)
  have hmagnitude : x.magnitude ≠ 0 := by simpa [Binary64.isZero] using h
  unfold Binary64.significand
  split <;> omega

lemma writes_literal (x : Binary64) : (literal (.real x)).Writes (written x) := by
  refine Numeral.writes_ofScientific x.isNegative ?_
  unfold written
  split
  · exact fun _ => rfl
  · next hzero =>
    rcases shortest_spec .even (significand_ne_zero hzero) with h | ⟨h, -⟩
    · exact fun _ => by rw [h]
    · exact fun hdigits => absurd hdigits h

/-- **Every number is spelt by a literal**, whether it is finite or not. -/
theorem ofChars?_chars (n : Number) : Numeral.ofChars? n.chars = some n.literal := by
  cases n with
  | int n => rw [chars_int, literal, Numeral.ofChars?_spell (proper_intLiteral n)]
  | real x =>
    have hspell : (real x).chars = (literal (.real x)).spell := by
      rw [literal, Numeral.spell_ofScientific, chars, Binary64.numeral, written]
      by_cases hzero : x.isZero = true
      · simp only [if_pos hzero]
        rfl
      · simp only [if_neg hzero]
    rw [hspell, Numeral.ofChars?_spell (writes_literal x).proper]

/-- The digits of a finite number are at most half a unit of the greatest scale above it. -/
lemma toRat_written_le {x : Binary64} (hx : x.isFinite = true) :
    (written x).toRat ≤ Binary64.grade x.magnitude + 1 / 2 * 2 ^ 971 := by
  have hgrade : Binary64.grade x.magnitude = x.significand * 2 ^ x.scale := rfl
  have hnonneg := Binary64.grade_nonneg x.magnitude
  have hzero : Scientific.toRat ⟨0, 0⟩ = 0 := by simp [Scientific.toRat]
  have hscale : (2 : ℚ) ^ x.scale ≤ 2 ^ 971 := by
    have hfield : x.exponentField < 2047 := by
      refine Nat.div_lt_of_lt_mul ?_
      simpa [Binary64.isFinite, Binary64.infinityBits, Nat.mul_comm] using hx
    rw [← zpow_natCast]
    refine zpow_le_zpow_right₀ (by norm_num) ?_
    unfold Binary64.scale
    omega
  have hunit : (0 : ℚ) < 2 ^ 971 := by positivity
  generalize (2 : ℚ) ^ 971 = unit at hscale hunit ⊢
  unfold written
  split
  · rw [hzero]
    linarith
  · next hpos =>
    rcases shortest_spec .even (significand_ne_zero hpos) with h | ⟨-, h⟩
    · rw [h, hzero]
      linarith
    · rw [hgrade]
      linarith

/-- The numbers two short of the greatest one and below are far enough from the bound. -/
lemma written_lt_overflowBound {x : Binary64} (hx : x.magnitude ≤ 2045 * pow2 52 + (pow2 53 - 3)) :
    (written x).toRat * (1 + 1 / 2 ^ 53) ^ 2 < Binary64.overflowBound := by
  have hfinite : x.isFinite = true := by
    simp only [Binary64.isFinite, decide_eq_true_eq]
    exact hx.trans_lt (by decide)
  have htop : Binary64.grade x.magnitude ≤ (2 ^ 53 - 3) * 2 ^ 971 := by
    refine (Binary64.grade_strictMono.monotone hx).trans_eq ?_
    rw [Binary64.grade_of_significand 2045 (by decide) (by decide)]
    have hcast : ((pow2 53 - 3 : ℕ) : ℚ) = 2 ^ 53 - 3 := by
      have h : pow2 53 = 9007199254740992 := rfl
      rw [h]
      norm_num
    have hscale : ((2045 : ℕ) : ℤ) - 1074 = (971 : ℕ) := rfl
    rw [hcast, hscale, zpow_natCast]
  have hdigits := toRat_written_le hfinite
  have hunit : (0 : ℚ) < 2 ^ 971 := by positivity
  rw [Binary64.overflowBound]
  generalize (2 : ℚ) ^ 971 = unit at htop hdigits hunit ⊢
  calc (written x).toRat * (1 + 1 / 2 ^ 53) ^ 2
      ≤ (2 ^ 53 - 5 / 2) * unit * (1 + 1 / 2 ^ 53) ^ 2 :=
        mul_le_mul_of_nonneg_right (by linarith) (by positivity)
    _ = (2 ^ 53 - 5 / 2) * (1 + 1 / 2 ^ 53) ^ 2 * unit := by ring
    _ < (2 ^ 53 - 1 / 2) * unit := mul_lt_mul_of_pos_right (by norm_num) hunit

lemma isSome_magnitude_literal {x : Binary64} (hx : x.isFinite = true) :
    (literal (.real x)).magnitude.isSome = true := by
  by_cases hlow : x.magnitude ≤ 2045 * pow2 52 + (pow2 53 - 3)
  · have hwrites := writes_literal x
    exact Numeral.isSome_magnitude hwrites.proper.whole hwrites.length
      (hwrites.toRat ▸ written_lt_overflowBound hlow)
  · -- the last two numbers of either sign are looked at one by one
    have hbits : x.magnitude = Binary64.infinityBits - 2 ∨
        x.magnitude = Binary64.infinityBits - 1 := by
      have h52 : pow2 52 = 4503599627370496 := rfl
      have h53 : pow2 53 = 9007199254740992 := rfl
      simp only [Binary64.isFinite, decide_eq_true_eq, Binary64.infinityBits, h52, h53] at hx hlow ⊢
      omega
    have hlast : ∀ negative : Bool, ∀ m ∈ [Binary64.infinityBits - 2, Binary64.infinityBits - 1],
        (literal (.real (.ofMagnitude negative m))).magnitude.isSome = true := by
      decide +kernel
    rw [← Binary64.ofMagnitude_magnitude x]
    exact hlast x.isNegative x.magnitude (by simpa using hbits)

/-- **Finite numbers are read back** as numbers with a fraction or an exponent. -/
theorem exists_toNumber?_literal {x : Binary64} (hx : x.isFinite = true) :
    ∃ y, (literal (.real x)).toNumber? = some (.real y) := by
  have hinteger : (literal (.real x)).integer? = none := by
    rw [Numeral.integer?]
    rcases (writes_literal x).real with h | h <;> simp [h]
  obtain ⟨y, hy⟩ := Option.isSome_iff_exists.1 (isSome_magnitude_literal hx)
  rw [Numeral.toNumber?, hinteger, hy]
  exact ⟨_, rfl⟩

end Number

end AgentFlow.Json
