import AgentFlow.Proofs.Decimal.Digits
import AgentFlow.Proofs.Json.Numerals

/-!
Digits and an exponent as literals.

Whether the digits stand around a point or before an exponent, the literal denotes the same number.
-/

namespace AgentFlow.Json

open Decimal

/-! ### Rows of digits -/

lemma natOf_concat (ds : List Char) (d : Char) :
    natOf (ds ++ [d]) = 10 * natOf ds + digitValue d := by
  simp [natOf]

lemma natOf_append_zeros (ds : List Char) (k : ℕ) :
    natOf (ds ++ zeros k) = natOf ds * pow10 k := by
  induction k with
  | zero => simp [zeros, pow10]
  | succ k ih =>
    have hzero : digitValue '0' = 0 := rfl
    have hpow : pow10 (k + 1) = pow10 k * 10 := rfl
    rw [zeros, List.replicate_succ', ← List.append_assoc, natOf_concat, hzero, hpow]
    change 10 * natOf (ds ++ zeros k) + 0 = _
    rw [ih]
    ring

lemma natOf_zeros_append (k : ℕ) (ds : List Char) : natOf (zeros k ++ ds) = natOf ds := by
  induction k with
  | zero => rfl
  | succ k ih => exact ih

namespace Numeral

def row (n : Numeral) : List Char := n.whole ++ n.fraction.getD []

/-- The number that a literal denotes before it is rounded. -/
def toRat (n : Numeral) : ℚ := natOf n.row * 10 ^ (n.power - (n.fraction.getD []).length)

/-! ### The layout of digits -/

/-- Digits laid out as in a text: around a point while the leading digit is near to it, and with an
exponent elsewhere. -/
def ofScientific (negative : Bool) (s : Scientific) : Numeral :=
  if -5 ≤ s.leading ∧ s.leading ≤ 15 then
    if 0 ≤ s.exponent then ⟨negative, s.chars ++ zeros s.exponent.toNat, some ['0'], none⟩
    else
      let places := (-s.exponent).toNat
      if places < s.chars.length then
        ⟨negative, s.chars.take (s.chars.length - places),
          some (s.chars.drop (s.chars.length - places)), none⟩
      else ⟨negative, ['0'], some (zeros (places - s.chars.length) ++ s.chars), none⟩
  else
    ⟨negative, s.chars.take 1, if s.chars.length = 1 then none else some (s.chars.drop 1),
      some (decide (s.leading < 0), digitsOf s.leading.natAbs)⟩

lemma chars_ne_nil (s : Scientific) : s.chars ≠ [] := Nat.toDigits_ne_nil

lemma spell_ofScientific (negative : Bool) (s : Scientific) :
    (ofScientific negative s).spell = sign negative ++
      if -5 ≤ s.leading ∧ s.leading ≤ 15 then positional true s else scientific s := by
  unfold ofScientific
  split
  · unfold positional
    dsimp only
    split
    · simp [spell, fractionChars, powerChars]
    · split <;> simp [spell, fractionChars, powerChars]
  · obtain ⟨d, rest, hchars⟩ := List.exists_cons_of_ne_nil (chars_ne_nil s)
    have hsign : (if s.leading < 0 then '-' else '+') = if 0 ≤ s.leading then '+' else '-' := by
      split <;> split <;> first | rfl | omega
    unfold scientific
    rw [hchars]
    cases rest <;> simp [spell, fractionChars, powerChars, hsign]

/-- A literal of the digits and the exponent that is no integer, with a short whole part. -/
structure Writes (s : Scientific) (n : Numeral) : Prop where
  proper : n.Proper
  toRat : n.toRat = s.toRat
  length : n.whole.length ≤ 16
  real : n.fraction.isSome = true ∨ n.exponent.isSome = true

lemma isDigit_of_mem_zeros {k : ℕ} {c : Char} (h : c ∈ zeros k) : isDigit c = true := by
  rw [List.eq_of_mem_replicate h]
  rfl

lemma natOf_chars (s : Scientific) : natOf s.chars = s.digits := natOf_digitsOf s.digits

section Layouts

variable (negative : Bool) {s : Scientific}

lemma toRat_of_row {n : Numeral} {t : ℕ} (hrow : natOf n.row = s.digits * pow10 t)
    (hpower : n.power - (n.fraction.getD []).length + t = s.exponent) :
    n.toRat = s.toRat := by
  rw [toRat, Scientific.toRat, hrow, ← hpower, zpow_add₀ (by norm_num), zpow_natCast, Nat.cast_mul,
    cast_pow10]
  ring

/-- No places: the point stands behind all digits. -/
lemma writes_whole (hs : s.digits = 0 → s.exponent = 0) {k : ℕ} (hk : s.exponent = k)
    (hlength : s.chars.length + k ≤ 16) :
    Writes s ⟨negative, s.chars ++ zeros k, some ['0'], none⟩ where
  proper := {
    whole := fun c hc => (List.mem_append.1 hc).elim isDigit_of_mem_digitsOf isDigit_of_mem_zeros
    lead := by
      by_cases hzero : s.digits = 0
      · obtain rfl : k = 0 := by have := hs hzero; omega
        exact .inl (by simp [Scientific.chars, hzero, zeros]; rfl)
      · refine .inr ⟨by simp [chars_ne_nil s], ?_⟩
        rw [List.head?_append_of_ne_nil _ (chars_ne_nil s)]
        exact head?_digitsOf hzero
    fraction := by simp [isDigit]
    exponent := by simp }
  toRat := by
    have hrow : s.chars ++ zeros k ++ ['0'] = s.chars ++ zeros (k + 1) := by
      rw [List.append_assoc, zeros, zeros, List.replicate_succ']
    refine toRat_of_row (t := k + 1) ?_ ?_
    · exact (congrArg natOf hrow).trans (by rw [natOf_append_zeros, natOf_chars])
    · simp [power, hk]
  length := by simpa [zeros] using hlength
  real := .inl rfl

/-- Fewer places than digits: the point stands between them. -/
lemma writes_split (hs : s.digits ≠ 0) {k : ℕ} (hk : s.exponent = -k) (hpos : 0 < k)
    (hlt : k < s.chars.length) (hlength : s.chars.length ≤ 16 + k) :
    Writes s ⟨negative, s.chars.take (s.chars.length - k),
      some (s.chars.drop (s.chars.length - k)), none⟩ where
  proper := {
    whole := fun c hc => isDigit_of_mem_digitsOf (List.mem_of_mem_take hc)
    lead := by
      have hfront : s.chars.length - k ≠ 0 := by omega
      refine .inr ⟨by simp [chars_ne_nil s, hfront], ?_⟩
      rw [List.head?_take, if_neg hfront]
      exact head?_digitsOf hs
    fraction := by
      rintro ds ⟨⟩
      exact ⟨by simp; omega, fun c hc => isDigit_of_mem_digitsOf (List.mem_of_mem_drop hc)⟩
    exponent := by simp }
  toRat := by
    refine toRat_of_row (t := 0) ?_ ?_
    · simp [row, natOf_chars, pow10]
    · simp [power, hk]
      omega
  length := by simp; omega
  real := .inl rfl

/-- At least as many places as digits: zeros fill them. -/
lemma writes_below {k : ℕ} (hk : s.exponent = -k) (hle : s.chars.length ≤ k) :
    Writes s ⟨negative, ['0'], some (zeros (k - s.chars.length) ++ s.chars), none⟩ where
  proper := {
    whole := by simp [isDigit]
    lead := .inl rfl
    fraction := by
      rintro ds ⟨⟩
      exact ⟨by simp [chars_ne_nil s], fun c hc =>
        (List.mem_append.1 hc).elim isDigit_of_mem_zeros isDigit_of_mem_digitsOf⟩
    exponent := by simp }
  toRat := by
    have hrow : '0' :: (zeros (k - s.chars.length) ++ s.chars) =
        zeros (k - s.chars.length + 1) ++ s.chars := rfl
    refine toRat_of_row (t := 0) ?_ ?_
    · refine (congrArg natOf hrow).trans ?_
      rw [natOf_zeros_append, natOf_chars]
      simp [pow10]
    · simp [power, hk, zeros]
      omega
  length := by simp
  real := .inl rfl

/-- One digit before the point, and an exponent. -/
lemma writes_power (hs : s.digits ≠ 0) :
    Writes s ⟨negative, s.chars.take 1,
      if s.chars.length = 1 then none else some (s.chars.drop 1),
      some (decide (s.leading < 0), digitsOf s.leading.natAbs)⟩ where
  proper := {
    whole := fun c hc => isDigit_of_mem_digitsOf (List.mem_of_mem_take hc)
    lead := by
      refine .inr ⟨by simp [chars_ne_nil s], ?_⟩
      rw [List.head?_take, if_neg one_ne_zero]
      exact head?_digitsOf hs
    fraction := by
      have := List.length_pos_iff.2 (chars_ne_nil s)
      intro ds hds
      split at hds
      · cases hds
      · next hmany =>
        cases hds
        refine ⟨?_, fun c hc => isDigit_of_mem_digitsOf (List.mem_of_mem_drop hc)⟩
        rw [Ne, List.drop_eq_nil_iff]
        omega
    exponent := by
      rintro e ⟨⟩
      exact ⟨Nat.toDigits_ne_nil, fun _ => isDigit_of_mem_digitsOf⟩ }
  toRat := by
    have hpower : power ⟨negative, s.chars.take 1,
        if s.chars.length = 1 then none else some (s.chars.drop 1),
        some (decide (s.leading < 0), digitsOf s.leading.natAbs)⟩ = s.leading := by
      by_cases h : s.leading < 0
      · simp [power, h, natOf_digitsOf, abs_of_neg h]
      · simp [power, h, natOf_digitsOf, abs_of_nonneg (not_lt.1 h)]
    obtain ⟨d, rest, hchars⟩ := List.exists_cons_of_ne_nil (chars_ne_nil s)
    have hleading : s.leading = s.exponent + s.chars.length - 1 := rfl
    refine toRat_of_row (t := 0) ?_ ?_
    · rw [← natOf_chars, hchars]
      cases rest <;> simp [row, pow10]
    · rw [hpower, hleading, hchars]
      cases rest with
      | nil => simp
      | cons e rest => simp; omega
  length := by simp
  real := .inr rfl

end Layouts

lemma writes_ofScientific (negative : Bool) {s : Scientific}
    (hs : s.digits = 0 → s.exponent = 0) : Writes s (ofScientific negative s) := by
  have hleading : s.leading = s.exponent + s.chars.length - 1 := rfl
  unfold ofScientific
  dsimp only
  split
  · next hnear =>
    split
    · next hnonneg => exact writes_whole negative hs (k := s.exponent.toNat) (by omega) (by omega)
    · next hneg =>
      have hne : s.digits ≠ 0 := fun h => hneg (hs h).ge
      split
      · next hlt => exact writes_split negative hne (by omega) (by omega) hlt (by omega)
      · next hge => exact writes_below negative (by omega) (by omega)
  · next hfar =>
    refine writes_power negative fun hzero => hfar ?_
    have hone : s.chars.length = 1 := by rw [Scientific.chars, hzero]; rfl
    have := hs hzero
    omega

end Numeral

end AgentFlow.Json
