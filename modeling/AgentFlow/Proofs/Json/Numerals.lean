import Mathlib.Data.Option.Basic
import AgentFlow.Json.Printer
import AgentFlow.Json.Token
import AgentFlow.Proofs.Text.Splitting

/-!
Numbers as literals.

An integer of sixty-four bits is spelt by a literal that denotes it. Of a binary64 number this is a
property of the number, because a literal is rounded more than once when it is read.
-/

namespace AgentFlow.Json

open Decimal

namespace Number

/-- The number is spelt by a literal that denotes it. -/
def ReadsBack (n : Number) : Prop := (Numeral.ofChars? n.chars).bind Numeral.toNumber? = some n

instance (n : Number) : Decidable n.ReadsBack := inferInstanceAs (Decidable (_ = _))

/-- The number can stand in a text: an integer of sixty-four bits, or a finite number. -/
def InRange : Number → Prop
  | .int n => -(pow2 63 : ℤ) ≤ n ∧ n < pow2 64
  | .real x => x.isFinite = true

end Number

/-! ### Digits -/

lemma isDigit_of_mem_digitsOf {n : ℕ} {c : Char} (h : c ∈ digitsOf n) : isDigit c = true := by
  have := Nat.isDigit_of_mem_toDigits (by decide) (by decide) h
  simpa [isDigit, Char.isDigit, Char.le_def] using this

lemma natOf_digitsOf (n : ℕ) : natOf (digitsOf n) = n := by
  rw [natOf, digitsOf]
  exact (Nat.ofDigitChars_eq_foldl.symm.trans Nat.ofDigitChars_ten_toDigits)

/-- Only zero is spelt with a leading zero. -/
lemma head?_digitsOf {n : ℕ} (hn : n ≠ 0) : (digitsOf n).head? ≠ some '0' := by
  induction n using Nat.strongRecOn with
  | ind n ih =>
    unfold digitsOf at ih ⊢
    by_cases hlt : n < 10
    · rw [Nat.toDigits_of_lt_base hlt]
      have : n = 1 ∨ n = 2 ∨ n = 3 ∨ n = 4 ∨ n = 5 ∨ n = 6 ∨ n = 7 ∨ n = 8 ∨ n = 9 := by omega
      rcases this with rfl | rfl | rfl | rfl | rfl | rfl | rfl | rfl | rfl <;> decide
    · have hstep := Nat.toDigits_append_toDigits (b := 10) (n := n / 10) (d := n % 10) (by omega)
        (by omega) (by omega)
      rw [show 10 * (n / 10) + n % 10 = n by omega] at hstep
      have hih := ih (n / 10) (by omega) (by omega)
      rw [← hstep, List.head?_append]
      cases hd : Nat.toDigits 10 (n / 10) with
      | nil => exact absurd hd Nat.toDigits_ne_nil
      | cons d ds => rw [hd] at hih; exact hih

/-! ### Literals as texts -/

namespace Numeral

def fractionChars : Option (List Char) → List Char
  | none => []
  | some ds => '.' :: ds

def powerChars : Option (Bool × List Char) → List Char
  | none => []
  | some (negative, ds) => 'e' :: (if negative then '-' else '+') :: ds

def spell (n : Numeral) : List Char :=
  sign n.negative ++ (n.whole ++ (fractionChars n.fraction ++ powerChars n.exponent))

/-- The parts of a literal are rows of digits, the whole part without a needless zero. -/
structure Proper (n : Numeral) : Prop where
  whole : ∀ c ∈ n.whole, isDigit c = true
  lead : n.whole = ['0'] ∨ n.whole ≠ [] ∧ n.whole.head? ≠ some '0'
  fraction : ∀ ds ∈ n.fraction, ds ≠ [] ∧ ∀ c ∈ ds, isDigit c = true
  exponent : ∀ e ∈ n.exponent, e.2 ≠ [] ∧ ∀ c ∈ e.2, isDigit c = true

lemma head?_powerChars (exponent : Option (Bool × List Char)) :
    ∀ c ∈ (powerChars exponent).head?, c = 'e' := by
  rcases exponent with _ | ⟨negative, ds⟩ <;> simp [powerChars]

lemma fraction?_fractionChars {n : Numeral} (h : n.Proper) :
    fraction? (fractionChars n.fraction ++ powerChars n.exponent) =
      some (n.fraction, powerChars n.exponent) := by
  have hpower : ∀ c ∈ (powerChars n.exponent).head?, isDigit c = false := by
    intro c hc
    rw [head?_powerChars _ c hc]
    decide
  cases hfraction : n.fraction with
  | none =>
    rw [fractionChars, List.nil_append]
    unfold fraction?
    split
    · next cs hcs =>
      have := head?_powerChars n.exponent '.' (by rw [hcs]; rfl)
      cases this
    · rfl
  | some ds =>
    obtain ⟨hne, hall⟩ := h.fraction ds hfraction
    rw [fractionChars, List.cons_append, fraction?, takeWhile_append_of_forall hall hpower,
      dropWhile_append_of_forall hall hpower]
    simp [hne]

lemma power?_powerChars {n : Numeral} (h : n.Proper) :
    power? (powerChars n.exponent) = some n.exponent := by
  cases hexponent : n.exponent with
  | none => rfl
  | some e =>
    obtain ⟨negative, ds⟩ := e
    obtain ⟨hne, hall⟩ : ds ≠ [] ∧ ∀ c ∈ ds, isDigit c = true := h.exponent _ hexponent
    cases negative <;> simpa [powerChars, power?, splitSign, hne] using hall

/-- A literal is read from its own text. -/
lemma ofChars?_spell {n : Numeral} (h : n.Proper) : ofChars? n.spell = some n := by
  have htail : ∀ c ∈ (fractionChars n.fraction ++ powerChars n.exponent).head?,
      isDigit c = false := by
    intro c hc
    cases hfraction : n.fraction with
    | none =>
      rw [hfraction, fractionChars, List.nil_append] at hc
      rw [head?_powerChars _ c hc]
      decide
    | some ds =>
      rw [hfraction, fractionChars] at hc
      cases hc
      decide
  have hwhole := takeWhile_append_of_forall h.whole htail
  have hrest := dropWhile_append_of_forall h.whole htail
  have hlead : n.whole = ['0'] ∨ ¬n.whole = [] ∧ ¬n.whole.head? = some '0' := h.lead
  have hfraction := fraction?_fractionChars h
  have hpower := power?_powerChars h
  unfold spell
  generalize n.whole ++ (fractionChars n.fraction ++ powerChars n.exponent) = body at *
  obtain ⟨negative, whole, fraction, exponent⟩ := n
  dsimp only at *
  cases negative with
  | true => simp [ofChars?, sign, hwhole, hrest, guard, hlead, hfraction, hpower]
  | false =>
    have hminus : ∀ rest, body ≠ '-' :: rest := by
      rintro rest rfl
      rw [List.takeWhile_cons_of_neg (by decide)] at hwhole
      simp [← hwhole] at hlead
    simp [ofChars?, sign, hwhole, hrest, guard, hlead, hfraction, hpower]

/-! ### The characters of a literal -/

lemma chars_of_fraction? {cs rest : List Char} {fraction : Option (List Char)}
    (h : fraction? cs = some (fraction, rest)) :
    ∀ c ∈ cs, Token.isWordChar c = true ∨ c ∈ rest := by
  intro c hc
  unfold fraction? at h
  split at h
  · next ds =>
    dsimp only at h
    split at h
    · cases h
    · cases h
      rcases List.mem_cons.1 hc with rfl | hc
      · exact .inl (by decide)
      · rw [← List.takeWhile_append_dropWhile (p := isDigit) (l := ds)] at hc
        rcases List.mem_append.1 hc with hc | hc
        · have := List.mem_takeWhile_imp hc
          exact .inl (by simp [Token.isWordChar, this])
        · exact .inr hc
  · cases h
    exact .inr hc

lemma mem_of_mem_splitSign {cs : List Char} {c : Char} (hc : c ∈ cs) :
    c = '-' ∨ c = '+' ∨ c ∈ (splitSign cs).2 := by
  unfold splitSign
  split
  · rcases List.mem_cons.1 hc with h | h <;> simp [h]
  · rcases List.mem_cons.1 hc with h | h <;> simp [h]
  · simp [hc]

lemma chars_of_power? {cs : List Char} {exponent : Option (Bool × List Char)}
    (h : power? cs = some exponent) : ∀ c ∈ cs, Token.isWordChar c = true := by
  cases cs with
  | nil => simp
  | cons e cs =>
    simp only [power?] at h
    split at h
    · next hcond =>
      simp only [Bool.and_eq_true, Bool.or_eq_true, decide_eq_true_eq, List.all_eq_true] at hcond
      obtain ⟨⟨he, -⟩, hds⟩ := hcond
      intro c hc
      rcases List.mem_cons.1 hc with rfl | hc
      · rcases he with rfl | rfl <;> decide
      · rcases mem_of_mem_splitSign hc with rfl | rfl | hc
        · decide
        · decide
        · simp [Token.isWordChar, hds c hc]
    · cases h

lemma isWordChar_of_ofChars? {cs : List Char} {literal : Numeral}
    (h : ofChars? cs = some literal) : cs ≠ [] ∧ ∀ c ∈ cs, Token.isWordChar c = true := by
  have hne : cs ≠ [] := by
    rintro rfl
    rw [show ofChars? [] = none by decide] at h
    cases h
  refine ⟨hne, ?_⟩
  unfold ofChars? at h
  split at h
  next negative body hsign =>
    -- the digits and what follows them, once the sign is gone
    simp only [bind, Option.bind_eq_some_iff] at h
    obtain ⟨-, -, ⟨fraction, rest⟩, hfraction, exponent, hpower, -⟩ := h
    have hbody : ∀ c ∈ body, Token.isWordChar c = true := by
      intro c hc
      rw [← List.takeWhile_append_dropWhile (p := isDigit) (l := body)] at hc
      rcases List.mem_append.1 hc with hc | hc
      · have := List.mem_takeWhile_imp hc
        simp [Token.isWordChar, this]
      · rcases chars_of_fraction? hfraction c hc with hc | hc
        · exact hc
        · exact chars_of_power? hpower c hc
    intro c hc
    split at hsign
    · cases hsign
      rcases List.mem_cons.1 hc with rfl | hc
      · decide
      · exact hbody c hc
    · cases hsign
      exact hbody c hc

end Numeral

/-! ### Integers -/

namespace Number

def intLiteral (n : ℤ) : Numeral := ⟨decide (n < 0), digitsOf n.natAbs, none, none⟩

lemma proper_intLiteral (n : ℤ) : (intLiteral n).Proper where
  whole _ := isDigit_of_mem_digitsOf
  lead := by
    by_cases h0 : n.natAbs = 0
    · exact .inl (by rw [intLiteral, h0]; rfl)
    · exact .inr ⟨Nat.toDigits_ne_nil, head?_digitsOf h0⟩
  fraction := by simp [intLiteral]
  exponent := by simp [intLiteral]

lemma chars_int (n : ℤ) : (int n).chars = (intLiteral n).spell := by
  simp [chars, intLiteral, Numeral.spell, Numeral.fractionChars, Numeral.powerChars, sign]

/-- **Integers read back**: the literal of an integer of sixty-four bits denotes it. -/
theorem readsBack_int {n : ℤ} (h : (Number.int n).InRange) : (Number.int n).ReadsBack := by
  obtain ⟨hlow, hhigh⟩ := h
  refine Option.bind_eq_some_iff.2 ⟨intLiteral n, ?_, ?_⟩
  · rw [chars_int, Numeral.ofChars?_spell (proper_intLiteral n)]
  · have h63 : pow2 63 = 9223372036854775808 := rfl
    have h64 : pow2 64 = 18446744073709551616 := rfl
    have hinteger : (intLiteral n).integer? = some n := by
      simp only [intLiteral, Numeral.integer?, natOf_digitsOf, Option.isSome_none, Bool.or_self,
        Bool.false_eq_true, if_false, decide_eq_true_eq]
      by_cases hneg : n < 0
      · rw [if_pos hneg, if_pos (by omega), Option.some.injEq]
        omega
      · rw [if_neg hneg, if_pos (by omega), Option.some.injEq]
        omega
    rw [Numeral.toNumber?, hinteger]

-- one eleventh is printed with sixteen digits, whose quotient by a power of ten misses it
example : ¬(Number.real (.ofRatio false 1 11)).ReadsBack := by decide +kernel

end Number

end AgentFlow.Json
