import Mathlib.Data.Nat.Notation
import Mathlib.Tactic.Lemma
import AgentFlow.Json.Printer
import AgentFlow.Json.Token

/-!
Strings between quotation marks.

The escapes of a string stand for the string again, and the walk over a text collects them up to the
closing mark.
-/

namespace AgentFlow.Json

namespace Token

/-! ### Escapes -/

lemma hexValue?_hexDigit : ∀ k < 16, hexValue? (hexDigit k) = some k := by decide

/-- A character stands for itself, has an escape of one letter, or is written by its number. -/
inductive EscapeForm (c : Char) : List Char → Prop where
  | plain (hquote : c ≠ '"') (hslash : c ≠ '\\') (hshown : 0x20 ≤ c.toNat) : EscapeForm c [c]
  | letter (e d : Char) (hne : e ≠ 'u') (hletter : escaped? e = some d)
      (hd : d.toNat = c.toNat) : EscapeForm c ['\\', e]
  | number (high low : ℕ) (hhigh : high < 16) (hlow : low < 16)
      (hsum : 16 * high + low = c.toNat) :
      EscapeForm c ['\\', 'u', '0', '0', hexDigit high, hexDigit low]

lemma escapeForm_escape (c : Char) : EscapeForm c (escape c) := by
  unfold escape
  split
  · next h => exact .letter '"' '"' (by decide) rfl (h ▸ rfl)
  split
  · next h => exact .letter '\\' '\\' (by decide) rfl (h ▸ rfl)
  split
  · next hquote hslash hshown => exact .plain hquote hslash hshown
  split
  · next h => exact .letter 'b' _ (by decide) rfl h.symm
  · next h => exact .letter 't' _ (by decide) rfl h.symm
  · next h => exact .letter 'n' _ (by decide) rfl h.symm
  · next h => exact .letter 'f' _ (by decide) rfl h.symm
  · next h => exact .letter 'r' _ (by decide) rfl h.symm
  · exact .number _ _ (by omega) (by omega) (by omega)

lemma codes?_escape (c : Char) (cs : List Char) :
    codes? (escape c ++ cs) = (codes? cs).map (c.toNat :: ·) := by
  have hform := escapeForm_escape c
  generalize escape c = written at hform ⊢
  cases hform with
  | plain hquote hslash hshown =>
    rw [List.singleton_append, codes?.eq_def]
    split
    · next heq => cases heq
    · next heq => exact absurd (List.cons.inj heq).1 hslash
    · next heq => exact absurd (List.cons.inj heq).1 hslash
    · next heq =>
      obtain ⟨rfl, rfl⟩ := List.cons.inj heq
      rw [if_neg (by simp only [hslash, false_or]; omega)]
  | letter e d hne hletter hd =>
    rw [List.cons_append, List.singleton_append, codes?.eq_def]
    split
    · next heq => cases heq
    · next heq => cases heq; exact absurd rfl hne
    · next heq => cases heq; cases codes? cs <;> simp [hletter, hd]
    · next hfree heq => cases heq; exact (hfree e cs rfl rfl).elim
  | number high low hhigh hlow hsum =>
    have hzero : hexValue? '0' = some 0 := by decide
    simp only [List.cons_append, List.nil_append, codes?, hex4?, hzero,
      hexValue?_hexDigit high hhigh, hexValue?_hexDigit low hlow, bind, Option.bind, pure]
    cases codes? cs <;> simp [hsum]

lemma codes?_escapes (cs : List Char) : codes? (cs.flatMap escape) = some (cs.map Char.toNat) := by
  induction cs with
  | nil => rfl
  | cons c cs ih => rw [List.flatMap_cons, codes?_escape, ih]; rfl

/-- A character is no half of a surrogate pair. -/
lemma surrogate_toNat (c : Char) :
    isHighSurrogate c.toNat = false ∧ isLowSurrogate c.toNat = false := by
  have h := c.valid
  simp only [UInt32.isValidChar, Nat.isValidChar] at h
  simp only [isHighSurrogate, isLowSurrogate, Char.toNat, Bool.and_eq_false_iff,
    decide_eq_false_iff_not]
  omega

lemma join?_map_toNat (cs : List Char) : join? (cs.map Char.toNat) = some cs := by
  induction cs with
  | nil => rfl
  | cons c cs ih =>
    obtain ⟨hhigh, hlow⟩ := surrogate_toNat c
    cases cs with
    | nil => simp [join?, hhigh, hlow]
    | cons d cs =>
      simp only [List.map_cons] at ih ⊢
      simp [join?, hhigh, hlow, ih]

lemma ofQuoted?_escapes (s : String) :
    ofQuoted? (s.toList.flatMap escape) = some (.string (some s)) := by
  simp [ofQuoted?, codes?_escapes, join?_map_toNat]

/-! ### The walk -/

lemma lex?_cons (mode : Mode) (done : List Token) (c : Char) (cs : List Char) :
    lex? mode done (c :: cs) = (step? mode done c).bind fun (next, done) => lex? next done cs := by
  cases mode <;> (rw [lex?.eq_def]; simp only; split <;> simp_all)

lemma lex?_of_step {mode next : Mode} {done found : List Token} {c : Char}
    (h : step? mode done c = some (next, found)) (cs : List Char) :
    lex? mode done (c :: cs) = lex? next found cs := by
  rw [lex?_cons, h, Option.bind_some]

/-- Inside a string the walk collects an escape as it stands. -/
lemma lex?_escape (read : List Char) (done : List Token) (c : Char) (cs : List Char) :
    lex? (.quoted read) done (escape c ++ cs) =
      lex? (.quoted ((escape c).reverse ++ read)) done cs := by
  have hform := escapeForm_escape c
  generalize escape c = written at hform ⊢
  cases hform with
  | plain hquote hslash hshown => simp [lex?_cons, step?, hquote, hslash]
  | letter e d hne hletter hd => simp [lex?_cons, step?]
  | number high low hhigh hlow hsum =>
    have hhex : ∀ k < 16, hexDigit k ≠ '"' ∧ hexDigit k ≠ '\\' := by decide
    simp [lex?_cons, step?, hhex high hhigh, hhex low hlow]

lemma lex?_escapes (read : List Char) (done : List Token) (s cs : List Char) :
    lex? (.quoted read) done (s.flatMap escape ++ cs) =
      lex? (.quoted ((s.flatMap escape).reverse ++ read)) done cs := by
  induction s generalizing read with
  | nil => rfl
  | cons c s ih =>
    rw [List.flatMap_cons, List.append_assoc, lex?_escape, ih, List.reverse_append,
      List.append_assoc]

lemma lex?_quote (done : List Token) (s : String) (cs : List Char) :
    lex? .gap done (quote s ++ cs) = lex? .gap (.string (some s) :: done) cs := by
  have hopen : ∀ rest, lex? .gap done ('"' :: rest) = lex? (.quoted []) done rest := by
    intro rest
    simp [lex?_cons, step?, enter?, isSpace]
  rw [quote, List.cons_append, List.cons_append, hopen, List.append_assoc, lex?_escapes]
  simp [lex?_cons, step?, ofQuoted?_escapes]

end Token

end AgentFlow.Json
