import Mathlib.Data.List.TakeWhile
import AgentFlow.Text.Basic

/-!
Where a text can be cut in two.

A row of elements of one kind is told from what follows it, as long as that begins with another kind.
The search for a pattern cuts a text at the first place where the pattern stands.
-/

namespace AgentFlow

/-! ### Rows of one kind -/

section Rows

variable {α : Type*} {p : α → Bool} {row rest : List α}

lemma takeWhile_append_of_forall (hrow : ∀ a ∈ row, p a = true)
    (hrest : ∀ a ∈ rest.head?, p a = false) : (row ++ rest).takeWhile p = row := by
  rw [List.takeWhile_append_of_pos hrow]
  cases rest with
  | nil => simp
  | cons a rest => rw [List.takeWhile_cons_of_neg (by simp [hrest a rfl]), List.append_nil]

lemma dropWhile_append_of_forall (hrow : ∀ a ∈ row, p a = true)
    (hrest : ∀ a ∈ rest.head?, p a = false) : (row ++ rest).dropWhile p = rest := by
  have hall := List.takeWhile_append_dropWhile (p := p) (l := row ++ rest)
  rw [takeWhile_append_of_forall hrow hrest] at hall
  exact List.append_cancel_left hall

/-- Where the first parts are of one kind, and what follows begins with another, both agree. -/
lemma append_inj_of_forall {row' rest' : List α} (hrow : ∀ a ∈ row, p a = true)
    (hrow' : ∀ a ∈ row', p a = true) (hrest : ∀ a ∈ rest.head?, p a = false)
    (hrest' : ∀ a ∈ rest'.head?, p a = false) (h : row ++ rest = row' ++ rest') :
    row = row' ∧ rest = rest' := by
  have heq : row = row' := by
    rw [← takeWhile_append_of_forall hrow hrest, h, takeWhile_append_of_forall hrow' hrest']
  subst heq
  exact ⟨rfl, List.append_cancel_left h⟩

end Rows

/-! ### The first occurrence of a pattern -/

namespace Text

/-- The text parts into `before`, the pattern and `after`; the pattern stands nowhere earlier. -/
structure FirstSplit (pattern text before after : List Char) : Prop where
  parts : text = before ++ pattern ++ after
  first : ∀ b a, text = b ++ pattern ++ a → before.length ≤ b.length

lemma dropFront?_eq_some_iff {pattern cs rest : List Char} :
    dropFront? pattern cs = some rest ↔ cs = pattern ++ rest := by
  induction pattern generalizing cs with
  | nil => simp [dropFront?]
  | cons p ps ih =>
    cases cs with
    | nil => simp [dropFront?]
    | cons c cs =>
      unfold dropFront?
      split
      · next h => rw [ih, h]; simp
      · next h => simp [Ne.symm h]

lemma dropFront?_eq_none {pattern cs : List Char} (h : dropFront? pattern cs = none)
    (rest : List Char) : cs ≠ pattern ++ rest := by
  intro heq
  rw [dropFront?_eq_some_iff.2 heq] at h
  cases h

variable {pattern text before after : List Char}

lemma FirstSplit.unique {b a : List Char} (h : FirstSplit pattern text before after)
    (h' : FirstSplit pattern text b a) : before = b ∧ after = a := by
  have hlen : before.length = b.length :=
    Nat.le_antisymm (h.first _ _ h'.parts) (h'.first _ _ h.parts)
  have heq := h.parts.symm.trans h'.parts
  rw [List.append_assoc, List.append_assoc] at heq
  obtain ⟨hb, hrest⟩ := List.append_inj heq hlen
  exact ⟨hb, List.append_cancel_left hrest⟩

lemma firstSplit_of_splitFirst? (h : splitFirst? pattern text = some (before, after)) :
    FirstSplit pattern text before after := by
  induction text generalizing before with
  | nil =>
    simp only [splitFirst?, Option.map_eq_some_iff, Prod.mk.injEq] at h
    obtain ⟨rest, hdrop, rfl, rfl⟩ := h
    exact ⟨dropFront?_eq_some_iff.1 hdrop, by simp⟩
  | cons c cs ih =>
    unfold splitFirst? at h
    split at h
    · next rest hdrop =>
      cases h
      exact ⟨dropFront?_eq_some_iff.1 hdrop, by simp⟩
    · next hdrop =>
      obtain ⟨⟨b, a⟩, hsplit, heq⟩ := Option.map_eq_some_iff.1 h
      cases heq
      obtain ⟨hparts, hfirst⟩ := ih hsplit
      refine ⟨by rw [hparts]; rfl, ?_⟩
      intro b' a' hsplit'
      -- the pattern does not stand at the front, so a split takes the first character
      cases b' with
      | nil => exact absurd hsplit' (dropFront?_eq_none hdrop a')
      | cons c' b' =>
        have := hfirst b' a' (List.cons.inj hsplit').2
        simp only [List.length_cons]
        omega

lemma splitFirst?_ne_none (h : text = before ++ pattern ++ after) :
    splitFirst? pattern text ≠ none := by
  induction text generalizing before with
  | nil =>
    obtain ⟨hbp, rfl⟩ := List.append_eq_nil_iff.1 h.symm
    obtain ⟨rfl, rfl⟩ := List.append_eq_nil_iff.1 hbp
    simp [splitFirst?, dropFront?]
  | cons c cs ih =>
    unfold splitFirst?
    split
    · simp
    · next hdrop =>
      cases before with
      | nil => exact absurd h (dropFront?_eq_none hdrop after)
      | cons b before =>
        rw [Ne, Option.map_eq_none_iff]
        exact ih (List.cons.inj h).2

lemma splitFirst?_eq_some_iff :
    splitFirst? pattern text = some (before, after) ↔ FirstSplit pattern text before after := by
  constructor
  · exact firstSplit_of_splitFirst?
  · intro h
    obtain ⟨⟨b, a⟩, hsplit⟩ := Option.ne_none_iff_exists'.1 (splitFirst?_ne_none h.parts)
    obtain ⟨rfl, rfl⟩ := h.unique (firstSplit_of_splitFirst? hsplit)
    exact hsplit

end Text

end AgentFlow
