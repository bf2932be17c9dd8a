import Mathlib.Data.List.Infix
import AgentFlow.Workflow.Param
import AgentFlow.Proofs.Text.Splitting

/-!
References as texts.

A text is read as a reference up to its first separator, and what was read is written as the same
text again. An id may hold a separator itself, or end in most of one; the text of a reference to its
node is then read as a reference to another node, whose id is the shorter, or not at all. Two
references have one text only in this way.
-/

namespace AgentFlow

open Text

/-! ### Texts with two separators -/

/-- Two separators share no more than the dot between them. -/
lemma eq_nil_or_prefix_of_separator {q after p : List Char}
    (h : ".output.".toList ++ after = q ++ (".output.".toList ++ p)) :
    q = [] ∨ ".output".toList <+: q := by
  have hword : ".output".toList <+: q ++ (".output.".toList ++ p) := ⟨'.' :: after, h⟩
  rcases List.prefix_or_prefix_of_prefix hword (List.prefix_append _ _) with hlong | hshort
  · exact .inr hlong
  · have hq : q ∈ ".output".toList.inits := (List.mem_inits _ _).2 hshort
    simp at hq
    rcases hq with rfl | rfl | rfl | rfl | rfl | rfl | rfl | rfl <;> simp at h ⊢

/-- Most of a separator is made whole by the dot that follows it, or by one before that. -/
lemma separator_prefix_of_append {rest x y : List Char} (h : '.' :: x = rest ++ '.' :: y) :
    ".output.".toList <+: ".output".toList ++ (rest ++ ".".toList) := by
  cases rest with
  | nil => exact List.prefix_rfl
  | cons c rest =>
    obtain rfl : '.' = c := (List.cons.inj h).1
    exact ⟨rest ++ ['.'], rfl⟩

namespace Reference

/-! ### Reading a reference -/

lemma parse?_eq_some_iff {text : String} {r : Reference} :
    parse? text = some r ↔
      FirstSplit separator.toList text.toList r.node.toList r.param.toList ∧
        r.node ≠ "" ∧ r.param ≠ "" := by
  unfold parse?
  rw [← splitFirst?_eq_some_iff]
  constructor
  · intro h
    split at h
    · next n node p param hsplit =>
      cases h
      simp [hsplit]
    · cases h
  · rintro ⟨hsplit, hnode, hparam⟩
    obtain ⟨n, node, hn⟩ := List.exists_cons_of_ne_nil (mt String.toList_eq_nil_iff.1 hnode)
    obtain ⟨p, param, hp⟩ := List.exists_cons_of_ne_nil (mt String.toList_eq_nil_iff.1 hparam)
    rw [hsplit, hn, hp]
    simp only [← hn, ← hp, String.ofList_toList]

lemma toString_of_parse? {text : String} {r : Reference} (h : parse? text = some r) :
    r.toString = text := by
  have hparts := (parse?_eq_some_iff.1 h).1.parts
  rw [← String.toList_inj, hparts]
  simp [toString]

/-- A text is a reference when it has the separator, with something before and behind the first
one. -/
lemma exists_parse?_iff {text : String} :
    (∃ r, parse? text = some r) ↔
      ∃ before after, FirstSplit separator.toList text.toList before after ∧
        before ≠ [] ∧ after ≠ [] := by
  constructor
  · rintro ⟨r, h⟩
    obtain ⟨hsplit, hnode, hparam⟩ := parse?_eq_some_iff.1 h
    exact ⟨_, _, hsplit, mt String.toList_eq_nil_iff.1 hnode, mt String.toList_eq_nil_iff.1 hparam⟩
  · rintro ⟨before, after, hsplit, hbefore, hafter⟩
    exact ⟨⟨String.ofList before, String.ofList after⟩,
      parse?_eq_some_iff.2 ⟨by simpa using hsplit, by simpa using hbefore, by simpa using hafter⟩⟩

/-! ### References with one text -/

variable {r q : Reference}

lemma toList_toString (q : Reference) :
    q.toString.toList = q.node.toList ++ ".output.".toList ++ q.param.toList := by
  simp [toString, separator]

/-- The first dot of the separator, told apart from the rest of it. -/
lemma toList_toString_dot (q : Reference) :
    q.toString.toList = (q.node ++ ".").toList ++ "output.".toList ++ q.param.toList := by
  simp [toString, separator]

/-- The id of `q` goes on behind that of `r` with a separator, and both are written alike: the text
is never read as `q`. -/
def Shadows (r q : Reference) : Prop :=
  ∃ rest, q.node = r.node ++ ".output" ++ rest ∧ "." ++ r.param = rest ++ ".output." ++ q.param

lemma toString_eq_of_shadows (h : r.Shadows q) : r.toString = q.toString := by
  obtain ⟨rest, hnode, hparam⟩ := h
  have hdot : r.toString = r.node ++ ".output" ++ ("." ++ r.param) := by
    simp [← String.toList_inj, toString, separator]
  rw [hdot, hparam, toString, hnode, separator, ← String.append_assoc, ← String.append_assoc]

lemma eq_or_shadows_of_toString_eq (h : r.toString = q.toString)
    (hlen : r.node.toList.length ≤ q.node.toList.length) : r = q ∨ r.Shadows q := by
  have htext : r.node.toList ++ (".output.".toList ++ r.param.toList) =
      q.node.toList ++ (".output.".toList ++ q.param.toList) := by
    rw [← List.append_assoc, ← List.append_assoc, ← toList_toString, ← toList_toString, h]
  obtain ⟨rest, hrest⟩ : r.node.toList <+: q.node.toList :=
    List.prefix_of_prefix_length_le ⟨_, htext⟩ (List.prefix_append _ _) hlen
  rw [← hrest, List.append_assoc] at htext
  have htail := List.append_cancel_left htext
  rcases eq_nil_or_prefix_of_separator htail with rfl | ⟨rest, rfl⟩
  · left
    have hnode : r.node = q.node := String.toList_inj.1 (by simpa using hrest)
    have hparam : r.param = q.param := String.toList_inj.1 (List.append_cancel_left htail)
    cases r; cases q
    exact congr (congrArg mk hnode) hparam
  · right
    have hdot : '.' :: r.param.toList = rest ++ (".output.".toList ++ q.param.toList) := by
      simpa using htail
    refine ⟨String.ofList rest, ?_, ?_⟩
    · rw [← String.toList_inj, ← hrest]
      simp
    · rw [← String.toList_inj]
      simpa using hdot

/-- Two references are written alike only if they are the same or one shadows the other. -/
lemma toString_eq_iff : r.toString = q.toString ↔ r = q ∨ r.Shadows q ∨ q.Shadows r := by
  constructor
  · intro h
    rcases Nat.le_total r.node.toList.length q.node.toList.length with hlen | hlen
    · exact (eq_or_shadows_of_toString_eq h hlen).imp_right .inl
    · exact (eq_or_shadows_of_toString_eq h.symm hlen).imp Eq.symm .inr
  · rintro (rfl | h | h)
    · rfl
    · exact toString_eq_of_shadows h
    · exact (toString_eq_of_shadows h).symm

lemma parse?_toString_eq (h : parse? q.toString = some r) : r = q ∨ r.Shadows q := by
  refine eq_or_shadows_of_toString_eq (toString_of_parse? h) ?_
  exact (parse?_eq_some_iff.1 h).1.first _ _ (toList_toString q)

/-! ### Ids whose end can be told -/

/-- The first separator in the text of a reference to the node of this id is the one behind the id.
-/
def EndsAtSeparator (id : String) : Prop := ¬".output.".toList <:+: (id ++ ".").toList

instance (id : String) : Decidable (EndsAtSeparator id) :=
  inferInstanceAs (Decidable (¬_ <:+: _))

lemma not_shadows_of_endsAtSeparator (h : EndsAtSeparator q.node) : ¬r.Shadows q := by
  rintro ⟨rest, hnode, hparam⟩
  have hdot : '.' :: r.param.toList =
      rest.toList ++ '.' :: ("output.".toList ++ q.param.toList) := by
    have := congrArg String.toList hparam
    simpa using this
  obtain ⟨t, ht⟩ := separator_prefix_of_append hdot
  refine h ⟨r.node.toList, t, ?_⟩
  rw [hnode, List.append_assoc, ht]
  simp

lemma firstSplit_toString_iff :
    FirstSplit ".output.".toList q.toString.toList q.node.toList q.param.toList ↔
      EndsAtSeparator q.node := by
  constructor
  · rintro h ⟨x, y, hxy⟩
    -- a separator that begins in the id would be an earlier one
    have hlen : q.node.toList.length ≤ x.length := by
      refine h.first x (y ++ "output.".toList ++ q.param.toList) ?_
      rw [toList_toString_dot, ← hxy]
      simp
    have hcount := congrArg List.length hxy
    simp at hcount
    omega
  · intro h
    refine ⟨toList_toString q, fun b a htext => ?_⟩
    by_contra hlt
    have halike : toString ⟨String.ofList b, String.ofList a⟩ = q.toString := by
      rw [← String.toList_inj, htext, toList_toString]
      simp
    have hle : (String.ofList b).toList.length ≤ q.node.toList.length := by
      rw [String.toList_ofList]
      omega
    rcases eq_or_shadows_of_toString_eq halike hle with heq | hshadows
    · rw [← heq, String.toList_ofList] at hlt
      exact hlt le_rfl
    · exact not_shadows_of_endsAtSeparator h hshadows

/-! ### Reading back what was written -/

/-- A text is read as a reference exactly if it is the text of the reference, neither half is empty
and the first separator is the one between them. -/
lemma parse?_eq_some_iff_endsAtSeparator {text : String} :
    parse? text = some r ↔
      r.toString = text ∧ r.node ≠ "" ∧ r.param ≠ "" ∧ EndsAtSeparator r.node := by
  constructor
  · intro h
    have htext := toString_of_parse? h
    obtain ⟨hsplit, hnode, hparam⟩ := parse?_eq_some_iff.1 h
    rw [← htext] at hsplit
    exact ⟨htext, hnode, hparam, firstSplit_toString_iff.1 hsplit⟩
  · rintro ⟨rfl, hnode, hparam, hends⟩
    exact parse?_eq_some_iff.2 ⟨firstSplit_toString_iff.2 hends, hnode, hparam⟩

/-- **References are read as they are written, and written as they are read.** What a text is read
as has something in both halves and is written as that text again. The text of a reference is read
as the reference itself exactly if both halves have something in them and the id, with a dot behind
it, holds no separator. -/
theorem readsAsWritten :
    (∀ text r, parse? text = some r → r.toString = text ∧ r.node ≠ "" ∧ r.param ≠ "") ∧
      ∀ node param, parse? (toString ⟨node, param⟩) = some ⟨node, param⟩ ↔
        node ≠ "" ∧ param ≠ "" ∧ ¬".output.".toList <:+: (node ++ ".").toList := by
  constructor
  · intro text r h
    obtain ⟨htext, hnode, hparam, -⟩ := parse?_eq_some_iff_endsAtSeparator.1 h
    exact ⟨htext, hnode, hparam⟩
  · intro node param
    rw [parse?_eq_some_iff_endsAtSeparator]
    exact and_iff_right rfl

/-- An id that ends in most of a separator takes the dot of the next one, and is not read back. -/
theorem readsAsWritten_overlapping :
    parse? "a.output.output.b" = some ⟨"a", "output.b"⟩ ∧
      toString ⟨"a", "output.b"⟩ = "a.output.output.b" ∧
      toString ⟨"a.output", "b"⟩ = "a.output.output.b" ∧
      parse? (toString ⟨"a.output", "b"⟩) ≠ some ⟨"a.output", "b"⟩ ∧
      parse? (toString ⟨"output", "b"⟩) = some ⟨"output", "b"⟩ := by
  have hread : parse? "a.output.output.b" = some ⟨"a", "output.b"⟩ := by decide +kernel
  refine ⟨hread, (readsAsWritten.1 _ _ hread).1, by decide, fun h => ?_, ?_⟩
  · exact ((readsAsWritten.2 "a.output" "b").1 h).2.2 (by decide)
  · exact (readsAsWritten.2 "output" "b").2 (by decide)

/-! ### Texts that can be read -/

/-- The text of the reference has something before its first separator and something behind it. -/
structure Readable (q : Reference) : Prop where
  node : q.node ≠ ""
  front : ¬".output.".toList <+: (q.node ++ ".").toList
  back : q.param = "" → ¬EndsAtSeparator q.node

instance (q : Reference) : Decidable q.Readable :=
  decidable_of_iff (q.node ≠ "" ∧ ¬".output.".toList <+: (q.node ++ ".").toList ∧
      (q.param = "" → ¬EndsAtSeparator q.node))
    ⟨fun h => ⟨h.1, h.2.1, h.2.2⟩, fun h => ⟨h.1, h.2, h.3⟩⟩

variable {before after : List Char}

/-- Nothing stands before the first separator if the id is empty or begins with it. -/
lemma before_eq_nil_iff (h : FirstSplit ".output.".toList q.toString.toList before after) :
    before = [] ↔ q.node = "" ∨ ".output.".toList <+: (q.node ++ ".").toList := by
  constructor
  · rintro rfl
    have htext : ".output.".toList ++ after =
        q.node.toList ++ (".output.".toList ++ q.param.toList) := by
      rw [← List.append_assoc, ← toList_toString, h.parts]
      rfl
    rcases eq_nil_or_prefix_of_separator htext with hnil | ⟨rest, hrest⟩
    · exact .inl (String.toList_eq_nil_iff.1 hnil)
    · right
      rw [← hrest] at htext
      have hdot : '.' :: after = rest ++ '.' :: ("output.".toList ++ q.param.toList) := by
        simpa using htext
      rw [String.toList_append, ← hrest, List.append_assoc]
      exact separator_prefix_of_append hdot
  · intro hfront
    have hlen : before.length ≤ ([] : List Char).length := by
      rcases hfront with hempty | ⟨t, ht⟩
      · refine h.first [] q.param.toList ?_
        rw [toList_toString, hempty]
        simp
      · refine h.first [] (t ++ "output.".toList ++ q.param.toList) ?_
        rw [toList_toString_dot, ← ht]
        simp
    exact List.eq_nil_of_length_eq_zero (Nat.le_zero.1 hlen)

/-- Nothing stands behind the first separator if it is the one behind the id and the parameter is
empty. -/
lemma after_eq_nil_iff (h : FirstSplit ".output.".toList q.toString.toList before after) :
    after = [] ↔ q.param = "" ∧ EndsAtSeparator q.node := by
  constructor
  · rintro rfl
    have hle := h.first _ _ (toList_toString q)
    have hcount : q.node.toList.length + q.param.toList.length = before.length := by
      have := congrArg List.length ((toList_toString q).symm.trans h.parts)
      simp only [List.length_append, List.length_nil] at this
      omega
    have hparam : q.param = "" := by
      rw [← String.toList_eq_nil_iff]
      exact List.eq_nil_of_length_eq_zero (by omega)
    refine ⟨hparam, firstSplit_toString_iff.1 ?_⟩
    have hnode : q.node.toList = before := by
      have hparts := (toList_toString q).symm.trans h.parts
      rw [hparam] at hparts
      simpa using hparts
    rw [hparam, hnode]
    exact h
  · rintro ⟨hparam, hends⟩
    have hsplit := firstSplit_toString_iff.2 hends
    rw [(h.unique hsplit).2, hparam]
    rfl

lemma exists_parse?_toString_iff : (∃ r, parse? q.toString = some r) ↔ q.Readable := by
  obtain ⟨⟨before, after⟩, hsplit⟩ :=
    Option.ne_none_iff_exists'.1 (splitFirst?_ne_none (toList_toString q))
  have hfirst := splitFirst?_eq_some_iff.1 hsplit
  have hread : (∃ r, parse? q.toString = some r) ↔ before ≠ [] ∧ after ≠ [] := by
    rw [exists_parse?_iff]
    constructor
    · rintro ⟨b, a, hba, hb, ha⟩
      obtain ⟨rfl, rfl⟩ := hfirst.unique hba
      exact ⟨hb, ha⟩
    · exact fun ⟨hb, ha⟩ => ⟨before, after, hfirst, hb, ha⟩
  rw [hread, Ne, Ne, before_eq_nil_iff hfirst, after_eq_nil_iff hfirst, not_or, not_and]
  exact ⟨fun ⟨⟨hnode, hfront⟩, hback⟩ => ⟨hnode, hfront, hback⟩,
    fun h => ⟨⟨h.node, h.front⟩, h.back⟩⟩

/-- An id without a dot can be told from what follows it. -/
lemma readable_iff_of_dot_notMem {q : Reference} (hnode : q.node ≠ "")
    (hdot : '.' ∉ q.node.toList) : q.Readable ↔ q.param ≠ "" := by
  have hends : EndsAtSeparator q.node := by
    rintro ⟨x, y, hxy⟩
    have hcount := congrArg (List.count '.') hxy
    have hone : List.count '.' (q.node ++ ".").toList = 1 := by
      simp [List.count_eq_zero_of_not_mem hdot]
    have htwo : List.count '.' ".output.".toList = 2 := by decide
    rw [hone, List.count_append, List.count_append, htwo] at hcount
    omega
  have hfront : ¬".output.".toList <+: (q.node ++ ".").toList := fun h => hends h.isInfix
  constructor
  · exact fun h hempty => h.back hempty hends
  · exact fun hparam => ⟨hnode, hfront, fun hempty => absurd hempty hparam⟩

end Reference

end AgentFlow
