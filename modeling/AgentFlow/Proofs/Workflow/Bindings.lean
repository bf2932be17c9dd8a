import AgentFlow.Proofs.Success
import AgentFlow.Proofs.Workflow.Passes
import AgentFlow.Proofs.Workflow.Separator
import AgentFlow.Proofs.Workflow.Upstream

/-!
What is reported of the inputs of a node, and what their sources mean.

The report compares texts: the source of an input is in order when it is the text of some reference
that is offered. Whoever follows the source takes the text apart at its first separator instead. The
two agree unless an id on the way holds a separator of its own.
-/

namespace AgentFlow

/-! ### The finding on one input -/

section

variable {available : List String} {input : InputParam} {text : String}

namespace InputParam

lemma binding_of_source (hsource : input.source = some text) (hne : text ≠ "") :
    input.binding =
      match Reference.parse? text with
      | none => .malformed text
      | some r => .bound r := by
  have hfilled : text.isEmpty = false := by simpa using hne
  cases hparse : Reference.parse? text with
  | none => simp [binding, hsource, hfilled, hparse]
  | some r => simp [binding, hsource, hfilled, hparse]

lemma binding_eq_bound_iff {r : Reference} (hsource : input.source = some text) (hne : text ≠ "") :
    input.binding = .bound r ↔ Reference.parse? text = some r := by
  rw [binding_of_source hsource hne]
  cases Reference.parse? text with
  | none => simp
  | some q => simp

end InputParam

namespace Diagnosis

lemma binding_of_source (hsource : input.source = some text) (hne : text ≠ "") :
    binding available input =
      match Reference.parse? text with
      | none => some (.malformedBinding input.name text)
      | some _ =>
        if text ∈ available then none else some (.unreachableBinding input.name text) := by
  rw [binding, InputParam.binding_of_source hsource hne, hsource]
  cases hparse : Reference.parse? text with
  | none => rfl
  | some r =>
    simp only [Reference.toString_of_parse? hparse, List.contains_iff_mem, Option.getD_some]

/-- The source of an input can be followed when it is a reference, and one that can be bound. -/
lemma binding_eq_none_iff (hsource : input.source = some text) (hne : text ≠ "") :
    binding available input = none ↔
      (∃ r, Reference.parse? text = some r) ∧ text ∈ available := by
  rw [binding_of_source hsource hne]
  cases hparse : Reference.parse? text with
  | none => simp
  | some r => simp

/-- The finding that a source is not in order tells which input has it. -/
lemma eq_of_binding_eq_some {p : Problem} {name : String} (h : binding available input = some p)
    (hp : p = .malformedBinding name text ∨ p = .unreachableBinding name text) :
    input = ⟨name, some text⟩ := by
  obtain ⟨own, source⟩ := input
  have hunbound : p ≠ .unboundInput own := by
    rintro rfl
    rcases hp with hp | hp <;> cases hp
  cases source with
  | none => exact absurd (Option.some.inj h).symm hunbound
  | some entered =>
    by_cases hempty : entered = ""
    · subst hempty
      exact absurd (Option.some.inj h).symm hunbound
    · rw [binding_of_source rfl hempty] at h
      split at h
      · cases h
        rcases hp with hp | hp <;> cases hp
        rfl
      · split at h
        · cases h
        · cases h
          rcases hp with hp | hp <;> cases hp
          rfl

end Diagnosis

end

/-- The report says that the source of the input is malformed, or that no node upstream produces
it. -/
def Report.Faults (r : Report) (n : Node) (input : InputParam) : Prop :=
  ⟨some n.id, .malformedBinding input.name (input.source.getD "")⟩ ∈ r.issues ∨
    ⟨some n.id, .unreachableBinding input.name (input.source.getD "")⟩ ∈ r.issues

instance (r : Report) (n : Node) (input : InputParam) : Decidable (r.Faults n input) :=
  inferInstanceAs (Decidable (_ ∨ _))

namespace Graph

variable {g : Graph} {t : Node} {input : InputParam} {text : String}

def finding (g : Graph) (t : Node) (input : InputParam) : Option Problem :=
  Diagnosis.binding ((g.variablesFor t.id).map Variable.value) input

/-- What is said of an input is what is found of it, for no two inputs with one name and source are
judged differently. -/
lemma faults_iff (ht : t ∈ g.nodes) (hinput : input ∈ t.inputs)
    (hsource : input.source = some text) (hne : text ≠ "") :
    g.diagnose.Faults t input ↔ g.finding t input ≠ none := by
  rw [Report.Faults, hsource, Option.getD_some, mem_issues_bindings_iff ht rfl,
    mem_issues_bindings_iff ht rfl]
  constructor
  · intro h hnone
    obtain ⟨p, hp, hmem⟩ : ∃ p, (p = .malformedBinding input.name text ∨
        p = .unreachableBinding input.name text) ∧ p ∈ Diagnosis.bindings g t :=
      h.elim (fun h => ⟨_, .inl rfl, h⟩) fun h => ⟨_, .inr rfl, h⟩
    obtain ⟨other, -, hother⟩ := List.mem_filterMap.1 hmem
    have hsame : other = input := by
      rw [Diagnosis.eq_of_binding_eq_some hother hp, ← hsource]
    rw [hsame] at hother
    cases hother.symm.trans hnone
  · intro h
    obtain ⟨p, hp⟩ := Option.ne_none_iff_exists'.1 h
    have hmem : p ∈ Diagnosis.bindings g t := List.mem_filterMap.2 ⟨input, hinput, hp⟩
    rw [finding, Diagnosis.binding_of_source hsource hne] at hp
    split at hp
    · cases hp
      exact .inl hmem
    · split at hp
      · cases hp
      · cases hp
        exact .inr hmem

/-! ### What the sources mean -/

def Offers (g : Graph) (t : Node) (r : Reference) : Prop :=
  ∃ a ∈ g.ancestors t.id, a.id = r.node ∧ ∃ p ∈ a.outputs, p.name = r.param

lemma mem_values_iff_offers :
    text ∈ (g.variablesFor t.id).map Variable.value ↔ ∃ q, g.Offers t q ∧ q.toString = text := by
  simp only [variablesFor, List.mem_map, List.mem_flatMap]
  constructor
  · rintro ⟨v, ⟨a, ha, p, hp, rfl⟩, rfl⟩
    exact ⟨⟨a.id, p.name⟩, ⟨a, ha, rfl, p, hp, rfl⟩, rfl⟩
  · rintro ⟨⟨node, param⟩, ⟨a, ha, rfl, p, hp, rfl⟩, rfl⟩
    exact ⟨variableOf a p, ⟨a, ha, p, hp, rfl⟩, rfl⟩

lemma eq_of_mem_ancestors {id : String} {a b : Node} (ha : a ∈ g.ancestors id)
    (hb : b ∈ g.ancestors id) (hid : a.id = b.id) : a = b :=
  List.inj_on_of_nodup_map g.nodup_ids (mem_ancestors_iff.1 ha).1 (mem_ancestors_iff.1 hb).1 hid

/-- The inputs of the node that pass are those that can be followed to an output of an ancestor, and
no two outputs are offered to it under one text. -/
structure BindsExactly (g : Graph) (t : Node) : Prop where
  verdict : ∀ input ∈ t.inputs, ∀ text, input.source = some text → text ≠ "" →
    (¬g.diagnose.Faults t input ↔ ∃ r, input.binding = .bound r ∧ g.Offers t r)
  distinct : ∀ a ∈ g.ancestors t.id, ∀ b ∈ g.ancestors t.id, ∀ p ∈ a.outputs, ∀ q ∈ b.outputs,
    (variableOf a p).value = (variableOf b q).value → a = b ∧ p.name = q.name

/-- The inputs of the node that pass are those that can be followed to an output of an ancestor or
to what shadows one, and two outputs are offered to it under one text only if one shadows the
other. -/
structure BindsByText (g : Graph) (t : Node) : Prop where
  verdict : ∀ input ∈ t.inputs, ∀ text, input.source = some text → text ≠ "" →
    (¬g.diagnose.Faults t input ↔
      ∃ r q, input.binding = .bound r ∧ g.Offers t q ∧ (r = q ∨ r.Shadows q))
  alike : ∀ a ∈ g.ancestors t.id, ∀ b ∈ g.ancestors t.id, ∀ p ∈ a.outputs, ∀ q ∈ b.outputs,
    ((variableOf a p).value = (variableOf b q).value ↔
      (a = b ∧ p.name = q.name) ∨ (Reference.mk a.id p.name).Shadows ⟨b.id, q.name⟩ ∨
        (Reference.mk b.id q.name).Shadows ⟨a.id, p.name⟩)
  plain : (∀ a ∈ g.ancestors t.id, Reference.EndsAtSeparator a.id) → g.BindsExactly t

lemma not_faults_iff (ht : t ∈ g.nodes) (hinput : input ∈ t.inputs)
    (hsource : input.source = some text) (hne : text ≠ "") :
    ¬g.diagnose.Faults t input ↔
      ∃ r q, input.binding = .bound r ∧ g.Offers t q ∧ (r = q ∨ r.Shadows q) := by
  rw [faults_iff ht hinput hsource hne, not_not, finding,
    Diagnosis.binding_eq_none_iff hsource hne, mem_values_iff_offers]
  simp only [InputParam.binding_eq_bound_iff hsource hne]
  constructor
  · rintro ⟨⟨r, hr⟩, q, hq, rfl⟩
    exact ⟨r, q, hr, hq, Reference.parse?_toString_eq hr⟩
  · rintro ⟨r, q, hr, hq, hsame⟩
    refine ⟨⟨r, hr⟩, q, hq, ?_⟩
    have htext : r.toString = q.toString :=
      Reference.toString_eq_iff.2 (hsame.imp_right .inl)
    exact htext.symm.trans (Reference.toString_of_parse? hr)

lemma value_eq_iff {a b : Node} {p q : OutputParam} (ha : a ∈ g.ancestors t.id)
    (hb : b ∈ g.ancestors t.id) :
    (variableOf a p).value = (variableOf b q).value ↔
      (a = b ∧ p.name = q.name) ∨ (Reference.mk a.id p.name).Shadows ⟨b.id, q.name⟩ ∨
        (Reference.mk b.id q.name).Shadows ⟨a.id, p.name⟩ := by
  have hsame : Reference.mk a.id p.name = ⟨b.id, q.name⟩ ↔ a = b ∧ p.name = q.name := by
    rw [Reference.mk.injEq]
    exact and_congr_left fun _ => ⟨eq_of_mem_ancestors ha hb, congrArg Node.id⟩
  rw [← hsame]
  exact Reference.toString_eq_iff

/-- **A binding that passes names an output upstream**, as far as its text can tell: it is read as a
reference to such an output or to what shadows one, and it is read as it was meant where no id of an
ancestor holds a separator. -/
theorem bindsByText (g : Graph) {t : Node} (ht : t ∈ g.nodes) : g.BindsByText t where
  verdict _ hinput _ hsource hne := not_faults_iff ht hinput hsource hne
  alike _ ha _ hb _ _ _ _ := value_eq_iff ha hb
  plain hplain := by
    have hnot : ∀ a ∈ g.ancestors t.id, ∀ (r : Reference) (param : String),
        ¬r.Shadows ⟨a.id, param⟩ := by
      intro a ha r param
      exact Reference.not_shadows_of_endsAtSeparator (hplain a ha)
    refine ⟨fun input hinput text hsource hne => ?_, fun a ha b hb p hp q hq hvalue => ?_⟩
    · rw [not_faults_iff ht hinput hsource hne]
      constructor
      · rintro ⟨r, ⟨node, param⟩, hr, ⟨a, ha, rfl, hp⟩, rfl | hshadows⟩
        · exact ⟨_, hr, a, ha, rfl, hp⟩
        · exact absurd hshadows (hnot a ha r param)
      · rintro ⟨r, hr, hoffers⟩
        exact ⟨r, r, hr, hoffers, .inl rfl⟩
    · rcases (value_eq_iff ha hb).1 hvalue with hsame | hshadows | hshadows
      · exact hsame
      · exact absurd hshadows (hnot b hb _ _)
      · exact absurd hshadows (hnot a ha _ _)

/-- A node whose id holds a separator, and an input that is bound to its output. -/
def shadowedNodes : List Node :=
  [.make "s" .start "" .origin,
    { Node.make "a.output.b" .mcp "" .origin with outputs := [⟨"c", .string, none⟩] },
    { Node.make "e" .finish "" .origin with inputs := [⟨"q", some "a.output.b.output.c"⟩] }]

/-- The input passes, though it is read as a reference to a node that is not there. -/
theorem bindsByText_shadowedNodes :
    ∃ g, ofParts? shadowedNodes [.make "a.output.b" "e"] = .ok g ∧
      ∃ t ∈ g.nodes, g.BindsByText t ∧ ∃ input ∈ t.inputs, ¬g.diagnose.Faults t input ∧
        input.binding = .bound ⟨"a", "b.output.c"⟩ := by
  obtain ⟨g, hparts, t, ht, hpasses⟩ := exists_ok_of_any
    (x := ofParts? shadowedNodes [.make "a.output.b" "e"])
    (P := fun g => ∃ t ∈ g.nodes, ∃ input ∈ t.inputs, ¬g.diagnose.Faults t input ∧
      input.binding = .bound ⟨"a", "b.output.c"⟩)
    (by decide +kernel)
  exact ⟨g, hparts, t, ht, bindsByText g ht, hpasses⟩

/-- A node need not bind exactly. -/
theorem not_bindsExactly_shadowedNodes :
    ¬∀ (g : Graph) (t : Node), t ∈ g.nodes → g.BindsExactly t := by
  intro h
  obtain ⟨g, -, t, ht, input, hinput, hsource, hpasses, hread, hnone⟩ := exists_ok_of_any
    (x := ofParts? shadowedNodes [.make "a.output.b" "e"])
    (P := fun g => ∃ t ∈ g.nodes, ∃ input ∈ t.inputs,
      input.source = some "a.output.b.output.c" ∧ ¬g.diagnose.Faults t input ∧
        input.binding = .bound ⟨"a", "b.output.c"⟩ ∧ ∀ a ∈ g.ancestors t.id, a.id ≠ "a")
    (by decide +kernel)
  obtain ⟨r, hbound, a, ha, hid, -⟩ :=
    ((h g t ht).verdict input hinput _ hsource (by decide)).1 hpasses
  rw [hread] at hbound
  cases hbound
  exact hnone a ha hid

end Graph

end AgentFlow
