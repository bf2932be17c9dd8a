import AgentFlow.Proofs.Workflow.Bindings

/-!
The verdict on an input.

Each input of a node gets one verdict, in the order of the inputs. The verdict is told from the text
that was entered for the source and from what the nodes upstream produce; whether the text is taken
apart and put together again on the way makes no difference to it.
-/

namespace AgentFlow

open Text

/-- The text has a separator, with something before the first one and something behind it. -/
def Reference.IsShape (text : String) : Prop :=
  ∃ before after, FirstSplit separator.toList text.toList before after ∧ before ≠ [] ∧ after ≠ []

/-- The node `a` is upstream of `n`, and the text names one of its outputs. -/
structure Graph.Produces (g : Graph) (a n : Node) (text : String) : Prop where
  node : a ∈ g.nodes
  other : a.id ≠ n.id
  upstream : g.Upstream a.id n.id
  output : ∃ p ∈ a.outputs, text = a.id ++ ".output." ++ p.name

namespace Graph

/-- What is wrong with an input of the node `t`, if anything is. -/
inductive Verdict (g : Graph) (t : Node) (input : InputParam) : Option Problem → Prop
  | unbound (source : input.source = none ∨ input.source = some "") :
    g.Verdict t input (some (.unboundInput input.name))
  | malformed {text : String} (source : input.source = some text) (filled : text ≠ "")
      (shape : ¬Reference.IsShape text) :
    g.Verdict t input (some (.malformedBinding input.name text))
  | unreachable {text : String} (source : input.source = some text)
      (shape : Reference.IsShape text) (nowhere : ∀ a, ¬g.Produces a t text) :
    g.Verdict t input (some (.unreachableBinding input.name text))
  | bound {text : String} {a : Node} (source : input.source = some text)
      (shape : Reference.IsShape text) (produced : g.Produces a t text) :
    g.Verdict t input none

variable {g : Graph} {t : Node} {input : InputParam} {text : String}

lemma isShape_iff : Reference.IsShape text ↔ ∃ r, Reference.parse? text = some r :=
  Reference.exists_parse?_iff.symm

lemma ne_empty_of_isShape (h : Reference.IsShape text) : text ≠ "" := by
  rintro rfl
  obtain ⟨r, hr⟩ := isShape_iff.1 h
  cases hr

lemma mem_values_iff_produces :
    text ∈ (g.variablesFor t.id).map Variable.value ↔ ∃ a, g.Produces a t text := by
  rw [mem_values_iff]
  constructor
  · rintro ⟨a, ha, p, hp, hother, hpath, htext⟩
    exact ⟨a, ha, hother, hpath, p, hp, htext⟩
  · rintro ⟨a, ha, hother, hpath, p, hp, htext⟩
    exact ⟨a, ha, p, hp, hother, hpath, htext⟩

lemma finding_of_verdict {found : Option Problem} (h : g.Verdict t input found) :
    g.finding t input = found := by
  cases h with
  | unbound source =>
    rcases source with source | source <;>
      simp [finding, Diagnosis.binding, InputParam.binding, source]
  | malformed source filled shape =>
    have hread : Reference.parse? _ = none :=
      Option.eq_none_iff_forall_ne_some.2 fun r hr => shape (isShape_iff.2 ⟨r, hr⟩)
    rw [finding, Diagnosis.binding_of_source source filled, hread]
  | unreachable source shape nowhere =>
    obtain ⟨r, hr⟩ := isShape_iff.1 shape
    rw [finding, Diagnosis.binding_of_source source (ne_empty_of_isShape shape), hr]
    refine if_neg fun hmem => ?_
    obtain ⟨a, ha⟩ := mem_values_iff_produces.1 hmem
    exact nowhere a ha
  | bound source shape produced =>
    rw [finding, Diagnosis.binding_eq_none_iff source (ne_empty_of_isShape shape)]
    exact ⟨isShape_iff.1 shape, mem_values_iff_produces.2 ⟨_, produced⟩⟩

lemma exists_verdict (g : Graph) (t : Node) (input : InputParam) :
    ∃ found, g.Verdict t input found := by
  cases hsource : input.source with
  | none => exact ⟨_, .unbound (.inl hsource)⟩
  | some text =>
    by_cases hempty : text = ""
    · exact ⟨_, .unbound (.inr (hempty ▸ hsource))⟩
    · by_cases hshape : Reference.IsShape text
      · by_cases hproduced : ∃ a, g.Produces a t text
        · obtain ⟨a, ha⟩ := hproduced
          exact ⟨_, .bound hsource hshape ha⟩
        · exact ⟨_, .unreachable hsource hshape fun a ha => hproduced ⟨a, ha⟩⟩
      · exact ⟨_, .malformed hsource hempty hshape⟩

lemma finding_eq_iff {found : Option Problem} :
    g.finding t input = found ↔ g.Verdict t input found := by
  constructor
  · rintro rfl
    obtain ⟨found, hfound⟩ := exists_verdict g t input
    exact finding_of_verdict hfound ▸ hfound
  · exact finding_of_verdict

/-- What is reported of the inputs of the node is what is found of each of them, in their order, and
what is found of an input is the verdict on it. -/
structure JudgesEach (g : Graph) (t : Node) : Prop where
  reported : g.diagnose.ofNode .bindings t.id = t.inputs.filterMap (g.finding t)
  verdict : ∀ input found, g.finding t input = found ↔ g.Verdict t input found

/-- **Each input gets one verdict**: the report has one problem for each input that is not bound to
what a node upstream produces, and none for the others. -/
theorem judgesEach (g : Graph) {t : Node} (ht : t ∈ g.nodes) : g.JudgesEach t where
  reported := ofNode_bindings_diagnose ht
  verdict _ _ := finding_eq_iff

/-- A model before the end, whose inputs are in every state that a form can be left in. -/
def filledForm : Except EditError Graph :=
  ofParts?
    [.make "m" .llm "" .origin,
      { Node.make "e" .finish "" .origin with
        inputs := [⟨"a", none⟩, ⟨"b", some ""⟩, ⟨"c", some "m.text"⟩, ⟨"d", some "m.output."⟩,
          ⟨"f", some "m.output.text"⟩, ⟨"g", some "e.output.text"⟩,
          ⟨"h", some "m.output.text.output.x"⟩] }]
    [.make "m" "e", .make "e" "m"]

/-- The output of the model passes; the end does not reach itself, though a cycle leads through
it. -/
theorem judgesEach_filledForm :
    ∃ g, filledForm = .ok g ∧ ∃ t ∈ g.nodes, g.JudgesEach t ∧
      g.diagnose.ofNode .bindings t.id =
        [.unboundInput "a", .unboundInput "b", .malformedBinding "c" "m.text",
          .malformedBinding "d" "m.output.", .unreachableBinding "g" "e.output.text",
          .unreachableBinding "h" "m.output.text.output.x"] := by
  obtain ⟨g, hparts, t, ht, hreported⟩ := exists_ok_of_any (x := filledForm)
    (P := fun g => ∃ t ∈ g.nodes, g.diagnose.ofNode .bindings t.id =
      [.unboundInput "a", .unboundInput "b", .malformedBinding "c" "m.text",
        .malformedBinding "d" "m.output.", .unreachableBinding "g" "e.output.text",
        .unreachableBinding "h" "m.output.text.output.x"])
    (by decide +kernel)
  exact ⟨g, hparts, t, ht, judgesEach g ht, hreported⟩

end Graph

end AgentFlow
