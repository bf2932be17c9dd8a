import AgentFlow.Proofs.Decimal.BinaryValue
import AgentFlow.Proofs.Workflow.Separator
import AgentFlow.Proofs.Workflow.Upstream
import AgentFlow.Workflow.Diagnosis

/-!
What a workflow without errors is.

A report is in order exactly when the workflow is valid, a property stated without the checks. Each
check is put in words first; the severity of a problem decides which of its findings count.
-/

namespace AgentFlow

open Text

namespace Graph

/-- The text names an output of a node upstream of `t`, and reads as a reference. -/
structure Resolves (g : Graph) (t : Node) (text : String) : Prop where
  split : ∃ before after, FirstSplit ".output.".toList text.toList before after ∧
    before ≠ [] ∧ after ≠ []
  produced : ∃ a ∈ g.nodes, ∃ p ∈ a.outputs, a.id ≠ t.id ∧ g.Upstream a.id t.id ∧
    text = a.id ++ ".output." ++ p.name

structure Valid (g : Graph) : Prop where
  oneStart : ∃! n, n ∈ g.nodes ∧ n.kind = .start
  endpoints : ∀ e ∈ g.edges, (∃ n ∈ g.nodes, n.id = e.source) ∧ ∃ n ∈ g.nodes, n.id = e.target
  startInputs : ∀ n ∈ g.nodes, n.kind = .start → n.inputs = []
  finishOutputs : ∀ n ∈ g.nodes, n.kind = .finish → n.outputs = []
  outputNames : ∀ n ∈ g.nodes, (n.outputs.map OutputParam.name).Nodup
  temperatures : ∀ n ∈ g.nodes, ∀ settings, n.config = .llm settings →
    settings.temperature.isFinite = true ∧
      0 ≤ settings.temperature.toRat ∧ settings.temperature.toRat ≤ 2
  bindings : ∀ n ∈ g.nodes, ∀ input ∈ n.inputs, ∀ text, input.source = some text → text ≠ "" →
    g.Resolves n text

end Graph

namespace Diagnosis

/-- None of the problems is an error. -/
def Harmless (ps : List Problem) : Prop := ∀ p ∈ ps, p.severity = .warning

@[simp] lemma harmless_nil : Harmless [] := by simp [Harmless]

@[simp] lemma harmless_cons {p : Problem} {ps : List Problem} :
    Harmless (p :: ps) ↔ p.severity = .warning ∧ Harmless ps := by simp [Harmless]

@[simp] lemma harmless_append {ps qs : List Problem} :
    Harmless (ps ++ qs) ↔ Harmless ps ∧ Harmless qs := by
  simp [Harmless, or_imp, forall_and]

lemma severity_ne_error {p : Problem} : p.severity ≠ .error ↔ p.severity = .warning := by
  cases p.severity <;> simp

/-! ### Terminals -/

lemma countP_eq_one_iff {α : Type*} {p : α → Bool} {l : List α} (hnd : l.Nodup) :
    l.countP p = 1 ↔ ∃! a, a ∈ l ∧ p a = true := by
  rw [List.countP_eq_length_filter, List.length_eq_one_iff]
  have hnd' := hnd.filter p
  constructor
  · rintro ⟨a, ha⟩
    have hmem : ∀ b, b ∈ l ∧ p b = true ↔ b = a := by
      intro b
      rw [← List.mem_filter, ha, List.mem_singleton]
    exact ⟨a, (hmem a).2 rfl, fun b hb => (hmem b).1 hb⟩
  · rintro ⟨a, ha, huniq⟩
    have hmem : ∀ b ∈ l.filter p, b = a := fun b hb => huniq b (List.mem_filter.1 hb)
    rcases hl : l.filter p with _ | ⟨b, _ | ⟨c, rest⟩⟩
    · have := List.mem_filter.2 ha
      rw [hl] at this
      cases this
    · exact ⟨b, rfl⟩
    · rw [hl] at hmem hnd'
      have hbc : b = c := (hmem b (by simp)).trans (hmem c (by simp)).symm
      simp [hbc] at hnd'

lemma harmless_terminals_iff {nodes : List Node} (hnd : nodes.Nodup) :
    Harmless (terminals nodes) ↔ ∃! n, n ∈ nodes ∧ n.kind = .start := by
  have hone := countP_eq_one_iff (p := fun n : Node => decide (n.kind = .start)) hnd
  simp only [decide_eq_true_eq] at hone
  rw [← hone]
  have hend : Harmless (if nodes.any (·.kind = .finish) then [] else [.missingEnd]) := by
    split <;> simp [Problem.severity]
  simp only [terminals, harmless_append, hend, and_true]
  split
  · next h0 => simp [Problem.severity, h0]
  · split
    · next h1 => simp [h1]
    · next h1 => simp [Problem.severity, h1]

/-! ### Edges -/

lemma missingEndpoints_eq_nil_iff {g : Graph} {e : Edge} :
    missingEndpoints g e = [] ↔
      (∃ n ∈ g.nodes, n.id = e.source) ∧ ∃ n ∈ g.nodes, n.id = e.target := by
  simp [missingEndpoints, ← Graph.contains_iff]

lemma edge_noError_iff {g : Graph} {seen : List Connection} {e : Edge} :
    (∀ i ∈ edge g seen e, i.isError = false) ↔ missingEndpoints g e = [] := by
  have hloop : ∀ i ∈ (if e.isSelfLoop then [⟨some e.source, .selfLoop e.id⟩] else [] : List Issue),
      i.isError = false := by
    split <;> simp [Issue.isError, Issue.severity, Problem.severity]
  have hrepeat : ∀ i ∈ (if seen.contains e.toConnection then [⟨none, .duplicateEdge e.id⟩] else []
      : List Issue), i.isError = false := by
    split <;> simp [Issue.isError, Issue.severity, Problem.severity]
  unfold edge
  constructor
  · intro h
    rw [List.eq_nil_iff_forall_not_mem]
    intro id hid
    have := h ⟨none, .danglingEdge e.id id⟩ (by simp [hid])
    simp [Issue.isError, Issue.severity, Problem.severity] at this
  · intro h i hi
    rw [h, List.map_nil, List.nil_append, List.mem_append] at hi
    exact hi.elim (hloop i) (hrepeat i)

lemma edges_noError_iff {g : Graph} {seen : List Connection} {es : List Edge} :
    (∀ i ∈ edges g seen es, i.isError = false) ↔ ∀ e ∈ es, missingEndpoints g e = [] := by
  induction es generalizing seen with
  | nil => simp [edges]
  | cons e es ih =>
    simp only [edges, List.mem_append, or_imp, forall_and, edge_noError_iff, ih, List.mem_cons,
      forall_eq]

/-! ### Parameters -/

/-- A name is listed once, where it occurs for the second time. -/
lemma count_repeats (before names : List String) (x : String) :
    (repeats before names).count x =
      if before.count x ≤ 1 ∧ 2 ≤ before.count x + names.count x then 1 else 0 := by
  induction names generalizing before with
  | nil =>
    rw [repeats, List.count_nil, if_neg (by omega)]
  | cons name rest ih =>
    unfold repeats
    by_cases hx : name = x
    · subst hx
      split
      · next hone =>
        rw [List.count_cons_self, ih, List.count_cons_self, List.count_cons_self, if_neg (by omega),
          if_pos (by omega)]
      · next hone =>
        rw [ih, List.count_cons_self, List.count_cons_self]
        exact if_congr (by omega) rfl rfl
    · split
      · rw [List.count_cons_of_ne hx, ih, List.count_cons_of_ne hx, List.count_cons_of_ne hx]
      · rw [ih, List.count_cons_of_ne hx, List.count_cons_of_ne hx]

lemma count_repeats_nil (names : List String) (x : String) :
    (repeats [] names).count x = if 2 ≤ names.count x then 1 else 0 := by
  rw [count_repeats]
  exact if_congr (by simp) rfl rfl

lemma repeats_eq_nil_iff {names : List String} : repeats [] names = [] ↔ names.Nodup := by
  rw [List.eq_nil_iff_forall_not_mem, List.nodup_iff_count_le_one]
  refine forall_congr' fun x => ?_
  rw [← List.count_eq_zero, count_repeats_nil]
  split <;> omega

lemma harmless_params_iff {n : Node} :
    Harmless (params n) ↔ (n.kind = .start → n.inputs = []) ∧ (n.kind = .finish → n.outputs = []) ∧
      (n.outputs.map OutputParam.name).Nodup := by
  have hnames : Harmless ((repeats [] (n.outputs.map OutputParam.name)).map .duplicateOutput) ↔
      (n.outputs.map OutputParam.name).Nodup := by
    rw [← repeats_eq_nil_iff]
    cases repeats [] (n.outputs.map OutputParam.name) <;> simp [Problem.severity]
  rw [params, harmless_append, harmless_append, hnames, and_assoc]
  refine and_congr ?_ (and_congr ?_ Iff.rfl)
  · split
    · next h => simp_all [Problem.severity, Kind.acceptsInputs]
    · next h => simp_all [Kind.acceptsInputs]
  · split
    · next h => simp_all [Problem.severity]
    · next h => simp_all

/-! ### Configuration -/

lemma temperatureInRange_iff {t : Binary64} :
    temperatureInRange t = true ↔ t.isFinite = true ∧ 0 ≤ t.toRat ∧ t.toRat ≤ 2 := by
  have hzero : Binary64.zero.isFinite = true := by decide
  have htwo : (2 : Binary64).isFinite = true := by decide
  have hzeroVal : Binary64.zero.toRat = 0 := by
    rw [Binary64.toRat_eq, show Binary64.zero.magnitude = 0 by decide, Binary64.grade_zero]
    simp
  have htwoVal : (2 : Binary64).toRat = 2 := by
    rw [Binary64.toRat, show (2 : Binary64).isNegative = false by decide,
      show (2 : Binary64).significand = 4503599627370496 by decide,
      show (2 : Binary64).scale = -51 by decide]
    norm_num
  rw [temperatureInRange, Bool.and_eq_true]
  constructor
  · rintro ⟨h0, h2⟩
    have hfin := Binary64.isFinite_of_atMost h0 htwo h2
    rw [Binary64.atMost_iff hzero hfin, hzeroVal] at h0
    rw [Binary64.atMost_iff hfin htwo, htwoVal] at h2
    exact ⟨hfin, h0, h2⟩
  · rintro ⟨hfin, h0, h2⟩
    rw [Binary64.atMost_iff hzero hfin, Binary64.atMost_iff hfin htwo, hzeroVal, htwoVal]
    exact ⟨h0, h2⟩

lemma harmless_config_iff {c : Config} :
    Harmless (config c) ↔ ∀ settings, c = .llm settings → settings.temperature.isFinite = true ∧
      0 ≤ settings.temperature.toRat ∧ settings.temperature.toRat ≤ 2 := by
  cases c with
  | llm settings =>
    simp only [Config.llm.injEq, forall_eq', ← temperatureInRange_iff, config]
    split
    · next h => simp [h]
    · next h => simp [h, Problem.severity]
  | knowledge base => cases base <;> simp [config, Problem.severity]
  | tool name => cases name <;> simp [config, Problem.severity]
  | _ => simp [config]

/-! ### Bindings -/

lemma binding_harmless_iff {available : List String} {input : InputParam} :
    (∀ p, binding available input = some p → p.severity = .warning) ↔
      ∀ text, input.source = some text → text ≠ "" →
        (∃ r, Reference.parse? text = some r) ∧ text ∈ available := by
  unfold binding InputParam.binding
  cases hsource : input.source with
  | none => simp [Problem.severity]
  | some text =>
    simp only [Option.some.injEq, forall_eq']
    by_cases hempty : text = ""
    · simp [hempty, Problem.severity]
    · rw [if_neg (by simpa using hempty)]
      cases hparse : Reference.parse? text with
      | none => simp [hempty, Problem.severity]
      | some r =>
        have htext := Reference.toString_of_parse? hparse
        simp only [htext, List.contains_iff_mem]
        split
        · next hmem => simp [hmem]
        · next hmem => simp [hmem, hempty, Problem.severity]

lemma harmless_bindings_iff {g : Graph} {n : Node} :
    Harmless (bindings g n) ↔ ∀ input ∈ n.inputs, ∀ text, input.source = some text → text ≠ "" →
      g.Resolves n text := by
  have hresolves : ∀ text, g.Resolves n text ↔
      (∃ r, Reference.parse? text = some r) ∧
        text ∈ (g.variablesFor n.id).map Variable.value := by
    intro text
    rw [Reference.exists_parse?_iff, Graph.mem_values_iff]
    exact ⟨fun h => ⟨h.split, h.produced⟩, fun h => ⟨h.1, h.2⟩⟩
  simp only [hresolves, ← binding_harmless_iff]
  simp only [Harmless, bindings, List.mem_filterMap]
  constructor
  · exact fun h input hinput p hp => h p ⟨input, hinput, hp⟩
  · rintro h p ⟨input, hinput, hp⟩
    exact h input hinput p hp

/-! ### The whole report -/

lemma isOk_iff {r : Report} : r.isOk = true ↔ ∀ i ∈ r.issues, i.isError = false := by
  simp [Report.isOk, Report.errors]

lemma noError_map_iff {owner : Option String} {ps : List Problem} :
    (∀ i ∈ ps.map (Issue.mk owner), i.isError = false) ↔ Harmless ps := by
  rw [List.forall_mem_map]
  refine forall₂_congr fun p _ => ?_
  rw [Issue.isError, Issue.severity, decide_eq_false_iff_not]
  exact severity_ne_error

lemma node_noError_iff {g : Graph} {n : Node} :
    (∀ i ∈ node g n, i.isError = false) ↔
      Harmless (params n) ∧ Harmless (config n.config) ∧ Harmless (bindings g n) := by
  rw [node, noError_map_iff, harmless_append, harmless_append, and_assoc]

lemma noError_diagnose_iff {g : Graph} :
    (∀ i ∈ g.diagnose.issues, i.isError = false) ↔
      Harmless (terminals g.nodes) ∧ (∀ e ∈ g.edges, missingEndpoints g e = []) ∧
        ∀ n ∈ g.nodes,
          Harmless (params n) ∧ Harmless (config n.config) ∧ Harmless (bindings g n) := by
  simp only [Graph.diagnose, List.mem_append, or_imp, forall_and, noError_map_iff,
    edges_noError_iff, and_assoc]
  refine and_congr Iff.rfl (and_congr Iff.rfl ?_)
  simp only [← forall_and, ← node_noError_iff, List.mem_flatMap]
  constructor
  · exact fun h n hn i hi => h i ⟨n, hn, hi⟩
  · rintro h i ⟨n, hn, hi⟩
    exact h n hn i hi

end Diagnosis

/-- **The gate is exact**: a workflow is reported to be in order exactly when it is valid. -/
theorem Graph.isOk_diagnose_iff (g : Graph) : g.diagnose.isOk = true ↔ g.Valid := by
  rw [Diagnosis.isOk_iff, Diagnosis.noError_diagnose_iff,
    Diagnosis.harmless_terminals_iff g.nodup_nodes]
  simp only [Diagnosis.missingEndpoints_eq_nil_iff, Diagnosis.harmless_params_iff,
    Diagnosis.harmless_config_iff, Diagnosis.harmless_bindings_iff]
  constructor
  · rintro ⟨hstart, hends, hnodes⟩
    exact {
      oneStart := hstart
      endpoints := hends
      startInputs := fun n hn => (hnodes n hn).1.1
      finishOutputs := fun n hn => (hnodes n hn).1.2.1
      outputNames := fun n hn => (hnodes n hn).1.2.2
      temperatures := fun n hn => (hnodes n hn).2.1
      bindings := fun n hn => (hnodes n hn).2.2 }
  · intro h
    exact ⟨h.oneStart, h.endpoints, fun n hn =>
      ⟨⟨h.startInputs n hn, h.finishOutputs n hn, h.outputNames n hn⟩, h.temperatures n hn,
        h.bindings n hn⟩⟩

end AgentFlow
