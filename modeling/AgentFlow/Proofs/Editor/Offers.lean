import AgentFlow.Proofs.Editor.StaleReferences
import AgentFlow.Proofs.Workflow.Offering

/-!
Binding inputs to what a session offers.

The inputs of a node can be set to whatever is offered to it, and this changes no offer. An input
that is set so passes if the text of the reference can be read. It cannot where the output has no
name, or where the id of its node is empty or begins with a separator; no id of a new workflow does.
-/

namespace AgentFlow

/-! ### Setting the inputs of a node -/

def Update.ofInputs (ps : List InputParam) : Update := { Update.empty with inputs := some ps }

lemma Update.accepted_ofInputs {n : Node} (h : n.kind.acceptsInputs = true)
    (ps : List InputParam) : (ofInputs ps).Accepted n where
  header hheader := by simp [ofInputs, empty] at hheader
  config c hc := by cases hc
  inputs qs _ hrefused := by
    rw [h] at hrefused
    cases hrefused
  extra o ho := by cases ho
  outputs qs hqs := by cases hqs

namespace Graph

variable {g : Graph} {t : Node}

lemma exists_update? {u : Update} (ht : t ∈ g.nodes) (hu : u.Accepted t) :
    ∃ h, g.update? t.id u = .ok h ∧
      h.nodes = (g.nodes.map fun n => if n.id = t.id then u.apply n else n) ∧
      h.edges = g.edges := by
  have hnode : g.node? t.id = some t := g.node?_eq_some_iff.2 ⟨ht, rfl⟩
  have herror : u.error? t = none := Update.error?_eq_none_iff.2 hu
  cases hmod : g.modify? t.id u.apply with
  | error e => exact absurd rfl (modify?_eq_error_iff.1 ⟨e, hmod⟩ t ht)
  | ok h =>
    obtain ⟨hnodes, hedges⟩ := parts_of_modify? hmod
    refine ⟨h, ?_, hnodes, hedges⟩
    rw [update?, hnode]
    dsimp only
    rw [herror]
    exact hmod

lemma offersAlike_ofInputs {h : Graph} {id : String} {ps : List InputParam}
    (hnodes : h.nodes = g.nodes.map fun n => if n.id = id then (Update.ofInputs ps).apply n else n)
    (hedges : h.edges = g.edges) :
    OffersAlike (fun n => if n.id = id then (Update.ofInputs ps).apply n else n) g h where
  nodes := hnodes
  edges := hedges
  id n _ := by split <;> rfl
  outputs n _ := by split <;> rfl

lemma finding_of_offered {input : InputParam} {a : Node} {p : OutputParam}
    (ha : a ∈ g.ancestors t.id) (hp : p ∈ a.outputs)
    (hsource : input.source = some (variableOf a p).value) :
    g.finding t input =
      if Reference.Readable ⟨a.id, p.name⟩ then none
      else some (.malformedBinding input.name (variableOf a p).value) := by
  have hvalue : (variableOf a p).value = (Reference.mk a.id p.name).toString := rfl
  have hne : (variableOf a p).value ≠ "" := by
    rw [hvalue, Reference.toString, Reference.separator]
    simp only [Ne, String.append_eq_empty_iff]
    simp
  have hoffered : (variableOf a p).value ∈ (g.variablesFor t.id).map Variable.value :=
    mem_values_iff_offers.2 ⟨⟨a.id, p.name⟩, ⟨a, ha, rfl, p, hp, rfl⟩, rfl⟩
  rw [finding, Diagnosis.binding_of_source hsource hne]
  split
  · next hnone =>
    rw [if_neg]
    rw [← Reference.exists_parse?_toString_iff, ← hvalue, hnone]
    simp
  · next r hr =>
    rw [if_pos hoffered, if_pos]
    exact Reference.exists_parse?_toString_iff.1 ⟨r, hvalue ▸ hr⟩

end Graph

namespace Session

lemma id_run_new (ops : List Operation) :
    ∀ n ∈ (new.run ops).graph.nodes, n.id ≠ "" ∧ '.' ∉ n.id.toList := by
  have hnew : ∀ n ∈ new.graph.nodes, n.id ≠ "" ∧ '.' ∉ n.id.toList := by decide
  intro n hn
  rcases new.id_source_run ops n hn with ⟨m, hm, hid⟩ | ⟨k, -, hid⟩
  · exact hid ▸ hnew m hm
  · refine ⟨?_, hid ▸ Graph.dot_notMem_numberedId⟩
    rw [hid, Graph.numberedId]
    simp only [Ne, String.append_eq_empty_iff]
    simp

/-! ### What can be bound -/

/-- The session `s'` is `s` with the inputs of `t` set to `ps`. What is reported of them is what is
found of each, in order: nothing of one that is bound to an offered output whose reference can be
read, as it can in a new workflow if the output has a name; and of one whose reference cannot be
read, that it is malformed. -/
structure BindsOffered (s : Session) (t : Node) (ps : List InputParam) (s' : Session) : Prop where
  updated : s.updateNode t.id (.ofInputs ps) = .ok s'
  reported : s'.diagnose.ofNode .bindings t.id = ps.filterMap (s.graph.finding t)
  offered : ∀ input ∈ ps, ∀ a ∈ s.graph.ancestors t.id, ∀ p ∈ a.outputs,
    input.source = some (Graph.variableOf a p).value →
      s.graph.finding t input =
        if Reference.Readable ⟨a.id, p.name⟩ then none
        else some (.malformedBinding input.name (Graph.variableOf a p).value)
  named : (∃ ops, s = new.run ops) → ∀ input ∈ ps, ∀ a ∈ s.graph.ancestors t.id, ∀ p ∈ a.outputs,
    p.name ≠ "" → input.source = some (Graph.variableOf a p).value →
      s.graph.finding t input = none

/-- **What is offered can be bound, if its reference can be read**: setting inputs to offered
outputs always succeeds, and what is reported of them is that those are malformed which cannot be
read. -/
theorem exists_bindsOffered (s : Session) {t : Node} (ht : t ∈ s.graph.nodes)
    (hkind : t.kind.acceptsInputs = true) (ps : List InputParam) :
    ∃ s', s.BindsOffered t ps s' := by
  obtain ⟨h, hup, hnodes, hedges⟩ :=
    Graph.exists_update? ht (Update.accepted_ofInputs hkind ps)
  have hoffers := Graph.offersAlike_ofInputs hnodes hedges
  have hset : (Update.ofInputs ps).apply t ∈ h.nodes := by
    rw [hnodes]
    exact List.mem_map.2 ⟨t, ht, if_pos rfl⟩
  have hoffered : ∀ input ∈ ps, ∀ a ∈ s.graph.ancestors t.id, ∀ p ∈ a.outputs,
      input.source = some (Graph.variableOf a p).value →
        s.graph.finding t input =
          if Reference.Readable ⟨a.id, p.name⟩ then none
          else some (.malformedBinding input.name (Graph.variableOf a p).value) :=
    fun _ _ _ ha _ hp hsource => Graph.finding_of_offered ha hp hsource
  refine ⟨{ s with graph := h }, ?_, ?_, hoffered, ?_⟩
  · rw [updateNode, hup]
    rfl
  · have hreported := Graph.ofNode_bindings_diagnose hset
    refine hreported.trans (List.filterMap_congr fun input _ => ?_)
    exact hoffers.binding_eq t.id input
  · rintro ⟨ops, rfl⟩ input hinput a ha p hp hname hsource
    obtain ⟨hid, hdot⟩ := id_run_new ops a (Graph.mem_ancestors_iff.1 ha).1
    rw [hoffered input hinput a ha p hp hsource, if_pos]
    exact (Reference.readable_iff_of_dot_notMem (q := ⟨a.id, p.name⟩) hid hdot).2 hname

/-- A node with two outputs, one of them without a name, before the end. -/
def namelessOperations : List Operation :=
  [.addNode .mcp "" .origin,
    .updateNode "node_0" { Update.empty with
      outputs := some [⟨"x", .string, none⟩, ⟨"", .string, none⟩] },
    .connect ⟨"node_0", "end-node", none, none⟩]

/-- Both outputs are offered to the end, but only one of them can be bound. -/
theorem exists_bindsOffered_nameless :
    ∃ t ∈ (new.run namelessOperations).graph.nodes, t.kind.acceptsInputs = true ∧
      ((new.run namelessOperations).graph.variablesFor t.id).map Variable.value =
        ["node_0.output.x", "node_0.output."] ∧
      ∃ s', (new.run namelessOperations).BindsOffered t
          [⟨"q", some "node_0.output.x"⟩, ⟨"r", some "node_0.output."⟩] s' ∧
        s'.diagnose.ofNode .bindings t.id = [.malformedBinding "r" "node_0.output."] := by
  have hthere : ∃ t ∈ (new.run namelessOperations).graph.nodes, t.kind.acceptsInputs = true ∧
      ((new.run namelessOperations).graph.variablesFor t.id).map Variable.value =
        ["node_0.output.x", "node_0.output."] ∧
      [⟨"q", some "node_0.output.x"⟩, ⟨"r", some "node_0.output."⟩].filterMap
        ((new.run namelessOperations).graph.finding t) =
          [.malformedBinding "r" "node_0.output."] := by
    decide +kernel
  obtain ⟨t, ht, hkind, hvalues, hfindings⟩ := hthere
  obtain ⟨s', hbinds⟩ := exists_bindsOffered _ ht hkind
    [⟨"q", some "node_0.output.x"⟩, ⟨"r", some "node_0.output."⟩]
  exact ⟨t, ht, hkind, hvalues, s', hbinds, hbinds.reported.trans hfindings⟩

/-- What is offered need not be something that can be bound. -/
theorem not_bindable_nameless :
    ¬∀ (ops : List Operation) (t : Node), t ∈ (new.run ops).graph.nodes →
      t.kind.acceptsInputs = true → ∀ v ∈ (new.run ops).graph.variablesFor t.id,
        ∃ s', (new.run ops).updateNode t.id (.ofInputs [⟨"r", some v.value⟩]) = .ok s' ∧
          s'.diagnose.ofNode .bindings t.id = [] := by
  intro h
  have hrefuted : ∃ t ∈ (new.run namelessOperations).graph.nodes, t.kind.acceptsInputs = true ∧
      ∃ v ∈ (new.run namelessOperations).graph.variablesFor t.id,
        ((new.run namelessOperations).updateNode t.id
          (.ofInputs [⟨"r", some v.value⟩])).toOption.any (fun s' =>
            s'.diagnose.ofNode .bindings t.id ≠ []) = true := by
    decide +kernel
  obtain ⟨t, ht, hkind, v, hv, hreported⟩ := hrefuted
  obtain ⟨s', hupdated, hnone⟩ := h namelessOperations t ht hkind v hv
  rw [hupdated] at hreported
  simp [hnone, Except.toOption] at hreported

end Session

end AgentFlow
