import AgentFlow.Proofs.Success
import AgentFlow.Proofs.Workflow.StructuralIssues

/-!
What is offered to an id that is no node.

The walk to the ancestors of a target asks of each source of an edge whether it is a node, but not
of the target. An id that is no node has ancestors all the same when an edge of a saved workflow
leads from a node to it; and such an edge is reported to dangle.
-/

namespace AgentFlow.Graph

variable {g : Graph} {id : String}

lemma ancestors_eq_nil_iff (hid : ∀ n ∈ g.nodes, n.id ≠ id) :
    g.ancestors id = [] ↔
      ∀ e ∈ g.edges, e.target = id → ∀ n ∈ g.nodes, n.id ≠ e.source := by
  rw [List.eq_nil_iff_forall_not_mem]
  constructor
  · intro hnone e he htarget n hn hsource
    have hfeeds : g.Feeds n.id id := ⟨⟨n, hn, rfl⟩, e, he, hsource.symm, htarget⟩
    exact hnone n (mem_ancestors_iff.2 ⟨hn, hid n hn, .single hfeeds⟩)
  · intro hedges n hn
    -- the last edge of a path to the id leads from a node to it
    obtain ⟨b, -, hnode, e, he, hsource, htarget⟩ :=
      Relation.TransGen.tail'_iff.1 (mem_ancestors_iff.1 hn).2.2
    obtain ⟨m, hm, hmb⟩ := hnode
    exact hedges e he htarget m hm (hmb.trans hsource.symm)

lemma resolves_nothing (hid : ∀ n ∈ g.nodes, n.id ≠ id)
    (hedges : ∀ e ∈ g.edges, e.target = id → ∀ n ∈ g.nodes, n.id ≠ e.source) :
    g.ancestors id = [] ∧ g.variablesFor id = [] := by
  have hancestors := (ancestors_eq_nil_iff hid).2 hedges
  exact ⟨hancestors, by rw [variablesFor, hancestors, List.flatMap_nil]⟩

lemma variablesFor_eq_nil_iff (hid : ∀ n ∈ g.nodes, n.id ≠ id) :
    g.variablesFor id = [] ↔ ∀ n ∈ g.nodes, g.Upstream n.id id → n.outputs = [] := by
  simp only [variablesFor, List.flatMap_eq_nil_iff, List.map_eq_nil_iff, mem_ancestors_iff]
  exact ⟨fun h n hn hpath => h n ⟨hn, hid n hn, hpath⟩, fun h n hn => h n hn.1 hn.2.2⟩

lemma mem_issues_danglingEdge {e : Edge} (he : e ∈ g.edges)
    (hend : e.source = id ∨ e.target = id) (hid : ∀ n ∈ g.nodes, n.id ≠ id) :
    ⟨none, .danglingEdge e.id id⟩ ∈ g.diagnose.issues := by
  have hmissing : id ∈ Diagnosis.missingEndpoints g e := by
    have hunknown : g.contains id = false := by
      rw [← Bool.not_eq_true, contains_iff]
      exact fun ⟨n, hn, hnid⟩ => hid n hn hnid
    refine List.mem_filter.2 ⟨?_, by simp [hunknown]⟩
    rcases hend with rfl | rfl
    · exact List.mem_cons_self
    · exact List.mem_cons_of_mem _ List.mem_cons_self
  have hedges : ⟨none, .danglingEdge e.id id⟩ ∈ Diagnosis.edges g [] g.edges := by
    rw [Diagnosis.edges_eq_flatMap, List.mem_flatMap]
    obtain ⟨i, hi, rfl⟩ := List.mem_iff_getElem.1 he
    refine ⟨⟨i, hi⟩, List.mem_finRange _, ?_⟩
    exact List.mem_append_left _ (List.mem_append_left _ (List.mem_map.2 ⟨id, hmissing, rfl⟩))
  rw [← filter_edges_diagnose] at hedges
  exact List.mem_of_mem_filter hedges

/-- What is found upstream of an id that is no node: nothing, but for the sources of edges that are
reported to dangle at it. -/
structure ResolvesUnknown (g : Graph) (id : String) : Prop where
  ancestors : g.ancestors id = [] ↔
    ∀ e ∈ g.edges, e.target = id → ∀ n ∈ g.nodes, n.id ≠ e.source
  offers : g.variablesFor id = [] ↔ ∀ n ∈ g.nodes, g.Upstream n.id id → n.outputs = []
  unreported : (∀ edge, ⟨none, .danglingEdge edge id⟩ ∉ g.diagnose.issues) →
    g.ancestors id = [] ∧ g.variablesFor id = []

/-- **Unknown targets resolve to nothing where no edge dangles at them.** -/
theorem resolvesUnknown (g : Graph) {id : String} (hid : ∀ n ∈ g.nodes, n.id ≠ id) :
    g.ResolvesUnknown id where
  ancestors := ancestors_eq_nil_iff hid
  offers := variablesFor_eq_nil_iff hid
  unreported hnone := resolves_nothing hid fun e he htarget _ _ _ =>
    hnone e.id (mem_issues_danglingEdge he (.inr htarget) hid)

/-- A start node with an edge to an id that is no node. -/
def openEnded : Except EditError Graph :=
  ofParts? [.make "s" .start "" .origin] [.make "s" "ghost"]

/-- The start is found upstream of the one id, and nothing is found upstream of another. -/
theorem resolvesUnknown_openEnded :
    ∃ g, openEnded = .ok g ∧
      (∀ n ∈ g.nodes, n.id ≠ "ghost") ∧ g.ResolvesUnknown "ghost" ∧
      (g.ancestors "ghost").map Node.id = ["s"] ∧ (g.variablesFor "ghost").length = 5 ∧
      (∀ n ∈ g.nodes, n.id ≠ "other") ∧ g.ResolvesUnknown "other" ∧ g.ancestors "other" = [] := by
  obtain ⟨g, hparts, hghost, hfound, hcount, hother, hnone⟩ := exists_ok_of_any (x := openEnded)
    (P := fun g => (∀ n ∈ g.nodes, n.id ≠ "ghost") ∧
      (g.ancestors "ghost").map Node.id = ["s"] ∧ (g.variablesFor "ghost").length = 5 ∧
      (∀ n ∈ g.nodes, n.id ≠ "other") ∧ g.ancestors "other" = [])
    (by decide +kernel)
  exact ⟨g, hparts, hghost, resolvesUnknown g hghost, hfound, hcount, hother,
    resolvesUnknown g hother, hnone⟩

/-- An id that is no node need not resolve to nothing. -/
theorem not_resolvesToNothing_openEnded :
    ¬∀ (g : Graph) (id : String), (∀ n ∈ g.nodes, n.id ≠ id) →
      g.ancestors id = [] ∧ g.variablesFor id = [] := by
  intro h
  obtain ⟨g, -, hghost, hfound⟩ := exists_ok_of_any (x := openEnded)
    (P := fun g => (∀ n ∈ g.nodes, n.id ≠ "ghost") ∧ g.ancestors "ghost" ≠ [])
    (by decide +kernel)
  exact hfound (h g "ghost" hghost).1

end AgentFlow.Graph
