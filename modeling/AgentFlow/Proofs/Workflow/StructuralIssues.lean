import Mathlib.Data.Finset.Card
import Mathlib.Data.List.FinRange
import AgentFlow.Proofs.Workflow.Gate
import AgentFlow.Proofs.Workflow.Passes
import AgentFlow.Proofs.Workflow.Wiring

/-!
What is reported of the edges and of the names of outputs.

The edges are looked at in one pass that remembers the connections it has seen. What it says of an
edge depends on the nodes of the graph and on the edges before it alone, so that the report can be
told from the list of edges. An edge is reported for each connection but the first of its kind.
-/

namespace AgentFlow

/-- The problem is that an edge joins what an earlier edge joins. -/
def Problem.isDuplicateEdge : Problem → Bool
  | .duplicateEdge _ => true
  | _ => false

namespace Diagnosis

variable {g : Graph} {e : Edge}

/-! ### One edge after the other -/

/-- Of the connections that were seen, only which they are counts. -/
lemma edge_congr {seen seen' : List Connection} (h : ∀ c, c ∈ seen ↔ c ∈ seen') :
    edge g seen e = edge g seen' e := by
  have hseen : seen.contains e.toConnection = seen'.contains e.toConnection := by
    rw [Bool.eq_iff_iff, List.contains_iff_mem, List.contains_iff_mem, h]
  rw [edge, edge, hseen]

/-- The pass over the edges says of each what there is to say after the edges before it. -/
lemma edges_eq_flatMap (seen : List Connection) (es : List Edge) :
    edges g seen es = (List.finRange es.length).flatMap fun i : Fin es.length =>
      edge g ((es.take i).map Edge.toConnection ++ seen) es[i] := by
  induction es generalizing seen with
  | nil => rfl
  | cons e es ih =>
    have hplaces : List.finRange (e :: es).length = 0 :: (List.finRange es.length).map Fin.succ :=
      List.finRange_succ
    rw [edges, ih, hplaces, List.flatMap_cons, List.flatMap_map]
    refine congrArg (edge g seen e ++ ·) (List.flatMap_congr fun i _ => edge_congr fun c => ?_)
    simp only [Fin.val_succ, List.take_succ_cons, List.map_cons, List.mem_append, List.mem_cons]
    tauto

lemma filter_isDuplicateEdge_edges (seen : List Connection) (es : List Edge) :
    (edges g seen es).filter (·.problem.isDuplicateEdge) =
      (repeatedAfter seen es).map fun e => ⟨none, .duplicateEdge e.id⟩ := by
  induction es generalizing seen with
  | nil => rfl
  | cons e es ih =>
    have hedge : (edge g seen e).filter (·.problem.isDuplicateEdge) =
        (if e.toConnection ∈ seen then [e] else []).map fun e => ⟨none, .duplicateEdge e.id⟩ := by
      have hdangling : ((missingEndpoints g e).map fun id =>
          (⟨none, .danglingEdge e.id id⟩ : Issue)).filter (·.problem.isDuplicateEdge) = [] := by
        simp [List.filter_map, Function.comp_def, Problem.isDuplicateEdge]
      have hloop : (if e.isSelfLoop then [(⟨some e.source, .selfLoop e.id⟩ : Issue)] else []).filter
          (·.problem.isDuplicateEdge) = [] := by
        split <;> rfl
      rw [edge, List.filter_append, List.filter_append, hdangling, hloop]
      by_cases hseen : e.toConnection ∈ seen <;> simp [hseen, Problem.isDuplicateEdge]
    rw [edges, List.filter_append, hedge, ih, repeatedAfter, List.map_append]

end Diagnosis

/-- An edge repeats a connection, or is the first to have one that is not among `joined`. -/
lemma length_repeatedAfter (joined : List Connection) (es : List Edge) :
    (repeatedAfter joined es).length +
      ((es.map Edge.toConnection).toFinset \ joined.toFinset).card = es.length := by
  induction es generalizing joined with
  | nil => simp [repeatedAfter]
  | cons e es ih =>
    have hih := ih (e.toConnection :: joined)
    rw [List.toFinset_cons] at hih
    rw [repeatedAfter, List.length_append, List.map_cons, List.toFinset_cons, List.length_cons]
    by_cases hjoined : e.toConnection ∈ joined
    · have hmem : e.toConnection ∈ joined.toFinset := List.mem_toFinset.2 hjoined
      rw [Finset.insert_eq_of_mem hmem] at hih
      rw [if_pos hjoined, Finset.insert_sdiff_of_mem _ hmem, List.length_singleton]
      omega
    · have hmem : e.toConnection ∉ joined.toFinset := fun h => hjoined (List.mem_toFinset.1 h)
      have hparts : insert e.toConnection (es.map Edge.toConnection).toFinset \ joined.toFinset =
          insert e.toConnection
            ((es.map Edge.toConnection).toFinset \ insert e.toConnection joined.toFinset) := by
        ext c
        simp only [Finset.mem_sdiff, Finset.mem_insert]
        by_cases hc : c = e.toConnection
        · simp [hc, hmem]
        · simp [hc]
      rw [if_neg hjoined, hparts, Finset.card_insert_of_notMem (by simp), List.length_nil]
      omega

namespace Graph

/-! ### The report -/

/-- What there is to say of the edge at a place: of each end that is no node, the source first, that
it is missing; that the edge is a loop; and that an earlier edge joins what it joins. -/
def edgeIssues (g : Graph) (i : Fin g.edges.length) : List Issue :=
  let e := g.edges[i]
  (if ∃ n ∈ g.nodes, n.id = e.source then [] else [⟨none, .danglingEdge e.id e.source⟩]) ++
    (if ∃ n ∈ g.nodes, n.id = e.target then [] else [⟨none, .danglingEdge e.id e.target⟩]) ++
    (if e.source = e.target then [⟨some e.source, .selfLoop e.id⟩] else []) ++
    if ∃ f ∈ g.edges.take i, f.toConnection = e.toConnection then [⟨none, .duplicateEdge e.id⟩]
    else []

/-- The report tells of the edges one after the other what there is to say of each. It says of all
edges but one for each connection that they repeat it, and once of each name under which a node
declares several outputs. -/
structure ReportsStructure (g : Graph) : Prop where
  edges : g.diagnose.issues.filter (·.problem.pass = .edges) =
    (List.finRange g.edges.length).flatMap g.edgeIssues
  duplicates : g.diagnose.issues.countP (·.problem.isDuplicateEdge) +
    (g.edges.map Edge.toConnection).toFinset.card = g.edges.length
  outputs : ∀ owner name, g.diagnose.issues.count ⟨owner, .duplicateOutput name⟩ =
    if ∃ n ∈ g.nodes, owner = some n.id ∧ 2 ≤ n.outputs.countP (·.name = name) then 1 else 0

variable {g : Graph}

lemma missingEndpoints_map (e : Edge) :
    (Diagnosis.missingEndpoints g e).map (fun id => (⟨none, .danglingEdge e.id id⟩ : Issue)) =
      (if ∃ n ∈ g.nodes, n.id = e.source then [] else [⟨none, .danglingEdge e.id e.source⟩]) ++
        if ∃ n ∈ g.nodes, n.id = e.target then [] else [⟨none, .danglingEdge e.id e.target⟩] := by
  simp only [← contains_iff, Diagnosis.missingEndpoints, List.filter_cons, List.filter_nil]
  cases g.contains e.source <;> cases g.contains e.target <;> rfl

lemma edge_eq_edgeIssues (i : Fin g.edges.length) :
    Diagnosis.edge g ((g.edges.take i).map Edge.toConnection ++ []) g.edges[i] =
      g.edgeIssues i := by
  rw [Diagnosis.edge, missingEndpoints_map, edgeIssues]
  simp only [Edge.isSelfLoop, decide_eq_true_eq, List.append_nil, List.contains_iff_mem,
    List.mem_map]

lemma filter_edges_eq_flatMap (g : Graph) :
    g.diagnose.issues.filter (·.problem.pass = .edges) =
      (List.finRange g.edges.length).flatMap g.edgeIssues := by
  rw [filter_edges_diagnose, Diagnosis.edges_eq_flatMap]
  exact List.flatMap_congr fun i _ => edge_eq_edgeIssues i

lemma filter_isDuplicateEdge_diagnose (g : Graph) :
    g.diagnose.issues.filter (·.problem.isDuplicateEdge) =
      g.repeatedEdges.map fun e => ⟨none, .duplicateEdge e.id⟩ := by
  have hpass : ∀ p : Problem, p.isDuplicateEdge = true → p.pass = .edges := by
    rintro ⟨⟩ h <;> first | rfl | cases h
  have hboth : g.diagnose.issues.filter (·.problem.isDuplicateEdge) =
      (g.diagnose.issues.filter (·.problem.pass = .edges)).filter
        (·.problem.isDuplicateEdge) := by
    rw [List.filter_filter]
    refine List.filter_congr fun i _ => ?_
    rw [Bool.eq_iff_iff, Bool.and_eq_true, decide_eq_true_eq]
    exact ⟨fun h => ⟨h, hpass _ h⟩, And.left⟩
  rw [hboth, filter_edges_diagnose, Diagnosis.filter_isDuplicateEdge_edges, repeatedEdges]

lemma count_duplicateOutput {n : Node} (hn : n ∈ g.nodes) (name : String) :
    g.diagnose.issues.count ⟨some n.id, .duplicateOutput name⟩ =
      if 2 ≤ n.outputs.countP (·.name = name) then 1 else 0 := by
  have hnames : (n.outputs.map OutputParam.name).count name =
      n.outputs.countP (·.name = name) := by
    rw [List.count, List.countP_map]
    exact List.countP_congr fun p _ => by simp
  have hparams : (Diagnosis.params n).count (.duplicateOutput name) =
      (Diagnosis.repeats [] (n.outputs.map OutputParam.name)).count name := by
    rw [Diagnosis.params, List.count_append, List.count_append,
      List.count_map_of_injective _ _ fun _ _ h => Problem.duplicateOutput.inj h]
    split <;> split <;> simp
  rw [← Report.count_ofNode rfl, Problem.pass, ofNode_params_diagnose hn, hparams,
    Diagnosis.count_repeats_nil, hnames]

/-- **The diagnosis of the structure is exact**: it follows from the list of edges, and from the
names of the outputs of each node, whatever edges a saved workflow brings along. -/
theorem reportsStructure (g : Graph) : g.ReportsStructure where
  edges := filter_edges_eq_flatMap g
  duplicates := by
    have hlength := length_repeatedAfter [] g.edges
    rw [List.toFinset_nil, Finset.sdiff_empty] at hlength
    rw [List.countP_eq_length_filter, filter_isDuplicateEdge_diagnose, List.length_map]
    exact hlength
  outputs owner name := by
    by_cases howner : ∃ n ∈ g.nodes, owner = some n.id
    · obtain ⟨n, hn, rfl⟩ := howner
      rw [count_duplicateOutput hn]
      refine if_congr ⟨fun h => ⟨n, hn, rfl, h⟩, ?_⟩ rfl rfl
      rintro ⟨m, hm, hid, h⟩
      rwa [List.inj_on_of_nodup_map g.nodup_ids hn hm (Option.some.inj hid)]
    · rw [if_neg fun ⟨n, hn, hid, _⟩ => howner ⟨n, hn, hid⟩, List.count_eq_zero,
        mem_issues_iff (by simp [Problem.pass]) (by simp [Problem.pass])]
      exact fun ⟨n, hn, hid, _⟩ => howner ⟨n, hn, hid⟩

end Graph

end AgentFlow
