import Mathlib.Logic.Relation
import AgentFlow.Proofs.Workflow.Upstream
import AgentFlow.Workflow.Diagnosis

/-!
What a diagnosis reads of a workflow.

The bindings of a node are judged by the ids and outputs of the nodes and by the edges. Two
workflows that agree in these offer every node the same references. Of the rest, a diagnosis reads
the kinds, the inputs and the configurations.
-/

namespace AgentFlow.Graph

/-- The workflow `h` is `g` with each node `n` replaced by `f n`, which has the id and the outputs
of `n`. -/
structure OffersAlike (f : Node → Node) (g h : Graph) : Prop where
  nodes : h.nodes = g.nodes.map f
  edges : h.edges = g.edges
  id : ∀ n ∈ g.nodes, (f n).id = n.id
  outputs : ∀ n ∈ g.nodes, (f n).outputs = n.outputs

/-- Workflows with the same nodes and edges. -/
lemma OffersAlike.of_eq {g h : Graph} (hnodes : h.nodes = g.nodes) (hedges : h.edges = g.edges) :
    OffersAlike (fun n => n) g h where
  nodes := hnodes.trans (List.map_id' _).symm
  edges := hedges
  id _ _ := rfl
  outputs _ _ := rfl

namespace OffersAlike

variable {f : Node → Node} {g h : Graph} (hfg : OffersAlike f g h)
include hfg

/-! ### The same offers -/

lemma exists_node_iff {id : String} : (∃ n ∈ h.nodes, n.id = id) ↔ ∃ n ∈ g.nodes, n.id = id := by
  simp only [hfg.nodes, List.mem_map, exists_exists_and_eq_and]
  refine exists_congr fun n => and_congr_right fun hn => ?_
  rw [hfg.id n hn]

lemma contains_eq (id : String) : h.contains id = g.contains id := by
  rw [Bool.eq_iff_iff, contains_iff, contains_iff]
  exact hfg.exists_node_iff

lemma upstream_eq : h.Upstream = g.Upstream := by
  have hfeeds : h.Feeds = g.Feeds := by
    funext a b
    rw [Feeds, Feeds, hfg.exists_node_iff, hfg.edges]
  rw [Upstream, Upstream, hfeeds]

lemma mem_values_iff {target text : String} :
    text ∈ (h.variablesFor target).map Variable.value ↔
      text ∈ (g.variablesFor target).map Variable.value := by
  rw [Graph.mem_values_iff, Graph.mem_values_iff, hfg.nodes, hfg.upstream_eq]
  simp only [List.mem_map, exists_exists_and_eq_and]
  refine exists_congr fun n => and_congr_right fun hn => ?_
  rw [hfg.id n hn, hfg.outputs n hn]

lemma binding_eq (target : String) (input : InputParam) :
    Diagnosis.binding ((h.variablesFor target).map Variable.value) input =
      Diagnosis.binding ((g.variablesFor target).map Variable.value) input := by
  have hcontains : ∀ text, ((h.variablesFor target).map Variable.value).contains text =
      ((g.variablesFor target).map Variable.value).contains text := by
    intro text
    rw [Bool.eq_iff_iff, List.contains_iff_mem, List.contains_iff_mem, hfg.mem_values_iff]
  simp only [Diagnosis.binding, hcontains]

/-! ### The same diagnosis -/

lemma edge_eq (seen : List Connection) (e : Edge) :
    Diagnosis.edge h seen e = Diagnosis.edge g seen e := by
  simp only [Diagnosis.edge, Diagnosis.missingEndpoints, hfg.contains_eq]

lemma edges_eq (seen : List Connection) (es : List Edge) :
    Diagnosis.edges h seen es = Diagnosis.edges g seen es := by
  induction es generalizing seen with
  | nil => rfl
  | cons e es ih => rw [Diagnosis.edges, Diagnosis.edges, hfg.edge_eq, ih]

lemma terminals_eq (hkind : ∀ n ∈ g.nodes, (f n).kind = n.kind) :
    Diagnosis.terminals h.nodes = Diagnosis.terminals g.nodes := by
  have hcount : h.nodes.countP (·.kind = .start) = g.nodes.countP (·.kind = .start) := by
    rw [hfg.nodes, List.countP_map]
    exact List.countP_congr fun n hn => by simp [hkind n hn]
  have hany : h.nodes.any (·.kind = .finish) = g.nodes.any (·.kind = .finish) := by
    rw [hfg.nodes, List.any_map, Bool.eq_iff_iff, List.any_eq_true, List.any_eq_true]
    refine exists_congr fun n => and_congr_right fun hn => ?_
    simp [hkind n hn]
  rw [Diagnosis.terminals, Diagnosis.terminals, hcount, hany]

/-- With the same kinds and inputs, only the issues of the configurations can differ. -/
lemma issues_eq (hkind : ∀ n ∈ g.nodes, (f n).kind = n.kind)
    (hinputs : ∀ n ∈ g.nodes, (f n).inputs = n.inputs) :
    h.diagnose.issues =
      (Diagnosis.terminals g.nodes).map (⟨none, ·⟩) ++ Diagnosis.edges g [] g.edges ++
        g.nodes.flatMap fun n =>
          (Diagnosis.params n ++ Diagnosis.config (f n).config ++ Diagnosis.bindings g n).map
            (⟨some n.id, ·⟩) := by
  have hnode : ∀ n ∈ g.nodes, Diagnosis.node h (f n) =
      (Diagnosis.params n ++ Diagnosis.config (f n).config ++ Diagnosis.bindings g n).map
        (⟨some n.id, ·⟩) := by
    intro n hn
    have hparams : Diagnosis.params (f n) = Diagnosis.params n := by
      rw [Diagnosis.params, Diagnosis.params, hkind n hn, hinputs n hn, hfg.outputs n hn]
    have hbindings : Diagnosis.bindings h (f n) = Diagnosis.bindings g n := by
      rw [Diagnosis.bindings, Diagnosis.bindings, hinputs n hn, hfg.id n hn]
      exact List.filterMap_congr fun input _ => hfg.binding_eq n.id input
    rw [Diagnosis.node, hparams, hbindings, hfg.id n hn]
  rw [diagnose, hfg.terminals_eq hkind, hfg.edges_eq, hfg.edges, hfg.nodes, List.flatMap_map]
  exact congrArg (_ ++ ·) (List.flatMap_congr hnode)

end OffersAlike

lemma diagnose_congr {g h : Graph} (hnodes : h.nodes = g.nodes) (hedges : h.edges = g.edges) :
    h.diagnose = g.diagnose := by
  have hissues := (OffersAlike.of_eq hnodes hedges).issues_eq (fun _ _ => rfl) fun _ _ => rfl
  exact congrArg Report.mk hissues

end AgentFlow.Graph
