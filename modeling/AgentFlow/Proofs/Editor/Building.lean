import AgentFlow.Proofs.Editor.Runs
import AgentFlow.Proofs.Workflow.Gate

/-!
Operations that build a workflow.

Joining nodes, adding nodes other than a start, moving them and changing their texts takes nothing
away that the validity of a workflow rests on. Whatever is upstream of a node stays upstream of it,
also where new edges close a cycle, and a new node declares nothing that could be wrong. A workflow
that is in order is therefore in order after any such operations.
-/

namespace AgentFlow

/-! ### Nodes -/

namespace Node

/-- The node `m` is `n` in all that validity reads of a node. -/
structure Alike (n m : Node) : Prop where
  id : m.id = n.id
  config : m.config = n.config
  outputs : m.outputs = n.outputs
  inputs : m.inputs = n.inputs

lemma Alike.refl (n : Node) : n.Alike n := ⟨rfl, rfl, rfl, rfl⟩

lemma Alike.kind {n m : Node} (h : n.Alike m) : m.kind = n.kind := congrArg Config.kind h.config

/-- What validity asks of a node by itself. -/
structure Sound (n : Node) : Prop where
  startInputs : n.kind = .start → n.inputs = []
  finishOutputs : n.kind = .finish → n.outputs = []
  outputNames : (n.outputs.map OutputParam.name).Nodup
  temperature : ∀ settings, n.config = .llm settings → settings.temperature.isFinite = true ∧
    0 ≤ settings.temperature.toRat ∧ settings.temperature.toRat ≤ 2

lemma Sound.alike {n m : Node} (hn : n.Sound) (h : n.Alike m) : m.Sound where
  startInputs hkind := h.inputs.trans (hn.startInputs (h.kind ▸ hkind))
  finishOutputs hkind := h.outputs.trans (hn.finishOutputs (h.kind ▸ hkind))
  outputNames := h.outputs ▸ hn.outputNames
  temperature settings hconfig := hn.temperature settings (h.config ▸ hconfig)

lemma sound_make (id : String) (kind : Kind) (label : String) (position : Position) :
    (make id kind label position).Sound where
  startInputs _ := rfl
  finishOutputs hkind := by
    rw [kind_make] at hkind
    rw [hkind]
    rfl
  outputNames := by
    change (kind.defaultOutputs.map OutputParam.name).Nodup
    cases kind <;> decide
  temperature settings hconfig := by
    have hdefault : Diagnosis.temperatureInRange LlmConfig.defaultTemperature = true := by decide
    change Config.defaultFor kind = .llm settings at hconfig
    cases kind <;> cases hconfig
    exact Diagnosis.temperatureInRange_iff.1 hdefault

end Node

namespace Graph

lemma Valid.sound {g : Graph} (hg : g.Valid) {n : Node} (hn : n ∈ g.nodes) : n.Sound :=
  ⟨hg.startInputs n hn, hg.finishOutputs n hn, hg.outputNames n hn, hg.temperatures n hn⟩

/-! ### Workflows that grow -/

/-- The workflow `h` has all that `g` has. What it has besides are new nodes, none of them a start,
and edges that join nodes. -/
structure Grows (g h : Graph) : Prop where
  kept : ∀ n ∈ g.nodes, ∃ m ∈ h.nodes, n.Alike m
  nodes : ∀ m ∈ h.nodes, (∃ n ∈ g.nodes, n.Alike m) ∨
    ∃ id kind label position, kind ≠ .start ∧ m = .make id kind label position
  edges : g.edges ⊆ h.edges
  joined : ∀ e ∈ h.edges, e ∈ g.edges ∨
    (∃ n ∈ h.nodes, n.id = e.source) ∧ ∃ n ∈ h.nodes, n.id = e.target

namespace Grows

variable {g h : Graph}

lemma of_nodes_eq (nodes : h.nodes = g.nodes) (edges : g.edges ⊆ h.edges)
    (joined : ∀ e ∈ h.edges, e ∈ g.edges ∨
      (∃ n ∈ g.nodes, n.id = e.source) ∧ ∃ n ∈ g.nodes, n.id = e.target) : g.Grows h where
  kept n hn := ⟨n, nodes ▸ hn, .refl n⟩
  nodes m hm := .inl ⟨m, nodes ▸ hm, .refl m⟩
  edges := edges
  joined := nodes ▸ joined

lemma of_eq (nodes : h.nodes = g.nodes) (edges : h.edges = g.edges) : g.Grows h :=
  .of_nodes_eq nodes (edges ▸ List.Subset.refl _) fun _ he => .inl (edges ▸ he)

lemma of_map {id : String} {f : Node → Node}
    (hf : ∀ n ∈ g.nodes, n.id = id → n.Alike { f n with id := n.id })
    (nodes : h.nodes = g.nodes.map fun n => if n.id = id then { f n with id := n.id } else n)
    (edges : h.edges = g.edges) : g.Grows h := by
  have halike : ∀ n ∈ g.nodes, n.Alike (if n.id = id then { f n with id := n.id } else n) := by
    intro n hn
    split
    · next hid => exact hf n hn hid
    · exact .refl n
  refine ⟨fun n hn => ⟨_, nodes ▸ List.mem_map_of_mem hn, halike n hn⟩, fun m hm => ?_,
    edges ▸ List.Subset.refl _, fun _ he => .inl (edges ▸ he)⟩
  rw [nodes] at hm
  obtain ⟨n, hn, rfl⟩ := List.mem_map.1 hm
  exact .inl ⟨n, hn, halike n hn⟩

lemma of_added {id label : String} {kind : Kind} {position : Position} (hkind : kind ≠ .start)
    (nodes : h.nodes = g.nodes ++ [.make id kind label position]) (edges : h.edges = g.edges) :
    g.Grows h where
  kept n hn := ⟨n, nodes ▸ List.mem_append_left _ hn, .refl n⟩
  nodes m hm := by
    rw [nodes, List.mem_append, List.mem_singleton] at hm
    exact hm.imp (fun hm => ⟨m, hm, .refl m⟩) fun heq => ⟨id, kind, label, position, hkind, heq⟩
  edges := edges ▸ List.Subset.refl _
  joined _ he := .inl (edges ▸ he)

lemma of_connected {e : Edge} (source : ∃ n ∈ g.nodes, n.id = e.source)
    (target : ∃ n ∈ g.nodes, n.id = e.target) (nodes : h.nodes = g.nodes)
    (edges : h.edges = g.edges ++ [e]) : g.Grows h := by
  refine .of_nodes_eq nodes (edges ▸ List.subset_append_left _ _) fun f hf => ?_
  rw [edges, List.mem_append, List.mem_singleton] at hf
  rcases hf with hf | rfl
  · exact .inl hf
  · exact .inr ⟨source, target⟩

variable (hgrows : g.Grows h)
include hgrows

lemma exists_node {id : String} (hid : ∃ n ∈ g.nodes, n.id = id) : ∃ n ∈ h.nodes, n.id = id := by
  obtain ⟨n, hn, rfl⟩ := hid
  obtain ⟨m, hm, halike⟩ := hgrows.kept n hn
  exact ⟨m, hm, halike.id⟩

lemma upstream {a b : String} (hpath : g.Upstream a b) : h.Upstream a b := by
  refine Relation.TransGen.mono ?_ _ _ hpath
  rintro c d ⟨hnode, e, he, hends⟩
  exact ⟨hgrows.exists_node hnode, e, hgrows.edges he, hends⟩

lemma resolves {n m : Node} (halike : n.Alike m) {text : String} (hn : g.Resolves n text) :
    h.Resolves m text := by
  obtain ⟨a, ha, p, hp, hother, hpath, htext⟩ := hn.produced
  obtain ⟨b, hb, hab⟩ := hgrows.kept a ha
  refine ⟨hn.split, b, hb, p, hab.outputs ▸ hp, ?_, ?_, hab.id ▸ htext⟩
  · rwa [hab.id, halike.id]
  · rw [hab.id, halike.id]
    exact hgrows.upstream hpath

lemma existsUnique_start (hg : ∃! n, n ∈ g.nodes ∧ n.kind = .start) :
    ∃! m, m ∈ h.nodes ∧ m.kind = .start := by
  obtain ⟨n, ⟨hn, hkind⟩, hunique⟩ := hg
  obtain ⟨m, hm, halike⟩ := hgrows.kept n hn
  refine ⟨m, ⟨hm, halike.kind.trans hkind⟩, ?_⟩
  rintro k ⟨hk, hkstart⟩
  rcases hgrows.nodes k hk with ⟨l, hl, hlk⟩ | ⟨id, kind, label, position, hne, rfl⟩
  · obtain rfl := hunique l ⟨hl, hlk.kind ▸ hkstart⟩
    exact List.inj_on_of_nodup_map h.nodup_ids hk hm (hlk.id.trans halike.id.symm)
  · exact absurd ((Node.kind_make id kind label position).symm.trans hkstart) hne

lemma valid (hg : g.Valid) : h.Valid := by
  have hsound : ∀ m ∈ h.nodes, m.Sound := by
    intro m hm
    rcases hgrows.nodes m hm with ⟨n, hn, halike⟩ | ⟨id, kind, label, position, -, rfl⟩
    · exact (hg.sound hn).alike halike
    · exact Node.sound_make id kind label position
  refine ⟨hgrows.existsUnique_start hg.oneStart, fun e he => ?_, fun m hm => (hsound m hm).1,
    fun m hm => (hsound m hm).2, fun m hm => (hsound m hm).3, fun m hm => (hsound m hm).4,
    fun m hm input hinput text hsource hne => ?_⟩
  · rcases hgrows.joined e he with hold | hends
    · exact (hg.endpoints e hold).imp hgrows.exists_node hgrows.exists_node
    · exact hends
  · rcases hgrows.nodes m hm with ⟨n, hn, halike⟩ | ⟨id, kind, label, position, -, rfl⟩
    · have hresolves := hg.bindings n hn input (halike.inputs ▸ hinput) text hsource hne
      exact hgrows.resolves halike hresolves
    · cases hinput

end Grows

end Graph

/-! ### Operations that build -/

namespace Session

/-- The operation adds to the workflow, or changes what validity does not read. -/
def Operation.Builds : Operation → Prop
  | .addNode kind _ _ => kind ≠ .start
  | .updateNode _ u => u.config = none ∧ u.inputs = none ∧ u.outputs = none
  | .removeNode _ | .removeEdge _ => False
  | .moveNode _ _ | .connect _ | .select _ | .clearSelection | .setAgent _ => True

lemma grows_after (s : Session) {op : Operation} (hop : op.Builds) :
    s.graph.Grows (s.after op).graph := by
  have heffect := s.effect_after op
  generalize (s.after op).graph = h at heffect
  cases heffect with
  | unchanged => exact .of_eq rfl rfl
  | passed => exact .of_eq rfl rfl
  | inserted hins =>
    obtain ⟨hnodes, hedges⟩ := Graph.nodes_of_insert? hins
    exact .of_added hop hnodes hedges
  | removed => exact hop.elim
  | moved hmod =>
    obtain ⟨hnodes, hedges⟩ := Graph.parts_of_modify? hmod
    refine .of_map (fun n _ _ => ?_) hnodes hedges
    exact ⟨rfl, rfl, rfl, rfl⟩
  | connected hcon =>
    obtain ⟨hsource, htarget, ⟨_, -, -, rfl⟩ | ⟨-, -, hnodes, hedges⟩⟩ :=
      Graph.parts_of_connect? hcon
    · exact .of_eq rfl rfl
    · exact .of_connected hsource htarget hnodes hedges
  | disconnected => exact hop.elim
  | @updated id u _ hup =>
    obtain ⟨hnodes, hedges⟩ := Graph.parts_of_modify? (Graph.accepted_of_update? hup).2
    obtain ⟨hconfig, hinputs, houtputs⟩ := hop
    refine .of_map (fun n _ _ => ?_) hnodes hedges
    refine ⟨rfl, ?_, ?_, ?_⟩
    · simp only [Update.apply, hconfig, Option.getD_none]
    · simp only [Update.apply, houtputs, Option.getD_none]
    · simp only [Update.apply, hinputs, Option.getD_none]

lemma isOk_after {s : Session} {op : Operation} (hok : s.diagnose.isOk = true)
    (hop : op.Builds) : (s.after op).diagnose.isOk = true := by
  rw [diagnose, Graph.isOk_diagnose_iff] at hok ⊢
  exact (s.grows_after hop).valid hok

lemma isOk_run {s : Session} (hok : s.diagnose.isOk = true) {ops : List Operation}
    (hops : ∀ op ∈ ops, op.Builds) : (s.run ops).diagnose.isOk = true := by
  induction ops generalizing s with
  | nil => exact hok
  | cons op ops ih =>
    rw [List.forall_mem_cons] at hops
    exact ih (isOk_after hok hops.1) hops.2

/-- **Building never breaks a workflow that is in order**: each operation that builds and succeeds
leaves it in order, and so does every run of such operations. -/
theorem isOk_of_builds {s : Session} (hok : s.diagnose.isOk = true) :
    (∀ op t, op.Builds → s.perform? op = .ok t → t.diagnose.isOk = true) ∧
      ∀ ops, (∀ op ∈ ops, op.Builds) → (s.run ops).diagnose.isOk = true := by
  refine ⟨fun op t hop hperform => ?_, fun ops hops => isOk_run hok hops⟩
  have hafter : s.after op = t := by rw [after, hperform]
  exact hafter ▸ isOk_after hok hop

/-- From the start through a model to the end, which reads the text of the model. -/
def answering : List Operation :=
  [.addNode .llm "Ask" .origin, .connect ⟨"start-node", "node_0", none, none⟩,
    .connect ⟨"node_0", "end-node", none, none⟩,
    .updateNode "end-node"
      { Update.empty with inputs := some [⟨"answer", some "node_0.output.text"⟩] }]

/-- An edge from the end back to the model, which puts the end upstream of itself. -/
def closing : Operation := .connect ⟨"end-node", "node_0", none, none⟩

theorem isOk_of_builds_closing : (new.run answering).diagnose.isOk = true ∧
    ∃ t, (new.run answering).perform? closing = .ok t ∧ t.graph.edges.length = 3 ∧
      t.diagnose.isOk = true ∧
      (t.run [closing, .addNode .llm "Again" .origin]).diagnose.isOk = true := by
  have hok : (new.run answering).diagnose.isOk = true := by decide +kernel
  obtain ⟨t, ht, hedges⟩ := exists_ok_of_any (x := (new.run answering).perform? closing)
    (P := fun t => t.graph.edges.length = 3) (by decide +kernel)
  have hclosed : t.diagnose.isOk = true := (isOk_of_builds hok).1 closing t trivial ht
  refine ⟨hok, t, ht, hedges, hclosed, (isOk_of_builds hclosed).2 _ fun op hop => ?_⟩
  rcases List.mem_pair.1 hop with rfl | rfl
  · trivial
  · change Kind.llm ≠ Kind.start
    decide

end Session

end AgentFlow
