import Mathlib.Data.List.Forall2
import AgentFlow.Editor.Session
import AgentFlow.Proofs.Success
import AgentFlow.Proofs.Workflow.Listing

/-!
Runs of an editing session.

What an operation of a session can make of its graph is said once, and what every operation
preserves, every run preserves.
-/

namespace AgentFlow

/-! ### Updates that are accepted -/

namespace Update

/-- The update keeps to what the kind of the node lets a user change. -/
structure Accepted (u : Update) (n : Node) : Prop where
  header : u.label.isSome = true ∨ u.description.isSome = true → n.kind.headerEditable = true
  config : ∀ c, u.config = some c → c.kind = n.kind
  inputs : ∀ ps, u.inputs = some ps → n.kind.acceptsInputs = false → ps = []
  extra : ∀ o, u.extra = some o → ∀ key ∈ o.keys, n.kind.isReserved key = false
  outputs : ∀ ps, u.outputs = some ps →
    (n.kind.outputPolicy = .editable ∧ ∀ p ∈ ps, p.type.isSelectable = true) ∨
      (n.kind.outputPolicy = .fixed ∧ ps = n.outputs)

lemma outputsError?_eq_none_iff {n : Node} {ps : List OutputParam} :
    outputsError? n ps = none ↔
      (n.kind.outputPolicy = .editable ∧ ∀ p ∈ ps, p.type.isSelectable = true) ∨
        (n.kind.outputPolicy = .fixed ∧ ps = n.outputs) := by
  unfold outputsError?
  cases n.kind.outputPolicy with
  | editable => simp
  | fixed => simp
  | none => simp

lemma error?_eq_none_iff {u : Update} {n : Node} : u.error? n = none ↔ u.Accepted n := by
  simp only [error?, Option.orElse_eq_orElse, Option.orElse_eq_or, Option.or_eq_none_iff,
    Option.bind_eq_none_iff, outputsError?_eq_none_iff]
  have hheader : (if (u.label.isSome || u.description.isSome) && !n.kind.headerEditable then
      some (EditError.notEditable n.id n.kind .header) else none) = none ↔
        (u.label.isSome = true ∨ u.description.isSome = true → n.kind.headerEditable = true) := by
    simp
  have hconfig : ∀ c : Config, (if c.kind = n.kind then none
      else some (EditError.notEditable n.id n.kind (.config c.kind))) = none ↔ c.kind = n.kind := by
    simp
  have hinputs : ∀ ps : List InputParam, (if !ps.isEmpty && !n.kind.acceptsInputs then
      some (EditError.notEditable n.id n.kind .inputs) else none) = none ↔
        (n.kind.acceptsInputs = false → ps = []) := by
    intro ps
    cases n.kind.acceptsInputs <;> simp
  have hextra : ∀ o : Json.Object, (∀ key, o.keys.find? n.kind.isReserved = some key →
      some (EditError.notEditable n.id n.kind (.extra key)) = none) ↔
        ∀ key ∈ o.keys, n.kind.isReserved key = false := by
    intro o
    simp only [reduceCtorEq, imp_false, ← ne_eq, ← Option.eq_none_iff_forall_ne_some,
      List.find?_eq_none, Bool.not_eq_true]
  rw [hheader]
  simp only [hconfig, hinputs, hextra]
  exact ⟨fun ⟨h, c, i, x, o⟩ => ⟨h, c, i, x, o⟩, fun h => ⟨h.1, h.2, h.3, h.4, h.5⟩⟩

lemma Accepted.kind_apply {u : Update} {n : Node} (h : u.Accepted n) :
    (u.apply n).kind = n.kind := by
  cases hconfig : u.config with
  | none => simp only [Node.kind, apply, hconfig, Option.getD_none]
  | some c => simpa only [Node.kind, apply, hconfig, Option.getD_some] using h.config c hconfig

end Update

/-! ### Changes of a graph -/

/-- A node before and after an operation that leaves it in the graph. -/
inductive Node.Altered (n : Node) : Node → Prop where
  | kept : n.Altered n
  | moved (p : Position) : n.Altered { n with position := p }
  | updated {u : Update} (h : u.Accepted n) : n.Altered (u.apply n)

lemma Node.Altered.id_eq {n m : Node} (h : n.Altered m) : m.id = n.id := by
  cases h <;> rfl

@[simp] lemma Node.kind_make (id : String) (kind : Kind) (label : String) (position : Position) :
    (make id kind label position).kind = kind := Config.kind_defaultFor kind

namespace Graph

/-- What an operation of a session makes of its graph; `gone` is the id that it takes out. -/
inductive Change (g : Graph) : (gone : Option String) → Graph → Prop where
  | altered {h : Graph} (nodes : List.Forall₂ Node.Altered g.nodes h.nodes)
      (edges : h.edges = g.edges) : g.Change none h
  | added {h : Graph} (id : String) (kind : Kind) (label : String) (position : Position)
      (free : ∀ n ∈ g.nodes, n.id ≠ id)
      (nodes : h.nodes = g.nodes ++ [.make id kind label position])
      (edges : h.edges = g.edges) : g.Change none h
  | removed {h : Graph} (id : String) (nodes : h.nodes = g.nodes.filter (·.id ≠ id))
      (edges : h.edges = g.edges.filter fun e => e.source ≠ id ∧ e.target ≠ id) :
      g.Change (some id) h
  | connected {h : Graph} (c : Connection) (source : ∃ n ∈ g.nodes, n.id = c.source)
      (target : ∃ n ∈ g.nodes, n.id = c.target) (new : ∀ e ∈ g.edges, e.toConnection ≠ c)
      (nodes : h.nodes = g.nodes) (edges : h.edges = g.edges ++ [.ofConnection c]) :
      g.Change none h
  | disconnected {h : Graph} (id : String) (nodes : h.nodes = g.nodes)
      (edges : h.edges = g.edges.eraseP (·.id = id)) : g.Change none h

namespace Change

variable {g h : Graph} {gone : Option String}

lemma of_eq (nodes : h.nodes = g.nodes) (edges : h.edges = g.edges) : g.Change none h :=
  .altered (nodes ▸ List.forall₂_same.2 fun _ _ => .kept) edges

lemma of_map {id : String} {f : Node → Node}
    (hf : ∀ n ∈ g.nodes, n.id = id → n.Altered { f n with id := n.id })
    (nodes : h.nodes = g.nodes.map fun n => if n.id = id then { f n with id := n.id } else n)
    (edges : h.edges = g.edges) : g.Change none h := by
  refine .altered ?_ edges
  rw [nodes, List.forall₂_map_right_iff, List.forall₂_same]
  intro n hn
  dsimp only
  split
  · next hid => exact hf n hn hid
  · exact .kept

lemma exists_altered (hchange : g.Change gone h) {n : Node} (hn : n ∈ g.nodes)
    (hgone : n.id ∉ gone) : ∃ m ∈ h.nodes, n.Altered m := by
  cases hchange with
  | altered nodes _ =>
    obtain ⟨i, hi, rfl⟩ := List.mem_iff_getElem.1 hn
    exact ⟨_, List.getElem_mem (nodes.length_eq ▸ hi), nodes.get hi (nodes.length_eq ▸ hi)⟩
  | added _ _ _ _ _ nodes _ => exact ⟨n, nodes ▸ List.mem_append_left _ hn, .kept⟩
  | removed id nodes _ =>
    have hne : n.id ≠ id := fun heq => hgone (heq ▸ rfl)
    exact ⟨n, by rw [nodes, List.mem_filter]; exact ⟨hn, decide_eq_true hne⟩, .kept⟩
  | connected _ _ _ _ nodes _ => exact ⟨n, nodes ▸ hn, .kept⟩
  | disconnected _ nodes _ => exact ⟨n, nodes ▸ hn, .kept⟩

lemma source (hchange : g.Change gone h) {m : Node} (hm : m ∈ h.nodes) :
    (∃ n ∈ g.nodes, n.Altered m) ∨
      (∀ n ∈ g.nodes, n.id ≠ m.id) ∧ ∃ label, m = .make m.id m.kind label m.position := by
  cases hchange with
  | altered nodes _ =>
    obtain ⟨i, hi, rfl⟩ := List.mem_iff_getElem.1 hm
    exact .inl ⟨_, List.getElem_mem (nodes.length_eq ▸ hi), nodes.get (nodes.length_eq ▸ hi) hi⟩
  | added id kind label position free nodes _ =>
    rw [nodes, List.mem_append, List.mem_singleton] at hm
    obtain hm | rfl := hm
    · exact .inl ⟨m, hm, .kept⟩
    · exact .inr ⟨free, label, by rw [Node.kind_make]; rfl⟩
  | removed _ nodes _ =>
    rw [nodes] at hm
    exact .inl ⟨m, List.mem_of_mem_filter hm, .kept⟩
  | connected _ _ _ _ nodes _ => exact .inl ⟨m, nodes ▸ hm, .kept⟩
  | disconnected _ nodes _ => exact .inl ⟨m, nodes ▸ hm, .kept⟩

lemma edge_source (hchange : g.Change gone h) {e : Edge} (he : e ∈ h.edges) :
    e ∈ g.edges ∨ ∃ c, e = .ofConnection c := by
  cases hchange with
  | altered _ edges | added _ _ _ _ _ _ edges => exact .inl (edges ▸ he)
  | removed _ _ edges =>
    rw [edges] at he
    exact .inl (List.mem_of_mem_filter he)
  | connected c _ _ _ _ edges =>
    rw [edges, List.mem_append, List.mem_singleton] at he
    exact he.imp id fun heq => ⟨c, heq⟩
  | disconnected _ _ edges => exact .inl (List.mem_of_mem_eraseP (edges ▸ he))

lemma exists_id (hchange : g.Change gone h) {id : String} (hgone : id ∉ gone)
    (hid : ∃ n ∈ g.nodes, n.id = id) : ∃ n ∈ h.nodes, n.id = id := by
  obtain ⟨n, hn, rfl⟩ := hid
  obtain ⟨m, hm, halt⟩ := hchange.exists_altered hn hgone
  exact ⟨m, hm, halt.id_eq⟩

end Change

lemma change_of_insert? {g h : Graph} {id label : String} {kind : Kind} {position : Position}
    (hins : g.freshId.2.insert? (.make id kind label position) = .ok h) : g.Change none h := by
  obtain ⟨hnodes, hedges⟩ := nodes_of_insert? hins
  refine .added id kind label position (fun n hn hid => ?_) hnodes hedges
  obtain ⟨e, herr⟩ := (insert?_eq_error_iff (g := g.freshId.2)
    (n := .make id kind label position)).2 ⟨n, hn, hid⟩
  cases hins.symm.trans herr

lemma change_of_remove? {g h : Graph} {id : String} {n : Node} (hrem : g.remove? id = .ok (n, h)) :
    g.Change (some id) h :=
  have hparts := parts_of_remove? hrem
  .removed id hparts.2.2.1 hparts.2.2.2

lemma change_of_connect? {g h : Graph} {c : Connection} {id : String}
    (hcon : g.connect? (.ofConnection c) = .ok (id, h)) : g.Change none h := by
  obtain ⟨hsource, htarget, ⟨_, -, -, rfl⟩ | ⟨hnew, -, hnodes, hedges⟩⟩ := parts_of_connect? hcon
  · exact .of_eq rfl rfl
  · exact .connected c hsource htarget hnew hnodes hedges

lemma change_of_removeEdge? {g h : Graph} {id : String} {e : Edge}
    (hrem : g.removeEdge? id = .ok (e, h)) : g.Change none h :=
  have hparts := parts_of_removeEdge? hrem
  .disconnected id hparts.2.1 hparts.2.2

lemma change_of_move {g h : Graph} {id : String} {p : Position}
    (hmod : (g.modify? id fun n => { n with position := p }) = .ok h) : g.Change none h :=
  have hparts := parts_of_modify? hmod
  .of_map (fun _ _ _ => .moved p) hparts.1 hparts.2

/-- An update that succeeds is one that the node accepts, and is carried out. -/
lemma accepted_of_update? {g h : Graph} {id : String} {u : Update} (hup : g.update? id u = .ok h) :
    (∀ n ∈ g.nodes, n.id = id → u.Accepted n) ∧ g.modify? id u.apply = .ok h := by
  unfold update? at hup
  split at hup
  · cases hup
  · next n hn =>
    split at hup
    · cases hup
    · next hok =>
      refine ⟨fun m hm hid => ?_, hup⟩
      -- the node that was asked is the only one of this id
      have hmn : g.node? id = some m := g.node?_eq_some_iff.2 ⟨hm, hid⟩
      cases hn.symm.trans hmn
      exact Update.error?_eq_none_iff.1 hok

lemma change_of_update? {g h : Graph} {id : String} {u : Update}
    (hup : g.update? id u = .ok h) : g.Change none h := by
  obtain ⟨haccepted, hmod⟩ := accepted_of_update? hup
  obtain ⟨hnodes, hedges⟩ := parts_of_modify? hmod
  refine .of_map (fun n hn hid => ?_) hnodes hedges
  exact .updated (haccepted n hn hid)

end Graph

/-! ### Operations and their runs -/

namespace Session

/-- An operation of a session, with its arguments. -/
inductive Operation where
  | addNode (kind : Kind) (label : String) (position : Position)
  | removeNode (id : String)
  | moveNode (id : String) (position : Position)
  | connect (c : Connection)
  | removeEdge (id : String)
  | updateNode (id : String) (u : Update)
  | select (id : String)
  | clearSelection
  | setAgent (agent : String)
deriving DecidableEq

def perform? (s : Session) : Operation → Except EditError Session
  | .addNode kind label position => .ok (s.addNode kind label position).2
  | .removeNode id => (s.removeNode id).map Prod.snd
  | .moveNode id position => s.moveNode id position
  | .connect c => (s.connect c).map Prod.snd
  | .removeEdge id => (s.removeEdge id).map Prod.snd
  | .updateNode id u => s.updateNode id u
  | .select id => s.select id
  | .clearSelection => .ok s.clearSelection
  | .setAgent agent => .ok (s.setAgent agent)

/-- The session after an operation; one that fails leaves the session as it was. -/
def after (s : Session) (op : Operation) : Session :=
  match s.perform? op with
  | .ok t => t
  | .error _ => s

def run (s : Session) (ops : List Operation) : Session := ops.foldl after s

@[simp] lemma run_nil (s : Session) : s.run [] = s := rfl

@[simp] lemma run_cons (s : Session) (op : Operation) (ops : List Operation) :
    s.run (op :: ops) = (s.after op).run ops := rfl

lemma run_append (s : Session) (ops ops' : List Operation) :
    s.run (ops ++ ops') = (s.run ops).run ops' := List.foldl_append

@[simp] lemma graph_clearSelection (s : Session) : s.clearSelection.graph = s.graph := by
  unfold clearSelection
  split <;> rfl

lemma graph_after_removeNode {s : Session} {id : String} {r : Node × Graph}
    (hrem : s.graph.remove? id = .ok r) : (s.after (.removeNode id)).graph = r.2 := by
  simp only [after, perform?, removeNode, hrem]
  change (if s.selected = some id then clearSelection _ else _ : Session).graph = r.2
  split
  · exact graph_clearSelection _
  · rfl

/-- What an operation of a session does to its graph, as an operation of the graph. -/
inductive Effect (g : Graph) : Operation → Graph → Prop where
  | unchanged (op : Operation) : Effect g op g
  | passed (kind : Kind) (label : String) (position : Position) :
    Effect g (.addNode kind label position) g.freshId.2
  | inserted {kind : Kind} {label label' : String} {position : Position} {h : Graph}
      (hins : g.freshId.2.insert? (.make g.freshId.1 kind label' position) = .ok h) :
    Effect g (.addNode kind label position) h
  | removed {id : String} {n : Node} {h : Graph} (hrem : g.remove? id = .ok (n, h)) :
    Effect g (.removeNode id) h
  | moved {id : String} {position : Position} {h : Graph}
      (hmod : (g.modify? id fun n => { n with position }) = .ok h) :
    Effect g (.moveNode id position) h
  | connected {c : Connection} {id : String} {h : Graph}
      (hcon : g.connect? (.ofConnection c) = .ok (id, h)) : Effect g (.connect c) h
  | disconnected {id : String} {e : Edge} {h : Graph} (hrem : g.removeEdge? id = .ok (e, h)) :
    Effect g (.removeEdge id) h
  | updated {id : String} {u : Update} {h : Graph} (hup : g.update? id u = .ok h) :
    Effect g (.updateNode id u) h

lemma effect_after (s : Session) (op : Operation) : Effect s.graph op (s.after op).graph := by
  cases op with
  | addNode kind label position =>
    simp only [after, perform?, addNode]
    split
    · next hins => exact .inserted hins
    · exact .passed kind label position
  | removeNode id =>
    cases hrem : s.graph.remove? id with
    | error e =>
      simp only [after, perform?, removeNode, hrem]
      exact .unchanged _
    | ok r => exact graph_after_removeNode hrem ▸ .removed hrem
  | moveNode id position =>
    simp only [after, perform?, moveNode]
    cases hmod : s.graph.modify? id fun n => { n with position } with
    | error e => exact .unchanged _
    | ok h => exact .moved hmod
  | connect c =>
    simp only [after, perform?, connect]
    cases hcon : s.graph.connect? (.ofConnection c) with
    | error e => exact .unchanged _
    | ok r => exact .connected hcon
  | removeEdge id =>
    simp only [after, perform?, removeEdge]
    cases hrem : s.graph.removeEdge? id with
    | error e => exact .unchanged _
    | ok r => exact .disconnected hrem
  | updateNode id u =>
    simp only [after, perform?, updateNode]
    cases hup : s.graph.update? id u with
    | error e => exact .unchanged _
    | ok h => exact .updated hup
  | select id =>
    simp only [after, perform?, select]
    split
    · next t ht =>
      split at ht
      · cases ht
      · split at ht <;> cases ht <;> exact .unchanged _
    · exact .unchanged _
  | clearSelection =>
    rw [after, perform?, graph_clearSelection]
    exact .unchanged _
  | setAgent agent => exact .unchanged _

/-- Every operation changes the graph in one of the ways listed, and only the removal of a node
takes one out. -/
lemma change_after (s : Session) (op : Operation) :
    ∃ gone, s.graph.Change gone (s.after op).graph ∧ ∀ id ∈ gone, op = .removeNode id := by
  have heffect := s.effect_after op
  generalize (s.after op).graph = h at heffect ⊢
  cases heffect with
  | unchanged => exact ⟨none, .of_eq rfl rfl, by simp⟩
  | passed => exact ⟨none, .of_eq rfl rfl, by simp⟩
  | inserted hins => exact ⟨none, Graph.change_of_insert? hins, by simp⟩
  | removed hrem => exact ⟨_, Graph.change_of_remove? hrem, by simp⟩
  | moved hmod => exact ⟨none, Graph.change_of_move hmod, by simp⟩
  | connected hcon => exact ⟨none, Graph.change_of_connect? hcon, by simp⟩
  | disconnected hrem => exact ⟨none, Graph.change_of_removeEdge? hrem, by simp⟩
  | updated hup => exact ⟨none, Graph.change_of_update? hup, by simp⟩

lemma id_ne_of_mem_removeNode {s : Session} {id : String} :
    ∀ m ∈ (s.after (.removeNode id)).graph.nodes, m.id ≠ id := by
  cases hrem : s.graph.remove? id with
  | error e =>
    simp only [after, perform?, removeNode, hrem]
    exact Graph.remove?_eq_error_iff.1 ⟨e, hrem⟩
  | ok r =>
    rw [graph_after_removeNode hrem, (Graph.parts_of_remove? hrem).2.2.1]
    intro m hm
    simpa using (List.mem_filter.1 hm).2

/-- What every change of a graph preserves holds of the graph after every run. -/
lemma graph_run {P : Graph → Prop}
    (hstep : ∀ (g h : Graph) (gone : Option String), P g → g.Change gone h → P h) {s : Session}
    (hs : P s.graph) (ops : List Operation) : P (s.run ops).graph := by
  induction ops generalizing s with
  | nil => exact hs
  | cons op ops ih =>
    obtain ⟨gone, hchange, -⟩ := s.change_after op
    exact ih (hstep _ _ gone hs hchange)

/-- What new nodes have, and what no operation takes from a node that it leaves in the graph, every
node has after every run. -/
lemma nodes_run {P : Node → Prop}
    (hmake : ∀ id kind label position, P (.make id kind label position))
    (haltered : ∀ n m, P n → n.Altered m → P m) {s : Session} (hs : ∀ n ∈ s.graph.nodes, P n)
    (ops : List Operation) : ∀ n ∈ (s.run ops).graph.nodes, P n := by
  refine graph_run (P := fun g => ∀ n ∈ g.nodes, P n) (fun g h gone hg hchange m hm => ?_) hs ops
  rcases hchange.source hm with ⟨n, hn, halt⟩ | ⟨-, label, hmake'⟩
  · exact haltered n m (hg n hn) halt
  · exact hmake' ▸ hmake m.id m.kind label m.position

/-- What new edges have, every edge has after every run. -/
lemma edges_run {P : Edge → Prop} (hmake : ∀ c, P (.ofConnection c)) {s : Session}
    (hs : ∀ e ∈ s.graph.edges, P e) (ops : List Operation) :
    ∀ e ∈ (s.run ops).graph.edges, P e := by
  refine graph_run (P := fun g => ∀ e ∈ g.edges, P e) (fun g h gone hg hchange e he => ?_) hs ops
  rcases hchange.edge_source he with hold | ⟨c, rfl⟩
  · exact hg e hold
  · exact hmake c

/-! ### Where sessions begin -/

/-- A session that has just begun, over a new workflow or a saved one. -/
inductive Begun : Session → Prop where
  | new : Begun new
  | opened {agent : String} {flow : SavedFlow} {s : Session} (h : openFlow agent flow = .ok s) :
    Begun s

lemma exists_of_openFlow {agent : String} {flow : SavedFlow} {s : Session}
    (h : openFlow agent flow = .ok s) : ∃ g, flow.decode = .ok g ∧ s = ofGraph (some agent) g := by
  unfold openFlow at h
  cases hdecode : flow.decode with
  | error e => rw [hdecode] at h; cases h
  | ok g => rw [hdecode] at h; cases h; exact ⟨g, rfl, rfl⟩

/-- A flow that opens as a session with a property that can be checked. -/
lemma exists_openFlow (agent : String) (flow : SavedFlow) {P : Session → Prop} [DecidablePred P]
    (h : (openFlow agent flow).toOption.any (P ·) = true) :
    ∃ s, openFlow agent flow = .ok s ∧ P s := exists_ok_of_any h

end Session

end AgentFlow
