import AgentFlow.Proofs.Workflow.Listing

/-!
Runs of operations on a graph.

Whatever operations a graph goes through, failing ones included, it holds the nodes and edges of two
plain lists that go through the same operations, and it answers as they do.
-/

namespace AgentFlow

/-! ### Operations and their runs -/

/-- What the nodes and edges of a workflow may be held in. -/
class Editable (σ : Type) where
  insert? : σ → Node → Except EditError σ
  remove? : σ → String → Except EditError (Node × σ)
  modify? : σ → String → (Node → Node) → Except EditError σ
  connect? : σ → Edge → Except EditError (String × σ)
  removeEdge? : σ → String → Except EditError (Edge × σ)
  freshId : σ → String × σ

instance : Editable Graph where
  insert? := Graph.insert?
  remove? := Graph.remove?
  modify? := Graph.modify?
  connect? := Graph.connect?
  removeEdge? := Graph.removeEdge?
  freshId := Graph.freshId

instance : Editable Listing where
  insert? := Listing.insert?
  remove? := Listing.remove?
  modify? := Listing.modify?
  connect? := Listing.connect?
  removeEdge? := Listing.removeEdge?
  freshId := Listing.freshId

inductive Edit where
  | insert (n : Node)
  | remove (id : String)
  /-- Changes the node of an id in all but its id. -/
  | modify (id : String) (f : Node → Node)
  | connect (e : Edge)
  | removeEdge (id : String)
  | freshId

inductive Edit.Reply where
  | done
  | node (n : Node)
  | edge (e : Edge)
  | id (id : String)
deriving DecidableEq

namespace Edit

variable {σ : Type} [Editable σ]

def perform? (s : σ) : Edit → Except EditError (Reply × σ)
  | .insert n => (Editable.insert? s n).map fun t => (.done, t)
  | .remove id => (Editable.remove? s id).map fun (n, t) => (.node n, t)
  | .modify id f => (Editable.modify? s id f).map fun t => (.done, t)
  | .connect e => (Editable.connect? s e).map fun (id, t) => (.id id, t)
  | .removeEdge id => (Editable.removeEdge? s id).map fun (e, t) => (.edge e, t)
  | .freshId => let (id, t) := Editable.freshId s; .ok (.id id, t)

/-- What an operation leaves; one that fails leaves what was there. -/
def after (s : σ) (e : Edit) : σ :=
  match e.perform? s with
  | .ok (_, t) => t
  | .error _ => s

def run (s : σ) (es : List Edit) : σ := es.foldl after s

end Edit

namespace Graph

lemma listed_perform? (g : Graph) (e : Edit) :
    (e.perform? g).map listed = e.perform? g.listing := by
  cases e with
  | insert n =>
    simp only [Edit.perform?, Editable.insert?, ← listing_insert?]
    cases g.insert? n <;> rfl
  | remove id =>
    simp only [Edit.perform?, Editable.remove?, ← listing_remove?]
    cases g.remove? id <;> rfl
  | modify id f =>
    simp only [Edit.perform?, Editable.modify?, ← listing_modify?]
    cases g.modify? id f <;> rfl
  | connect e =>
    simp only [Edit.perform?, Editable.connect?, ← listing_connect?]
    cases g.connect? e <;> rfl
  | removeEdge id =>
    simp only [Edit.perform?, Editable.removeEdge?, ← listing_removeEdge?]
    cases g.removeEdge? id <;> rfl
  | freshId =>
    simp only [Edit.perform?, Editable.freshId, ← listing_freshId]
    rfl

lemma listing_after (g : Graph) (e : Edit) : (e.after g).listing = e.after g.listing := by
  rw [Edit.after, Edit.after, ← listed_perform?]
  cases e.perform? g <;> rfl

lemma listing_run (g : Graph) (es : List Edit) :
    (Edit.run g es).listing = Edit.run g.listing es := by
  induction es generalizing g with
  | nil => rfl
  | cons e es ih => exact (ih (e.after g)).trans (by rw [listing_after]; rfl)

/-! ### Where graphs come from -/

inductive Start where
  | empty
  | starter
  | parts (nodes : List Node) (edges : List Edge)

namespace Start

def graph? : Start → Except EditError Graph
  | .empty => .ok Graph.empty
  | .starter => .ok Graph.starter
  | .parts nodes edges => ofParts? nodes edges

def listing : Start → Listing
  | .empty => ⟨[], [], 0⟩
  | .starter => ⟨starterNodes, [], 0⟩
  | .parts nodes edges => ⟨nodes, edges, 0⟩

end Start

lemma nextNumber_of_insert? {g h : Graph} {n : Node} (hins : g.insert? n = .ok h) :
    h.nextNumber = g.nextNumber := by
  unfold insert? at hins
  split at hins
  · cases hins
  · cases hins
    rfl

lemma nextNumber_of_foldlM_insert? {ns : List Node} {g h : Graph}
    (hfold : ns.foldlM insert? g = .ok h) : h.nextNumber = g.nextNumber := by
  induction ns generalizing g with
  | nil => cases hfold; rfl
  | cons n ns ih =>
    rw [List.foldlM_cons] at hfold
    cases hins : g.insert? n with
    | error e => rw [hins] at hfold; cases hfold
    | ok g' =>
      rw [hins] at hfold
      exact (ih hfold).trans (nextNumber_of_insert? hins)

lemma listing_of_ofParts? {nodes : List Node} {edges : List Edge} {g : Graph}
    (h : ofParts? nodes edges = .ok g) : g.listing = ⟨nodes, edges, 0⟩ := by
  obtain ⟨hnodes, hedges⟩ := parts_of_ofParts? h
  have hnext : g.nextNumber = 0 := by
    unfold ofParts? at h
    cases hfold : nodes.foldlM insert? empty with
    | error e => rw [hfold] at h; cases h
    | ok g' =>
      rw [hfold] at h
      cases h
      exact nextNumber_of_foldlM_insert? hfold
  rw [listing, hnodes, hedges, hnext]

lemma listing_of_graph? {start : Start} {g : Graph} (h : start.graph? = .ok g) :
    g.listing = start.listing := by
  cases start with
  | empty => cases h; rfl
  | starter => cases h; rfl
  | parts nodes edges => exact listing_of_ofParts? h

/-! ### What a graph answers -/

/-- The graph answers as the list of its nodes in their order does. -/
structure Faithful (g : Graph) : Prop where
  nodup : (g.nodes.map Node.id).Nodup
  contains : ∀ id : String, g.contains id = true ↔ ∃ n ∈ g.nodes, n.id = id
  node : ∀ (id : String) (n : Node), g.node? id = some n ↔ n ∈ g.nodes ∧ n.id = id
  /-- No place of the index lies outside the list or is the place of another node. -/
  place : ∀ (id : String) (i : ℕ), g.index[id]? = some i → ∃ n, g.nodes[i]? = some n ∧ n.id = id
  insert_error : ∀ n : Node, (∃ e, g.insert? n = .error e) ↔ ∃ m ∈ g.nodes, m.id = n.id
  insert_ok : ∀ (n : Node) (h : Graph), g.insert? n = .ok h →
    h.nodes = g.nodes ++ [n] ∧ h.edges = g.edges
  remove_error : ∀ id : String, (∃ e, g.remove? id = .error e) ↔ ∀ n ∈ g.nodes, n.id ≠ id
  remove_ok : ∀ (id : String) (n : Node) (h : Graph), g.remove? id = .ok (n, h) →
    n ∈ g.nodes ∧ n.id = id ∧ h.nodes = g.nodes.filter (·.id ≠ id) ∧
      h.edges = g.edges.filter fun e => e.source ≠ id ∧ e.target ≠ id
  modify_error : ∀ (id : String) (f : Node → Node),
    (∃ e, g.modify? id f = .error e) ↔ ∀ n ∈ g.nodes, n.id ≠ id
  modify_ok : ∀ (id : String) (f : Node → Node) (h : Graph), g.modify? id f = .ok h →
    h.nodes = (g.nodes.map fun n => if n.id = id then { f n with id := n.id } else n) ∧
      h.edges = g.edges
  /-- Every operation answers as on the lists, and leaves the graph of what it leaves of them. -/
  answers : ∀ e : Edit, (e.perform? g).map listed = e.perform? g.listing
  /-- An operation that fails changes nothing. -/
  failing : ∀ (e : Edit) (error : EditError), e.perform? g = .error error → e.after g = g

lemma faithful (g : Graph) : g.Faithful where
  nodup := g.nodup_ids
  contains _ := g.contains_iff
  node _ _ := g.node?_eq_some_iff
  place _ _ := g.exists_of_place
  insert_error _ := insert?_eq_error_iff
  insert_ok _ _ := nodes_of_insert?
  remove_error _ := remove?_eq_error_iff
  remove_ok _ _ _ := parts_of_remove?
  modify_error _ _ := modify?_eq_error_iff
  modify_ok _ _ _ := parts_of_modify?
  answers := g.listed_perform?
  failing e error h := by rw [Edit.after, h]

/-- **A graph is the list of its nodes**: after any operations, failing ones included, it holds what
two plain lists hold after the same operations, and answers as they do. -/
theorem run_refines_lists {start : Start} {g : Graph} (h : start.graph? = .ok g)
    (es : List Edit) :
    (Edit.run g es).Faithful ∧ (Edit.run g es).listing = Edit.run start.listing es :=
  ⟨faithful _, by rw [listing_run, listing_of_graph? h]⟩

/-- Two nodes and a dangling edge, as a saved flow may hold them. -/
def sampleStart : Start :=
  .parts [.make "a" .llm "A" .origin, .make "b" .tool "B" .origin] [.make "a" "b", .make "b" "x"]

/-- A run in which the places of later nodes shift, an id is refused and removal fails once. -/
def sampleEdits : List Edit :=
  [.insert (.make "a" .vision "" .origin), .insert (.make "c" .vision "C" .origin),
    .connect (.make "c" "b"), .remove "a", .remove "a",
    .modify "c" fun _ => .make "d" .mcp "D" .origin]

theorem run_sampleEdits :
    ∃ g, sampleStart.graph? = .ok g ∧ (Edit.run g sampleEdits).Faithful ∧
      (Edit.run g sampleEdits).listing = Edit.run sampleStart.listing sampleEdits ∧
      (Edit.run g sampleEdits).nodes.map Node.id = ["b", "c"] ∧
      (Edit.run g sampleEdits).edges = [.make "b" "x", .make "c" "b"] := by
  obtain ⟨g, hg⟩ : ∃ g, sampleStart.graph? = .ok g := exists_ofParts? _ (by decide)
  obtain ⟨hfaithful, hlisting⟩ := run_refines_lists hg sampleEdits
  refine ⟨g, hg, hfaithful, hlisting, ?_, ?_⟩
  · have hids : (Edit.run sampleStart.listing sampleEdits).ids = ["b", "c"] := by decide
    rw [← hids, ← hlisting]
    rfl
  · have hedges : (Edit.run sampleStart.listing sampleEdits).edges =
        [.make "b" "x", .make "c" "b"] := by decide
    rw [← hedges, ← hlisting]
    rfl

end Graph

end AgentFlow
