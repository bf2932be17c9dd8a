import AgentFlow.Workflow.Node
import Std.Data.TreeMap
import Std.Data.TreeMap.Lemmas

/-!
Workflow graphs.

A graph lists its nodes and its edges in the order in which they were added, which is also the order
in which they are saved. An index takes each node id to the place of its node, so that no two nodes
share an id; every operation keeps the index in step with the list. Edges made by `connect?` join
nodes of the graph; edges that come with a saved flow may name nodes that are not there.
-/

namespace AgentFlow

/-- What a node does not let a user change. -/
inductive Refusal where
  | header
  | config (kind : Kind)
  | inputs
  | extra (key : String)
  | outputs
deriving DecidableEq, Repr

def Refusal.text : Refusal → String
  | .header => "a new label or description"
  | .config kind => kind.name ++ " configuration"
  | .inputs => "input parameters"
  | .extra key => "'" ++ key ++ "' as a free-form field"
  | .outputs => "changes to its output parameters"

inductive EditError where
  | nodeNotFound (id : String)
  | edgeNotFound (id : String)
  | duplicateNode (id : String)
  | notEditable (node : String) (kind : Kind) (what : Refusal)
  | unsupportedType (node name type : String)
deriving DecidableEq, Repr

def EditError.message : EditError → String
  | .nodeNotFound id => "Node '" ++ id ++ "' not found"
  | .edgeNotFound id => "Edge '" ++ id ++ "' not found"
  | .duplicateNode id => "A node with id '" ++ id ++ "' already exists"
  | .notEditable node kind what =>
    "Node '" ++ node ++ "' (" ++ kind.name ++ ") does not accept " ++ what.text
  | .unsupportedType node name type =>
    "Output parameter '" ++ name ++ "' on node '" ++ node ++ "' cannot have type '" ++ type ++ "'"

/-- The index takes the id of each node to the place of the node, and takes no other id. -/
def Indexes (index : Std.TreeMap String Nat) (nodes : List Node) : Prop :=
  ∀ id place, index[id]? = some place ↔ nodes[place]?.map Node.id = some id

namespace Indexes

variable {index : Std.TreeMap String Nat} {nodes : List Node}

theorem empty : Indexes ∅ [] := by
  intro id place
  simp

theorem contains_iff (h : Indexes index nodes) {id : String} :
    index.contains id = true ↔ ∃ n ∈ nodes, n.id = id := by
  rw [Std.TreeMap.contains_eq_isSome_getElem?, Option.isSome_iff_exists]
  constructor
  · rintro ⟨place, hplace⟩
    obtain ⟨n, hn, hid⟩ := Option.map_eq_some_iff.1 ((h id place).1 hplace)
    exact ⟨n, List.mem_of_getElem? hn, hid⟩
  · rintro ⟨n, hn, hid⟩
    obtain ⟨place, hplace⟩ := List.getElem?_of_mem hn
    exact ⟨place, (h id place).2 (by simp [hplace, hid])⟩

theorem nodup (h : Indexes index nodes) : (nodes.map Node.id).Nodup := by
  rw [List.Nodup, List.pairwise_iff_getElem]
  intro i j hi hj hij heq
  rw [List.length_map] at hi hj
  rw [List.getElem_map, List.getElem_map] at heq
  have hat : index[nodes[i].id]? = some i := (h _ _).2 (by simp [hi])
  have hat' : index[nodes[i].id]? = some j := (h _ _).2 (by simp [hj, heq])
  have := Option.some.inj (hat.symm.trans hat')
  omega

theorem push (h : Indexes index nodes) {n : Node} (hn : index.contains n.id = false) :
    Indexes (index.insert n.id nodes.length) (nodes ++ [n]) := by
  intro id place
  rw [Std.TreeMap.getElem?_insert]
  split
  · next heq =>
    rw [Std.compare_eq_iff_eq] at heq
    subst heq
    have hfree : ¬ ∃ m ∈ nodes, m.id = n.id := by rw [← h.contains_iff, hn]; simp
    rw [List.getElem?_append]
    split
    · next hlt =>
      constructor
      · simp only [Option.some.injEq]; omega
      · intro hat
        rw [List.getElem?_eq_getElem hlt] at hat
        exact absurd ⟨_, List.getElem_mem hlt, Option.some.inj hat⟩ hfree
    · next hge =>
      rcases Nat.eq_or_lt_of_le (Nat.not_lt.1 hge) with heq | hlt
      · simp [heq]
      · have : [n][place - nodes.length]? = none := by
          rw [List.getElem?_eq_none_iff, List.length_singleton]; omega
        rw [this]
        simp only [Option.some.injEq, Option.map_none, reduceCtorEq, iff_false]
        omega
  · next hne =>
    rw [h id place, List.getElem?_append]
    split
    · rfl
    · next hge =>
      rw [List.getElem?_eq_none (Nat.not_lt.1 hge)]
      rcases Nat.eq_or_lt_of_le (Nat.not_lt.1 hge) with heq | hlt
      · have : n.id ≠ id := fun h => hne (by rw [h, Std.compare_self])
        simp [heq, this]
      · have : [n][place - nodes.length]? = none := by
          rw [List.getElem?_eq_none_iff, List.length_singleton]; omega
        rw [this]

/-- Taking a node out moves the nodes behind it one place forward. -/
theorem eraseIdx (h : Indexes index nodes) {gone : String} {place : Nat}
    (hplace : index[gone]? = some place) :
    Indexes ((index.erase gone).map fun _ i => if place < i then i - 1 else i)
      (nodes.eraseIdx place) := by
  have hgone := (h gone place).1 hplace
  intro id i
  rw [Std.TreeMap.getElem?_map, Std.TreeMap.getElem?_erase, List.getElem?_eraseIdx]
  have hplaces : ∀ j, index[id]? = some j → (id = gone ↔ j = place) := by
    intro j hj
    constructor
    · rintro rfl
      exact Option.some.inj (hj.symm.trans hplace)
    · rintro rfl
      exact Option.some.inj (((h id j).1 hj).symm.trans hgone)
  split
  · next heq =>
    rw [Std.compare_eq_iff_eq] at heq
    subst heq
    simp only [Option.map_none, reduceCtorEq, false_iff]
    split
    · next hlt =>
      intro hat
      have := (hplaces i ((h _ _).2 hat)).1 rfl
      omega
    · next hge =>
      intro hat
      have := (hplaces (i + 1) ((h _ _).2 hat)).1 rfl
      omega
  · next hne =>
    have hid : id ≠ gone := fun e => hne (by rw [e, Std.compare_self])
    rw [Option.map_eq_some_iff]
    constructor
    · rintro ⟨j, hj, hji⟩
      have hjp : j ≠ place := fun e => hid ((hplaces j hj).2 e)
      have hat := (h id j).1 hj
      split at hji
      · rw [if_neg (by omega), show i + 1 = j by omega]; exact hat
      · rw [if_pos (by omega), ← hji]; exact hat
    · intro hat
      split at hat
      · next hlt => exact ⟨i, (h id i).2 hat, if_neg (by omega)⟩
      · next hge => exact ⟨i + 1, (h id (i + 1)).2 hat, by rw [if_pos (by omega)]; omega⟩

/-- An edit that leaves the ids alone leaves the places alone. -/
theorem modify (h : Indexes index nodes) (place : Nat) {f : Node → Node}
    (hf : ∀ n, (f n).id = n.id) : Indexes index (nodes.modify place f) := by
  intro id i
  rw [h id i, List.getElem?_modify]
  split
  · simp [hf, Function.comp_def]
  · simp

end Indexes

structure Graph where
  nodes : List Node
  index : Std.TreeMap String Nat
  edges : List Edge
  /-- The number from which the next free id is sought. It is taken to stay below `2 ^ 64`, where a
  counter of machine words would begin anew. -/
  nextNumber : Nat
  indexed : Indexes index nodes

namespace Graph

def empty : Graph := ⟨[], ∅, [], 0, .empty⟩

instance : Inhabited Graph := ⟨empty⟩

def size (g : Graph) : Nat := g.nodes.length

def contains (g : Graph) (id : String) : Bool := g.index.contains id

theorem contains_iff (g : Graph) {id : String} : g.contains id = true ↔ ∃ n ∈ g.nodes, n.id = id :=
  g.indexed.contains_iff

theorem nodup_ids (g : Graph) : (g.nodes.map Node.id).Nodup := g.indexed.nodup

theorem nodup_nodes (g : Graph) : g.nodes.Nodup :=
  List.Pairwise.of_map Node.id (fun _ _ h e => h (congrArg Node.id e)) g.nodup_ids

def node? (g : Graph) (id : String) : Option Node := (g.index[id]?).bind (g.nodes[·]?)

def insert? (g : Graph) (n : Node) : Except EditError Graph :=
  if h : g.contains n.id then .error (.duplicateNode n.id)
  else .ok { g with
    nodes := g.nodes ++ [n]
    index := g.index.insert n.id g.nodes.length
    indexed := g.indexed.push (Bool.eq_false_iff.2 h) }

/-- Takes a node out together with every edge that touches it. -/
def remove? (g : Graph) (id : String) : Except EditError (Node × Graph) :=
  match h : g.index[id]?, g.node? id with
  | some place, some n =>
    .ok (n, { g with
      nodes := g.nodes.eraseIdx place
      index := (g.index.erase id).map fun _ i => if place < i then i - 1 else i
      edges := g.edges.filter fun e => !e.touches id
      indexed := g.indexed.eraseIdx h })
  | _, _ => .error (.nodeNotFound id)

/-- Changes the node of an id in all but its id. -/
def modify? (g : Graph) (id : String) (f : Node → Node) : Except EditError Graph :=
  match g.index[id]? with
  | some place => .ok { g with
      nodes := g.nodes.modify place fun n => { f n with id := n.id }
      indexed := g.indexed.modify place fun _ => rfl }
  | none => .error (.nodeNotFound id)

/-- Joins two nodes of the graph and returns the id of the edge. Where the same handles are joined
already, that edge stands for the new one. -/
def connect? (g : Graph) (e : Edge) : Except EditError (String × Graph) :=
  if !g.contains e.source then .error (.nodeNotFound e.source)
  else if !g.contains e.target then .error (.nodeNotFound e.target)
  else match g.edges.find? (·.toConnection = e.toConnection) with
    | some existing => .ok (existing.id, g)
    | none => .ok (e.id, { g with edges := g.edges ++ [e] })

/-- Takes out the first edge of an id. -/
def removeEdge? (g : Graph) (id : String) : Except EditError (Edge × Graph) :=
  match g.edges.find? (·.id = id) with
  | some e => .ok (e, { g with edges := g.edges.eraseP (·.id = id) })
  | none => .error (.edgeNotFound id)

def numberedId (n : Nat) : String := "node_" ++ toString n

/-- The first number from `n` on whose id is free. A graph of `fuel` nodes can take no more than
`fuel` numbers, so the last candidate is free and is not looked up (see `isFree_freshId`). Like
`nextNumber`, the number is taken to stay below `2 ^ 64`. -/
def freeNumber (g : Graph) : (fuel n : Nat) → Nat
  | 0, n => n
  | fuel + 1, n => if g.contains (numberedId n) then freeNumber g fuel (n + 1) else n

/-- Hands out a free id. The numbers handed out rise, so no id is handed out twice. -/
def freshId (g : Graph) : String × Graph :=
  let n := g.freeNumber g.size g.nextNumber
  (numberedId n, { g with nextNumber := n + 1 })

/-- A graph of given nodes, whose ids must differ, and given edges, which may name anything. -/
def ofParts? (nodes : List Node) (edges : List Edge) : Except EditError Graph := do
  let g ← nodes.foldlM insert? empty
  return { g with edges := edges }

theorem nodes_of_insert? {g h : Graph} {n : Node} (hins : g.insert? n = .ok h) :
    h.nodes = g.nodes ++ [n] ∧ h.edges = g.edges := by
  unfold insert? at hins
  split at hins
  · cases hins
  · cases hins
    exact ⟨rfl, rfl⟩

theorem exists_insert? (g : Graph) {n : Node} (hfree : n.id ∉ g.nodes.map Node.id) :
    ∃ h, g.insert? n = .ok h := by
  have hnot : ¬ g.contains n.id = true := by
    rw [contains_iff]
    rintro ⟨m, hm, hid⟩
    exact hfree (List.mem_map.2 ⟨m, hm, hid⟩)
  exact ⟨_, dif_neg hnot⟩

theorem nodes_of_foldlM_insert? {ns : List Node} {g h : Graph}
    (hfold : ns.foldlM insert? g = .ok h) : h.nodes = g.nodes ++ ns ∧ h.edges = g.edges := by
  induction ns generalizing g with
  | nil =>
    cases hfold
    exact ⟨by simp, rfl⟩
  | cons n ns ih =>
    rw [List.foldlM_cons] at hfold
    cases hins : g.insert? n with
    | error e => rw [hins] at hfold; cases hfold
    | ok g' =>
      rw [hins] at hfold
      obtain ⟨hn, he⟩ := nodes_of_insert? hins
      obtain ⟨hn', he'⟩ := ih hfold
      exact ⟨by rw [hn', hn, List.append_assoc]; rfl, he'.trans he⟩

theorem exists_foldlM_insert? {ns : List Node} {g : Graph}
    (hnd : ((g.nodes ++ ns).map Node.id).Nodup) : ∃ h, ns.foldlM insert? g = .ok h := by
  induction ns generalizing g with
  | nil => exact ⟨g, rfl⟩
  | cons n ns ih =>
    have hfree : n.id ∉ g.nodes.map Node.id := by
      intro hmem
      rw [List.map_append, List.nodup_append] at hnd
      exact hnd.2.2 _ hmem _ (by simp) rfl
    obtain ⟨g', hins⟩ := exists_insert? g hfree
    obtain ⟨h, hfold⟩ := ih (g := g') (by
      rw [(nodes_of_insert? hins).1, List.append_assoc]; exact hnd)
    exact ⟨h, by rw [List.foldlM_cons, hins]; exact hfold⟩

/-- A graph is made of exactly the parts that are given. -/
theorem parts_of_ofParts? {nodes : List Node} {edges : List Edge} {g : Graph}
    (h : ofParts? nodes edges = .ok g) : g.nodes = nodes ∧ g.edges = edges := by
  unfold ofParts? at h
  cases hfold : nodes.foldlM insert? empty with
  | error e => rw [hfold] at h; cases h
  | ok g' =>
    rw [hfold] at h
    cases h
    exact ⟨(nodes_of_foldlM_insert? hfold).1, rfl⟩

theorem exists_ofParts? {nodes : List Node} (edges : List Edge)
    (hnd : (nodes.map Node.id).Nodup) : ∃ g, ofParts? nodes edges = .ok g := by
  obtain ⟨g, hfold⟩ := exists_foldlM_insert? (g := empty) hnd
  exact ⟨{ g with edges := edges }, by unfold ofParts?; rw [hfold]; rfl⟩

/-! ### The starter graph -/

def startId : String := "start-node"

def finishId : String := "end-node"

def starterNodes : List Node :=
  [.make startId .start "Start" ⟨250, 50⟩, .make finishId .finish "End" ⟨250, 400⟩]

/-- A new workflow: a start node and an end node, not connected. -/
def starter : Graph where
  nodes := starterNodes
  index := ((∅ : Std.TreeMap String Nat).insert startId 0).insert finishId 1
  edges := []
  nextNumber := 0
  indexed :=
    (Indexes.empty.push (n := .make startId .start "Start" ⟨250, 50⟩) rfl).push
      (n := .make finishId .finish "End" ⟨250, 400⟩) (by decide)

end Graph

end AgentFlow
