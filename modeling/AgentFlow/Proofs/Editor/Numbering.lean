import Mathlib.Data.List.Induction
import AgentFlow.Proofs.Editor.Runs
import AgentFlow.Proofs.Workflow.FreshIds

/-!
The ids of the nodes over whole runs.

The numbers that are handed out rise. An id in use was therefore loaded, or has a number that was
handed out in the run; and an id that is out of use comes back only if it has a number that was not
handed out yet, which only an id that was loaded can have. A new node finds its id free.
-/

namespace AgentFlow

namespace Graph

/-! ### What an operation does to the ids -/

/-- What an operation does to the ids in use and to the number from which free ids are sought. -/
inductive Renumbers (g h : Graph) : Prop where
  | kept (ids : ∀ m ∈ h.nodes, ∃ n ∈ g.nodes, n.id = m.id) (next : h.nextNumber = g.nextNumber)
  | handedOut (k : ℕ) (le : g.nextNumber ≤ k)
      (ids : ∀ m ∈ h.nodes, m.id = numberedId k ∨ ∃ n ∈ g.nodes, n.id = m.id)
      (next : h.nextNumber = k + 1)

namespace Renumbers

variable {g h : Graph}

lemma of_eq (nodes : h.nodes = g.nodes) (next : h.nextNumber = g.nextNumber) : g.Renumbers h :=
  .kept (fun m hm => ⟨m, nodes ▸ hm, rfl⟩) next

lemma nextNumber_le (hstep : g.Renumbers h) : g.nextNumber ≤ h.nextNumber := by
  cases hstep with
  | kept _ next => exact Nat.le_of_eq next.symm
  | handedOut k le _ next => omega

end Renumbers

lemma renumbers_of_insert? {g h : Graph} {label : String} {kind : Kind} {position : Position}
    (hins : g.freshId.2.insert? (.make g.freshId.1 kind label position) = .ok h) :
    g.Renumbers h := by
  obtain ⟨hnodes, -⟩ := nodes_of_insert? hins
  refine .handedOut _ (g.le_freeNumber g.size g.nextNumber) (fun m hm => ?_)
    (nextNumber_of_insert? hins)
  rw [hnodes, List.mem_append, List.mem_singleton] at hm
  rcases hm with hm | rfl
  · exact .inr ⟨m, hm, rfl⟩
  · exact .inl rfl

lemma renumbers_of_remove? {g h : Graph} {id : String} {n : Node}
    (hrem : g.remove? id = .ok (n, h)) : g.Renumbers h := by
  refine .kept (fun m hm => ?_) (nextNumber_of_remove? hrem)
  rw [(parts_of_remove? hrem).2.2.1] at hm
  exact ⟨m, List.mem_of_mem_filter hm, rfl⟩

lemma renumbers_of_modify? {g h : Graph} {id : String} {f : Node → Node}
    (hmod : g.modify? id f = .ok h) : g.Renumbers h := by
  refine .kept (fun m hm => ?_) (nextNumber_of_modify? hmod)
  rw [(parts_of_modify? hmod).1] at hm
  obtain ⟨n, hn, rfl⟩ := List.mem_map.1 hm
  refine ⟨n, hn, ?_⟩
  split <;> rfl

lemma renumbers_of_connect? {g h : Graph} {e : Edge} {id : String}
    (hcon : g.connect? e = .ok (id, h)) : g.Renumbers h := by
  obtain ⟨-, -, ⟨_, -, -, rfl⟩ | ⟨-, -, hnodes, -⟩⟩ := parts_of_connect? hcon
  · exact .of_eq rfl rfl
  · exact .of_eq hnodes (nextNumber_of_connect? hcon)

lemma renumbers_of_removeEdge? {g h : Graph} {id : String} {e : Edge}
    (hrem : g.removeEdge? id = .ok (e, h)) : g.Renumbers h :=
  .of_eq (parts_of_removeEdge? hrem).2.1 (nextNumber_of_removeEdge? hrem)

lemma renumbers_of_update? {g h : Graph} {id : String} {u : Update}
    (hup : g.update? id u = .ok h) : g.Renumbers h :=
  renumbers_of_modify? (accepted_of_update? hup).2

/-! ### Ids out of use -/

/-- The id is out of use for good: no node has it, and it will not be handed out. -/
structure Retired (g : Graph) (id : String) : Prop where
  unused : ∀ n ∈ g.nodes, n.id ≠ id
  passed : ∀ k, id = numberedId k → k < g.nextNumber

lemma Retired.renumbers {g h : Graph} {id : String} (hid : g.Retired id) (hstep : g.Renumbers h) :
    h.Retired id where
  unused := by
    intro m hm heq
    cases hstep with
    | kept ids _ =>
      obtain ⟨n, hn, hnm⟩ := ids m hm
      exact hid.unused n hn (hnm.trans heq)
    | handedOut k le ids _ =>
      rcases ids m hm with hk | ⟨n, hn, hnm⟩
      · have := hid.passed k (heq.symm.trans hk)
        omega
      · exact hid.unused n hn (hnm.trans heq)
  passed k hk := Nat.lt_of_lt_of_le (hid.passed k hk) hstep.nextNumber_le

end Graph

/-! ### Runs -/

namespace Session

lemma renumbers_after (s : Session) (op : Operation) : s.graph.Renumbers (s.after op).graph := by
  have heffect := s.effect_after op
  generalize (s.after op).graph = h at heffect ⊢
  cases heffect with
  | unchanged => exact .of_eq rfl rfl
  | passed =>
    exact .handedOut _ (s.graph.le_freeNumber s.graph.size s.graph.nextNumber)
      (fun m hm => .inr ⟨m, hm, rfl⟩) rfl
  | inserted hins => exact Graph.renumbers_of_insert? hins
  | removed hrem => exact Graph.renumbers_of_remove? hrem
  | moved hmod => exact Graph.renumbers_of_modify? hmod
  | connected hcon => exact Graph.renumbers_of_connect? hcon
  | disconnected hrem => exact Graph.renumbers_of_removeEdge? hrem
  | updated hup => exact Graph.renumbers_of_update? hup

lemma retired_run {s : Session} {id : String} (hid : s.graph.Retired id) (ops : List Operation) :
    (s.run ops).graph.Retired id := by
  induction ops generalizing s with
  | nil => exact hid
  | cons op ops ih => exact ih (hid.renumbers (s.renumbers_after op))

/-- Every id in use was there at the beginning, or has a number that was handed out. -/
lemma id_source_run (s : Session) (ops : List Operation) : ∀ m ∈ (s.run ops).graph.nodes,
    (∃ n ∈ s.graph.nodes, n.id = m.id) ∨
      ∃ k < (s.run ops).graph.nextNumber, m.id = Graph.numberedId k := by
  induction ops using List.reverseRecOn with
  | nil => exact fun m hm => .inl ⟨m, hm, rfl⟩
  | append_singleton ops op ih =>
    intro m hm
    rw [run_append] at hm ⊢
    have hstep := (s.run ops).renumbers_after op
    have hold : (∃ n ∈ (s.run ops).graph.nodes, n.id = m.id) → (∃ n ∈ s.graph.nodes, n.id = m.id) ∨
        ∃ k < ((s.run ops).after op).graph.nextNumber, m.id = Graph.numberedId k := by
      rintro ⟨n, hn, hnm⟩
      refine (ih n hn).imp (hnm ▸ ·) fun ⟨k, hk, hid⟩ => ?_
      exact ⟨k, Nat.lt_of_lt_of_le hk hstep.nextNumber_le, hnm ▸ hid⟩
    cases hstep with
    | kept ids _ => exact hold (ids m hm)
    | handedOut k _ ids next =>
      rcases ids m hm with hid | hn
      · exact .inr ⟨k, next ▸ Nat.lt_succ_self k, hid⟩
      · exact hold hn

/-! ### Adding nodes -/

/-- Adding a node puts one new node at the end, under the id that is told, which was free. -/
structure AddsAtEnd (s : Session) (kind : Kind) (label : String) (position : Position) : Prop where
  id : (s.addNode kind label position).1 = s.graph.freshId.1
  free : s.graph.IsFree (s.addNode kind label position).1
  nodes : (s.addNode kind label position).2.graph.nodes = s.graph.nodes ++
    [.make (s.addNode kind label position).1 kind
      (if label.isEmpty then kind.displayName else label) position]
  edges : (s.addNode kind label position).2.graph.edges = s.graph.edges

lemma addsAtEnd (s : Session) (kind : Kind) (label : String) (position : Position) :
    s.AddsAtEnd kind label position := by
  have hfree := s.graph.isFree_freshId
  obtain ⟨h, hins⟩ := Graph.exists_insert? s.graph.freshId.2
    (n := .make s.graph.freshId.1 kind (if label.isEmpty then kind.displayName else label) position)
    (Graph.notMem_ids_iff.2 hfree)
  obtain ⟨hnodes, hedges⟩ := Graph.nodes_of_insert? hins
  have hadd : s.addNode kind label position = (s.graph.freshId.1, { s with graph := h }) := by
    simp only [addNode, hins]
  exact ⟨by rw [hadd], by rw [hadd]; exact hfree, by rw [hadd]; exact hnodes,
    by rw [hadd]; exact hedges⟩

/-- **Ids are fresh**: a graph finds a free id within one trial more than it has nodes and never
hands one out again, so that a session always adds the node it is asked for. -/
theorem handsOutFresh_and_addsAtEnd : (∀ g : Graph, g.HandsOutFresh) ∧
    ∀ (s : Session) (kind : Kind) (label : String) (position : Position),
      s.AddsAtEnd kind label position :=
  ⟨Graph.handsOutFresh, addsAtEnd⟩

end Session

end AgentFlow
