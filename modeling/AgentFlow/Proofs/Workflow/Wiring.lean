import AgentFlow.Proofs.Workflow.Refinement

/-!
Edges that dangle and connections that repeat, over runs of operations.

Both come into a graph with a saved flow only. An operation either thins the edges out, and leaves
no edge without an endpoint that it had, or joins two nodes of the graph that were not joined that
way. So the edges that dangle after a run, and those that repeat a connection, are some of those
that did so before it.
-/

namespace AgentFlow

/-! ### Edges that dangle and edges that repeat -/

/-- An endpoint of the edge is no node of the graph. -/
def Edge.Dangles (e : Edge) (g : Graph) : Prop :=
  (∀ n ∈ g.nodes, n.id ≠ e.source) ∨ ∀ n ∈ g.nodes, n.id ≠ e.target

instance (e : Edge) (g : Graph) : Decidable (e.Dangles g) := inferInstanceAs (Decidable (_ ∨ _))

lemma Edge.not_dangles_iff {e : Edge} {g : Graph} :
    ¬e.Dangles g ↔ (∃ n ∈ g.nodes, n.id = e.source) ∧ ∃ n ∈ g.nodes, n.id = e.target := by
  simp [Dangles]

/-- The edges with a connection that is among `joined` or that an earlier edge has. -/
def repeatedAfter (joined : List Connection) : List Edge → List Edge
  | [] => []
  | e :: rest =>
    (if e.toConnection ∈ joined then [e] else []) ++ repeatedAfter (e.toConnection :: joined) rest

lemma repeatedAfter_sublist {joined joined' : List Connection} {es es' : List Edge}
    (hes : es'.Sublist es) (hjoined : joined' ⊆ joined) :
    (repeatedAfter joined' es').Sublist (repeatedAfter joined es) := by
  induction hes generalizing joined joined' with
  | slnil => exact .slnil
  | cons e _ ih =>
    exact (ih (List.subset_cons_of_subset _ hjoined)).trans (List.sublist_append_right _ _)
  | cons_cons e _ ih =>
    refine List.Sublist.append ?_ (ih (List.cons_subset_cons _ hjoined))
    split
    · next hmem => rw [if_pos (hjoined hmem)]
    · exact List.nil_sublist _

lemma repeatedAfter_concat {joined : List Connection} {es : List Edge} {e : Edge}
    (hjoined : e.toConnection ∉ joined) (hes : ∀ f ∈ es, f.toConnection ≠ e.toConnection) :
    repeatedAfter joined (es ++ [e]) = repeatedAfter joined es := by
  induction es generalizing joined with
  | nil => simp [repeatedAfter, hjoined]
  | cons d es ih =>
    have hd : e.toConnection ∉ d.toConnection :: joined := by
      rw [List.mem_cons, not_or]
      exact ⟨(hes d List.mem_cons_self).symm, hjoined⟩
    rw [List.cons_append, repeatedAfter, repeatedAfter,
      ih hd fun f hf => hes f (List.mem_cons_of_mem _ hf)]

lemma repeatedAfter_eq_nil_iff {joined : List Connection} {es : List Edge} :
    repeatedAfter joined es = [] ↔
      (es.map Edge.toConnection).Nodup ∧ ∀ e ∈ es, e.toConnection ∉ joined := by
  induction es generalizing joined with
  | nil => simp [repeatedAfter]
  | cons e es ih =>
    have hhead : (if e.toConnection ∈ joined then [e] else []) = [] ↔ e.toConnection ∉ joined := by
      simp
    rw [repeatedAfter, List.append_eq_nil_iff, hhead, ih, List.map_cons, List.nodup_cons]
    constructor
    · rintro ⟨hfirst, hnd, hrest⟩
      refine ⟨⟨fun hmem => ?_, hnd⟩, fun d hd => ?_⟩
      · obtain ⟨d, hd, heq⟩ := List.mem_map.1 hmem
        exact hrest d hd (heq ▸ List.mem_cons_self)
      · rcases List.mem_cons.1 hd with rfl | hd
        · exact hfirst
        · exact fun hmem => hrest d hd (List.mem_cons_of_mem _ hmem)
    · rintro ⟨⟨hnew, hnd⟩, hall⟩
      refine ⟨hall e List.mem_cons_self, hnd, fun d hd hmem => ?_⟩
      rcases List.mem_cons.1 hmem with heq | hmem
      · exact hnew (heq ▸ List.mem_map_of_mem hd)
      · exact hall d (List.mem_cons_of_mem _ hd) hmem

namespace Graph

def danglingEdges (g : Graph) : List Edge := g.edges.filter (·.Dangles g)

/-- The edges that join what an earlier edge joins. -/
def repeatedEdges (g : Graph) : List Edge := repeatedAfter [] g.edges

/-- The edges join nodes of the graph, each connection once. -/
structure Wired (g : Graph) : Prop where
  endpoints : ∀ e ∈ g.edges, (∃ n ∈ g.nodes, n.id = e.source) ∧ ∃ n ∈ g.nodes, n.id = e.target
  distinct : (g.edges.map Edge.toConnection).Nodup

lemma wired_iff {g : Graph} : g.Wired ↔ g.danglingEdges = [] ∧ g.repeatedEdges = [] := by
  have hdangling : g.danglingEdges = [] ↔ ∀ e ∈ g.edges, ¬e.Dangles g := by
    simp [danglingEdges, List.filter_eq_nil_iff]
  have hrepeated : g.repeatedEdges = [] ↔ (g.edges.map Edge.toConnection).Nodup := by
    simp [repeatedEdges, repeatedAfter_eq_nil_iff]
  simp only [hdangling, hrepeated, Edge.not_dangles_iff]
  exact ⟨fun h => ⟨h.endpoints, h.distinct⟩, fun h => ⟨h.1, h.2⟩⟩

/-! ### What an operation does to the edges -/

/-- What an operation makes of the edges of `g`, in the graph `h` that it leaves. -/
inductive Rewires (g h : Graph) : Prop where
  | thinned (edges : h.edges.Sublist g.edges)
      (endpoints : ∀ e ∈ h.edges, e.Dangles h → e.Dangles g)
  | joined (e : Edge) (endpoints : ¬e.Dangles g)
      (new : ∀ f ∈ g.edges, f.toConnection ≠ e.toConnection)
      (nodes : h.nodes = g.nodes) (edges : h.edges = g.edges ++ [e])

/-- The edges that dangle or repeat in `h` are some of those that do in `g`, in the same order. -/
structure NoWorseThan (h g : Graph) : Prop where
  dangling : h.danglingEdges.Sublist g.danglingEdges
  repeated : h.repeatedEdges.Sublist g.repeatedEdges

lemma NoWorseThan.refl (g : Graph) : g.NoWorseThan g := ⟨.refl _, .refl _⟩

lemma NoWorseThan.trans {g h k : Graph} (hk : k.NoWorseThan h) (hh : h.NoWorseThan g) :
    k.NoWorseThan g :=
  ⟨hk.dangling.trans hh.dangling, hk.repeated.trans hh.repeated⟩

lemma NoWorseThan.wired {g h : Graph} (hh : h.NoWorseThan g) (hg : g.Wired) : h.Wired := by
  obtain ⟨hdangling, hrepeated⟩ := wired_iff.1 hg
  refine wired_iff.2 ⟨?_, ?_⟩
  · exact List.sublist_nil.1 (hdangling ▸ hh.dangling)
  · exact List.sublist_nil.1 (hrepeated ▸ hh.repeated)

namespace Rewires

variable {g h : Graph}

lemma dangles_of_ids {e : Edge} (hsource : (∃ n ∈ g.nodes, n.id = e.source) →
    ∃ n ∈ h.nodes, n.id = e.source) (htarget : (∃ n ∈ g.nodes, n.id = e.target) →
    ∃ n ∈ h.nodes, n.id = e.target) (hdangles : e.Dangles h) : e.Dangles g := by
  by_contra hjoins
  obtain ⟨hs, ht⟩ := Edge.not_dangles_iff.1 hjoins
  exact Edge.not_dangles_iff.2 ⟨hsource hs, htarget ht⟩ hdangles

lemma of_ids (hids : ∀ id, (∃ n ∈ g.nodes, n.id = id) → ∃ n ∈ h.nodes, n.id = id)
    (edges : h.edges.Sublist g.edges) : g.Rewires h :=
  .thinned edges fun _ _ => dangles_of_ids (hids _) (hids _)

/-- A node that is taken out takes the edges at it along. -/
lemma of_removed {id : String} (nodes : h.nodes = g.nodes.filter (·.id ≠ id))
    (edges : h.edges = g.edges.filter fun e => e.source ≠ id ∧ e.target ≠ id) : g.Rewires h := by
  have hids : ∀ other ≠ id, (∃ n ∈ g.nodes, n.id = other) → ∃ n ∈ h.nodes, n.id = other := by
    rintro other hne ⟨n, hn, rfl⟩
    exact ⟨n, by rw [nodes, List.mem_filter]; exact ⟨hn, decide_eq_true hne⟩, rfl⟩
  refine .thinned (edges ▸ List.filter_sublist) fun e he => ?_
  rw [edges, List.mem_filter, decide_eq_true_eq] at he
  exact dangles_of_ids (hids _ he.2.1) (hids _ he.2.2)

lemma noWorse (hstep : g.Rewires h) : h.NoWorseThan g := by
  cases hstep with
  | thinned edges endpoints =>
    refine ⟨?_, repeatedAfter_sublist edges (List.Subset.refl _)⟩
    have hsub : (h.edges.filter (·.Dangles h)).Sublist (h.edges.filter (·.Dangles g)) := by
      have hboth : h.edges.filter (·.Dangles h) =
          (h.edges.filter (·.Dangles g)).filter (·.Dangles h) := by
        rw [List.filter_filter]
        refine List.filter_congr fun e he => ?_
        rw [Bool.eq_iff_iff, Bool.and_eq_true, decide_eq_true_eq, decide_eq_true_eq]
        exact ⟨fun hd => ⟨hd, endpoints e he hd⟩, And.left⟩
      rw [hboth]
      exact List.filter_sublist
    exact hsub.trans (edges.filter _)
  | joined e endpoints new nodes edges =>
    have hsame : ∀ f : Edge, f.Dangles h ↔ f.Dangles g := by simp [Edge.Dangles, nodes]
    refine ⟨?_, ?_⟩
    · rw [danglingEdges, edges, List.filter_append]
      simp [hsame, endpoints, danglingEdges]
    · rw [repeatedEdges, edges, repeatedAfter_concat List.not_mem_nil new]
      exact .refl _

end Rewires

lemma rewires_after (g : Graph) (e : Edit) : g.Rewires (e.after g) := by
  have hsame : g.Rewires g := .of_ids (fun _ => id) (.refl _)
  cases e with
  | insert n =>
    simp only [Edit.after, Edit.perform?, Editable.insert?]
    cases hins : g.insert? n with
    | error e => exact hsame
    | ok h =>
      obtain ⟨hnodes, hedges⟩ := nodes_of_insert? hins
      refine .of_ids (fun id hid => ?_) (hedges ▸ .refl _)
      obtain ⟨m, hm, rfl⟩ := hid
      exact ⟨m, hnodes ▸ List.mem_append_left _ hm, rfl⟩
  | remove id =>
    simp only [Edit.after, Edit.perform?, Editable.remove?]
    cases hrem : g.remove? id with
    | error e => exact hsame
    | ok r =>
      obtain ⟨-, -, hnodes, hedges⟩ := parts_of_remove? hrem
      exact .of_removed hnodes hedges
  | modify id f =>
    simp only [Edit.after, Edit.perform?, Editable.modify?]
    cases hmod : g.modify? id f with
    | error e => exact hsame
    | ok h =>
      obtain ⟨hnodes, hedges⟩ := parts_of_modify? hmod
      refine .of_ids (fun other hother => ?_) (hedges ▸ .refl _)
      obtain ⟨m, hm, rfl⟩ := hother
      refine ⟨_, hnodes ▸ List.mem_map_of_mem hm, ?_⟩
      split <;> rfl
  | connect e =>
    simp only [Edit.after, Edit.perform?, Editable.connect?]
    cases hcon : g.connect? e with
    | error e => exact hsame
    | ok r =>
      obtain ⟨hsource, htarget, ⟨_, -, -, hr⟩ | ⟨hnew, -, hnodes, hedges⟩⟩ := parts_of_connect? hcon
      · exact hr ▸ hsame
      · exact .joined e (Edge.not_dangles_iff.2 ⟨hsource, htarget⟩) hnew hnodes hedges
  | removeEdge id =>
    simp only [Edit.after, Edit.perform?, Editable.removeEdge?]
    cases hrem : g.removeEdge? id with
    | error e => exact hsame
    | ok r =>
      obtain ⟨-, hnodes, hedges⟩ := parts_of_removeEdge? hrem
      exact .of_ids (fun _ hid => hnodes ▸ hid) (hedges ▸ List.eraseP_sublist)
  | freshId => exact .of_ids (fun _ => id) (.refl _)

lemma noWorse_run (g : Graph) (es : List Edit) : (Edit.run g es).NoWorseThan g := by
  induction es generalizing g with
  | nil => exact .refl g
  | cons e es ih => exact (ih (e.after g)).trans (g.rewires_after e).noWorse

/-! ### Joining -/

/-- How a graph joins two of its nodes: it adds the edge at the end, or finds the first edge that
joins them that way already. -/
structure Joins (g : Graph) : Prop where
  new : ∀ e : Edge, ¬e.Dangles g → (∀ f ∈ g.edges, f.toConnection ≠ e.toConnection) →
    g.connect? e = .ok (e.id, { g with edges := g.edges ++ [e] })
  existing : ∀ (e : Edge) (before after : List Edge) (f : Edge), ¬e.Dangles g →
    g.edges = before ++ f :: after → f.toConnection = e.toConnection →
    (∀ d ∈ before, d.toConnection ≠ e.toConnection) → g.connect? e = .ok (f.id, g)

lemma joins (g : Graph) : g.Joins := by
  have hends : ∀ e : Edge, ¬e.Dangles g →
      g.contains e.source = true ∧ g.contains e.target = true := by
    intro e he
    rw [contains_iff, contains_iff]
    exact Edge.not_dangles_iff.1 he
  constructor
  · intro e he hnew
    obtain ⟨hsource, htarget⟩ := hends e he
    have hnone : g.edges.find? (·.toConnection = e.toConnection) = none := by simpa using hnew
    simp [connect?, hsource, htarget, hnone]
  · intro e before after f he hedges hf hbefore
    obtain ⟨hsource, htarget⟩ := hends e he
    have hfirst : g.edges.find? (·.toConnection = e.toConnection) = some f := by
      have hskip : before.find? (·.toConnection = e.toConnection) = none := by simpa using hbefore
      rw [hedges, List.find?_append, hskip, Option.none_or,
        List.find?_cons_of_pos (by simpa using hf)]
    simp [connect?, hsource, htarget, hfirst]

/-- **Editing never makes the edges worse**: after any operations, failing ones included, the edges
that dangle or repeat are some of those that did before, and joining two nodes adds a connection
that is new or nothing at all. A graph that began empty, or as a new workflow, stays wired. -/
theorem edges_noWorse_run (g : Graph) (es : List Edit) :
    (Edit.run g es).NoWorseThan g ∧ (Edit.run g es).Joins ∧
      (Edit.run Graph.empty es).Wired ∧ (Edit.run Graph.starter es).Wired := by
  have hbare : ∀ h : Graph, h.edges = [] → (Edit.run h es).Wired := by
    intro h hedges
    refine (noWorse_run h es).wired ⟨?_, ?_⟩ <;> simp [hedges]
  exact ⟨noWorse_run g es, joins _, hbare _ rfl, hbare _ rfl⟩

end Graph

end AgentFlow
