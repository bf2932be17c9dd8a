import AgentFlow.Proofs.Editor.Numbering
import AgentFlow.Proofs.Editor.Prevention
import AgentFlow.Proofs.Text.Splitting

/-!
What the id of an edge says.

The id of an edge runs the ids of its nodes and its handles together. It can be taken apart again
where each handle stands apart from the node in front of it and no hyphen of a handle passes for the
one between the ends; otherwise two edges may share an id, and the first of them answers to it.
-/

namespace AgentFlow

/-! ### Texts that are run together -/

/-- The id of a node of a workflow that was not loaded. -/
inductive Graph.IsOwnId : String → Prop where
  | start : IsOwnId startId
  | finish : IsOwnId finishId
  | numbered (k : ℕ) : IsOwnId (numberedId k)

/-- What follows the id of a node does not begin with a digit that could belong to the id. -/
def Graph.Follows (id : String) (rest : List Char) : Prop :=
  ∀ c ∈ rest.head?, c.isDigit = true → id = startId ∨ id = finishId

namespace Graph

lemma Follows.of_numberedId {k : ℕ} {r : List Char} (h : Follows (numberedId k) r) :
    ∀ c ∈ r.head?, c.isDigit = false := by
  intro c hc
  by_contra hdigit
  rcases h c hc (Bool.not_eq_false _ ▸ hdigit) with heq | heq <;>
  · have hhead := congrArg (List.head? ∘ String.toList) heq
    simp [toList_numberedId, startId, finishId] at hhead

lemma IsOwnId.append_inj {id id' : String} {r r' : List Char} (h : IsOwnId id) (h' : IsOwnId id')
    (hr : Follows id r) (hr' : Follows id' r') (heq : id.toList ++ r = id'.toList ++ r') :
    id = id' ∧ r = r' := by
  have hhead := congrArg List.head? heq
  cases h with
  | start =>
    cases h' with
    | start => exact ⟨rfl, List.append_cancel_left heq⟩
    | finish => simp [startId, finishId] at hhead
    | numbered j => simp [startId, toList_numberedId] at hhead
  | finish =>
    cases h' with
    | start => simp [startId, finishId] at hhead
    | finish => exact ⟨rfl, List.append_cancel_left heq⟩
    | numbered j => simp [finishId, toList_numberedId] at hhead
  | numbered k =>
    cases h' with
    | start => simp [startId, toList_numberedId] at hhead
    | finish => simp [finishId, toList_numberedId] at hhead
    | numbered j =>
      have hdigits : ∀ i, ∀ c ∈ Nat.toDigits 10 i, c.isDigit = true := fun i _ =>
        Nat.isDigit_of_mem_toDigits (by decide) (by decide)
      rw [toList_numberedId, toList_numberedId, List.append_assoc, List.append_assoc] at heq
      obtain ⟨hnum, hrest⟩ := append_inj_of_forall (hdigits k) (hdigits j) hr.of_numberedId
        hr'.of_numberedId (List.append_cancel_left heq)
      refine ⟨?_, hrest⟩
      rw [← String.toList_inj, toList_numberedId, toList_numberedId, hnum]

end Graph

/-! ### Handles that stand apart -/

namespace Connection

/-- The handle is told from the id of the node in front of it: it is absent, or it is not empty and
begins with no digit that could belong to the id. -/
def standsApart (node : String) : Option String → Bool
  | none => true
  | some handle =>
    match handle.toList with
    | [] => false
    | c :: _ => !c.isDigit || node = Graph.startId || node = Graph.finishId

/-- The parts of the id of an edge can be told apart. -/
def isSeparable (c : Connection) : Bool :=
  standsApart c.source c.sourceHandle && standsApart c.target c.targetHandle &&
    !(c.sourceHandle.getD "").toList.contains '-'

variable {node : String} {handle handle' : Option String}

lemma follows_of_standsApart (h : standsApart node handle = true) {r : List Char}
    (hr : ∀ c ∈ r.head?, c.isDigit = false) :
    Graph.Follows node ((handle.getD "").toList ++ r) := by
  cases handle with
  | none =>
    intro c hc hdigit
    cases (hr c hc).symm.trans hdigit
  | some text =>
    unfold standsApart at h
    dsimp only at h
    intro c hc hdigit
    rw [Option.getD_some] at hc
    split at h
    · cases h
    · next d _ htext =>
      rw [htext] at hc
      cases hc
      simpa [hdigit] using h

lemma eq_of_standsApart (h : standsApart node handle = true)
    (h' : standsApart node handle' = true)
    (heq : (handle.getD "").toList = (handle'.getD "").toList) : handle = handle' := by
  have hne : ∀ text, standsApart node (some text) = true → text.toList ≠ [] := by
    intro text htext hnil
    simp [standsApart, hnil] at htext
  cases handle with
  | none =>
    cases handle' with
    | none => rfl
    | some text' => exact absurd heq.symm (hne text' h')
  | some text =>
    cases handle' with
    | none => exact absurd heq (hne text h)
    | some text' => exact congrArg some (String.toList_inj.1 heq)

lemma toList_edgeId (c : Connection) : c.edgeId.toList = "reactflow__edge-".toList ++
    (c.source.toList ++ ((c.sourceHandle.getD "").toList ++
      '-' :: (c.target.toList ++ ((c.targetHandle.getD "").toList ++ [])))) := by
  have hhyphen : "-".toList = ['-'] := by simp
  unfold edgeId
  repeat rw [String.toList_append]
  rw [hhyphen, List.append_nil]
  repeat rw [List.append_assoc]
  rw [List.cons_append, List.nil_append]

/-- Where the parts can be told apart, the id says what the edge joins. -/
lemma eq_of_edgeId {c d : Connection} (hc : c.isSeparable = true) (hd : d.isSeparable = true)
    (hcs : Graph.IsOwnId c.source) (hct : Graph.IsOwnId c.target) (hds : Graph.IsOwnId d.source)
    (hdt : Graph.IsOwnId d.target) (heq : c.edgeId = d.edgeId) : c = d := by
  simp only [isSeparable, Bool.and_eq_true, Bool.not_eq_true', List.contains_eq_mem,
    decide_eq_false_iff_not] at hc hd
  obtain ⟨⟨hcsh, hcth⟩, hchyphen⟩ := hc
  obtain ⟨⟨hdsh, hdth⟩, hdhyphen⟩ := hd
  have htext := congrArg String.toList heq
  rw [toList_edgeId, toList_edgeId] at htext
  obtain ⟨hsource, hrest⟩ := hcs.append_inj hds
    (follows_of_standsApart hcsh (by simp)) (follows_of_standsApart hdsh (by simp))
    (List.append_cancel_left htext)
  -- the source handles have no hyphen, so that both end at the one between the ends
  obtain ⟨hsh, hrest⟩ := append_inj_of_forall (p := (· ≠ '-'))
    (fun a ha => decide_eq_true fun e => hchyphen (e ▸ ha))
    (fun a ha => decide_eq_true fun e => hdhyphen (e ▸ ha)) (by simp) (by simp) hrest
  obtain ⟨htarget, hth⟩ := hct.append_inj hdt (follows_of_standsApart hcth (by simp))
    (follows_of_standsApart hdth (by simp)) (List.cons.inj hrest).2
  rw [List.append_nil, List.append_nil] at hth
  have hsh' := eq_of_standsApart hcsh (hsource ▸ hdsh) hsh
  have hth' := eq_of_standsApart hcth (htarget ▸ hdth) hth
  cases c
  cases d
  simp_all

/-- Edges without handles can be told apart. -/
example (a b : String) : isSeparable ⟨a, b, none, none⟩ = true := rfl

end Connection

/-! ### Taking out the edge that was made last -/

namespace Graph

variable {g : Graph} {es : List Edge} {e : Edge}

lemma removeEdge?_concat_of_new (hedges : g.edges = es ++ [e]) (hnew : ∀ f ∈ es, f.id ≠ e.id) :
    g.removeEdge? e.id = .ok (e, { g with edges := es }) := by
  have hskip : es.find? (·.id = e.id) = none := by simpa using hnew
  have hfirst : g.edges.find? (·.id = e.id) = some e := by
    rw [hedges, List.find?_append, hskip, Option.none_or]
    simp
  have herase : g.edges.eraseP (·.id = e.id) = es := by
    rw [hedges, List.eraseP_append_right _ (by simpa using hnew)]
    simp
  rw [removeEdge?, hfirst, herase]

lemma removeEdge?_concat_of_taken {f : Edge} (hedges : g.edges = es ++ [e])
    (hf : es.find? (·.id = e.id) = some f) :
    g.removeEdge? e.id =
      .ok (f, { g with edges := es.eraseP (·.id = e.id) ++ [e] }) := by
  have hfirst : g.edges.find? (·.id = e.id) = some f := by
    rw [hedges, List.find?_append, hf, Option.some_or]
  have herase : g.edges.eraseP (·.id = e.id) = es.eraseP (·.id = e.id) ++ [e] := by
    rw [hedges, List.eraseP_append_left (List.find?_some hf) _ (List.mem_of_find?_eq_some hf)]
  rw [removeEdge?, hfirst, herase]

end Graph

/-! ### Runs over new workflows -/

namespace Session

lemma isOwnId_run_new (ops : List Operation) :
    ∀ n ∈ (new.run ops).graph.nodes, Graph.IsOwnId n.id := by
  intro n hn
  rcases new.id_source_run ops n hn with ⟨m, hm, hid⟩ | ⟨k, -, hid⟩
  · rw [← hid]
    simp only [new, ofGraph, Graph.starter, Graph.starterNodes, List.mem_cons, List.not_mem_nil,
      or_false] at hm
    obtain rfl | rfl := hm
    · exact .start
    · exact .finish
  · exact hid ▸ .numbered k

lemma eq_ofConnection_run_new (ops : List Operation) :
    ∀ e ∈ (new.run ops).graph.edges, e = .ofConnection e.toConnection :=
  edges_run (P := fun e => e = .ofConnection e.toConnection) (fun _ => rfl)
    (by simp [new, ofGraph, Graph.starter]) ops

/-- What a session says when it joins two nodes by a new edge. -/
lemma parts_of_connect {s t : Session} {c : Connection} {id : String}
    (h : s.connect c = .ok (id, t)) (hadded : t.graph.edges ≠ s.graph.edges) :
    id = c.edgeId ∧ t.graph.edges = s.graph.edges ++ [.ofConnection c] ∧
      (∃ n ∈ s.graph.nodes, n.id = c.source) ∧ (∃ n ∈ s.graph.nodes, n.id = c.target) ∧
      ∀ f ∈ s.graph.edges, f.toConnection ≠ c := by
  unfold connect at h
  cases hcon : s.graph.connect? (.ofConnection c) with
  | error e => rw [hcon] at h; cases h
  | ok r =>
    rw [hcon] at h
    cases h
    obtain ⟨hsource, htarget, ⟨_, -, -, hsame⟩ | ⟨hnew, hid, -, hedges⟩⟩ :=
      Graph.parts_of_connect? hcon
    · exact absurd (congrArg Graph.edges hsame) hadded
    · exact ⟨hid, hedges, hsource, htarget, hnew⟩

lemma eq_of_id_run_new (ops : List Operation) {e f : Edge} (he : e ∈ (new.run ops).graph.edges)
    (hf : f ∈ (new.run ops).graph.edges) (hesep : e.isSeparable = true)
    (hfsep : f.isSeparable = true) (heq : e.id = f.id) : e = f := by
  have hown : ∀ id, (∃ n ∈ (new.run ops).graph.nodes, n.id = id) → Graph.IsOwnId id := by
    rintro id ⟨n, hn, rfl⟩
    exact isOwnId_run_new ops n hn
  obtain ⟨hes, het⟩ := (wired_run_new ops).endpoints e he
  obtain ⟨hfs, hft⟩ := (wired_run_new ops).endpoints f hf
  have hemade := eq_ofConnection_run_new ops e he
  have hfmade := eq_ofConnection_run_new ops f hf
  rw [hemade, hfmade] at heq ⊢
  exact congrArg Edge.ofConnection (Connection.eq_of_edgeId hesep hfsep (hown _ hes) (hown _ het)
    (hown _ hfs) (hown _ hft) heq)

/-- An edge that is made where every part can be told apart has an id of its own. -/
lemma id_ne_of_isSeparable {ops : List Operation} {t : Session} {c : Connection} {id : String}
    (hcon : (new.run ops).connect c = .ok (id, t))
    (hadded : t.graph.edges ≠ (new.run ops).graph.edges) (hc : c.isSeparable = true)
    (hall : ∀ f ∈ (new.run ops).graph.edges, f.isSeparable = true) :
    ∀ f ∈ (new.run ops).graph.edges, f.id ≠ id := by
  obtain ⟨rfl, hedges, -, -, hnew⟩ := parts_of_connect hcon hadded
  -- the session with the new edge is one that a run leads to as well
  have hrun : (new.run (ops ++ [.connect c])) = t := by
    rw [run_append, run_cons, run_nil, after, perform?, hcon]
    rfl
  intro f hf hid
  have hsame := eq_of_id_run_new (ops ++ [.connect c]) (e := f) (f := .ofConnection c)
    (by rw [hrun, hedges]; exact List.mem_append_left _ hf) (by rw [hrun, hedges]; simp)
    (hall f hf) hc hid
  exact hnew f hf (congrArg Edge.toConnection hsame)

lemma removeEdge_of_graph {t : Session} {id : String} {e : Edge} {g : Graph}
    (h : t.graph.removeEdge? id = .ok (e, g)) :
    t.removeEdge id = .ok (e, { t with graph := g }) := by
  rw [removeEdge, h]
  rfl

/-- How far the ids of the edges say which edge is meant. -/
structure IdentifiesEdges (s : Session) : Prop where
  /-- Edges whose parts can be told apart have different ids. -/
  distinct : ((s.graph.edges.filter (·.isSeparable)).map Edge.id).Nodup
  /-- What takes out the id of an edge just made undoes the making, exactly when no earlier edge has
  the id. -/
  undone : ∀ (c : Connection) (id : String) (t : Session), s.connect c = .ok (id, t) →
    t.graph.edges ≠ s.graph.edges →
      ((∃ u, t.removeEdge id = .ok (.ofConnection c, u) ∧ u.graph.edges = s.graph.edges) ↔
        ∀ f ∈ s.graph.edges, f.id ≠ id)
  /-- If one has it, the first such edge is taken out instead. -/
  taken : ∀ (c : Connection) (id : String) (t : Session) (f : Edge), s.connect c = .ok (id, t) →
    t.graph.edges ≠ s.graph.edges → s.graph.edges.find? (·.id = id) = some f →
      ∃ u, t.removeEdge id = .ok (f, u) ∧
        u.graph.edges = s.graph.edges.eraseP (·.id = id) ++ [.ofConnection c]
  /-- No earlier edge has it where all parts can be told apart. -/
  separable : ∀ (c : Connection) (id : String) (t : Session), s.connect c = .ok (id, t) →
    t.graph.edges ≠ s.graph.edges → c.isSeparable = true →
      (∀ f ∈ s.graph.edges, f.isSeparable = true) → ∀ f ∈ s.graph.edges, f.id ≠ id

/-- **An id says which edge is meant, as far as its parts can be told apart**: after every run over a
new workflow, edges whose handles stand apart have different ids, and taking out the edge that was
made last undoes its making unless an earlier edge has the id. -/
theorem identifiesEdges_run (ops : List Operation) : (new.run ops).IdentifiesEdges where
  distinct := by
    have hnd : (new.run ops).graph.edges.Nodup := (wired_run_new ops).distinct.of_map _
    refine (hnd.filter _).map_on fun e he f hf heq => ?_
    obtain ⟨he, hesep⟩ := List.mem_filter.1 he
    obtain ⟨hf, hfsep⟩ := List.mem_filter.1 hf
    exact eq_of_id_run_new ops he hf hesep hfsep heq
  undone c id t hcon hadded := by
    obtain ⟨rfl, hedges, -, -, hnew⟩ := parts_of_connect hcon hadded
    constructor
    · rintro ⟨u, hremove, -⟩ f hf hid
      have hsome : ((new.run ops).graph.edges.find? (·.id = c.edgeId)).isSome = true :=
        List.find?_isSome.2 ⟨f, hf, decide_eq_true hid⟩
      obtain ⟨d, hd⟩ := Option.isSome_iff_exists.1 hsome
      have htaken := removeEdge_of_graph (Graph.removeEdge?_concat_of_taken hedges hd)
      obtain ⟨rfl, -⟩ := Prod.mk.inj (Except.ok.inj (htaken.symm.trans hremove))
      exact hnew _ (List.mem_of_find?_eq_some hd) rfl
    · intro hfree
      exact ⟨_, removeEdge_of_graph (Graph.removeEdge?_concat_of_new hedges hfree), rfl⟩
  taken c id t f hcon hadded hf := by
    obtain ⟨rfl, hedges, -, -, -⟩ := parts_of_connect hcon hadded
    exact ⟨_, removeEdge_of_graph (Graph.removeEdge?_concat_of_taken hedges hf), rfl⟩
  separable c id t hcon hadded hc hall := id_ne_of_isSeparable hcon hadded hc hall

/-- The two nodes of a new workflow, joined from a handle with an empty name. -/
def emptyHandle : Connection := ⟨Graph.startId, Graph.finishId, some "", none⟩

/-- An absent handle and an empty one are written alike: the ids of two edges agree, and what is to
take out the second takes out the first. -/
theorem not_identified_emptyHandle : ¬∀ ops : List Operation,
    ((new.run ops).graph.edges.map Edge.id).Nodup ∧
      ∀ (c : Connection) (id : String) (t : Session), (new.run ops).connect c = .ok (id, t) →
        t.graph.edges ≠ (new.run ops).graph.edges →
          ∃ u, t.removeEdge id = .ok (.ofConnection c, u) ∧
            u.graph.edges = (new.run ops).graph.edges := by
  intro h
  have hids := (h [.connect { emptyHandle with sourceHandle := none }, .connect emptyHandle]).1
  exact absurd hids (by decide +kernel)

end Session

end AgentFlow
