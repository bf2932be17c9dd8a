import AgentFlow.Proofs.Checking
import AgentFlow.Proofs.Editor.Runs
import AgentFlow.Proofs.Saved.Members

/-!
Updates that name several parts of a node.

Whether a part is accepted depends on nothing that another part writes, and no two parts are written
to the same place. So a combined update is accepted if its parts are, and does what they do in any
order; and since all parts are checked before any is written, a refused one does nothing.
-/

namespace AgentFlow

/-! ### Adding the same free-form data again -/

namespace Json

lemma insertMember_eq_self {key : String} {v : Json} {ms : List (String × Json)} (hs : Sorted ms)
    (h : ms.lookup key = some v) : insertMember key v ms = ms := by
  induction ms with
  | nil => cases h
  | cons m rest ih =>
    obtain ⟨k, w⟩ := m
    obtain ⟨hfirst, hrest⟩ := List.pairwise_cons.1 hs
    rw [List.lookup_cons] at h
    split at h
    · next hk =>
      obtain rfl : key = k := eq_of_beq hk
      cases h
      rw [insertMember, if_neg (String.lt_irrefl key), if_pos rfl]
    · next hk =>
      obtain ⟨before, after, hsplit, -⟩ := List.lookup_eq_some_iff.1 h
      have hlt : k < key := hfirst (key, v) (by simp [hsplit])
      rw [insertMember, if_neg (String.lt_asymm hlt), if_neg (ne_of_beq_false hk), ih hrest h]

namespace Object

lemma foldl_insert_eq_self {o : Object} {ms : List (String × Json)}
    (h : ∀ m ∈ ms, o.get? m.1 = some m.2) : ms.foldl (fun o (k, v) => o.insert k v) o = o := by
  induction ms with
  | nil => rfl
  | cons m ms ih =>
    obtain ⟨k, v⟩ := m
    have hinsert : o.insert k v = o :=
      ext_entries (insertMember_eq_self o.sorted (h (k, v) List.mem_cons_self))
    rw [List.foldl_cons]
    dsimp only
    rw [hinsert]
    exact ih fun m hm => h m (List.mem_cons_of_mem _ hm)

lemma nodup_keys (o : Object) : (o.entries.map Prod.fst).Nodup :=
  List.pairwise_map.2 (o.sorted.imp String.ne_of_lt)

lemma extend_extend (o p : Object) : (o.extend p).extend p = o.extend p := by
  refine foldl_insert_eq_self fun m hm => ?_
  obtain ⟨before, after, hsplit⟩ := List.append_of_mem hm
  have hnd := p.nodup_keys
  have hlookup : p.entries.lookup m.1 = some m.2 := by
    refine List.lookup_eq_some_iff.2 ⟨before, after, hsplit, fun q hq => ?_⟩
    rw [hsplit, List.map_append, List.nodup_append] at hnd
    rw [bne_iff_ne]
    exact (hnd.2.2 q.1 (List.mem_map_of_mem hq) m.1 (by simp)).symm
  rw [extend, get?_foldl_insert hnd, hlookup, Option.some_or]

end Object

end Json

/-! ### First results in a list -/

section FirstResult

variable {α β : Type} {f : α → Option β}

lemma findSome?_cons_eq_or (a : α) (as : List α) :
    (a :: as).findSome? f = (f a).or (as.findSome? f) := by
  rw [List.findSome?_cons]
  cases f a <;> rfl

lemma findSome?_filter_of {keep : α → Bool} (h : ∀ a, keep a = false → f a = none)
    (as : List α) : (as.filter keep).findSome? f = as.findSome? f := by
  induction as with
  | nil => rfl
  | cons a as ih =>
    cases hkeep : keep a with
    | true => rw [List.filter_cons_of_pos hkeep, List.findSome?_cons, List.findSome?_cons, ih]
    | false =>
      rw [List.filter_cons_of_neg (by simp [hkeep]), List.findSome?_cons, h a hkeep, ih]

end FirstResult

/-! ### The parts of an update -/

namespace Update

/-- The parts of a node that an update may name. -/
inductive Part where
  | label
  | description
  | config
  | inputs
  | extra
  | outputs
deriving DecidableEq

/-- All parts, in the order in which they are checked. -/
def Part.all : List Part := [.label, .description, .config, .inputs, .extra, .outputs]

variable (u : Update)

def names : Part → Bool
  | .label => u.label.isSome
  | .description => u.description.isSome
  | .config => u.config.isSome
  | .inputs => u.inputs.isSome
  | .extra => u.extra.isSome
  | .outputs => u.outputs.isSome

def only : Part → Update
  | .label => { empty with label := u.label }
  | .description => { empty with description := u.description }
  | .config => { empty with config := u.config }
  | .inputs => { empty with inputs := u.inputs }
  | .extra => { empty with extra := u.extra }
  | .outputs => { empty with outputs := u.outputs }

/-- The updates of single parts that make up an update. -/
def parts : List Update := (Part.all.filter u.names).map u.only

variable {u} {p q : Update} {n : Node} {part : Part}

lemma only_eq_empty (h : u.names part = false) : u.only part = empty := by
  cases part <;> rw [names, Option.isSome_eq_false_iff, Option.isNone_iff_eq_none] at h <;>
    rw [only, h] <;> rfl

lemma apply_empty (n : Node) : empty.apply n = n := rfl

lemma error?_empty (n : Node) : empty.error? n = none := rfl

/-! ### Writing parts -/

lemma apply_only_comm (a b : Part) (n : Node) :
    (u.only a).apply ((u.only b).apply n) = (u.only b).apply ((u.only a).apply n) := by
  cases a <;> cases b <;> rfl

lemma foldl_apply_parts (n : Node) : u.parts.foldl (fun n p => p.apply n) n = u.apply n := by
  rw [parts, List.foldl_map, List.foldl_filter]
  have hall : (fun n part => if u.names part = true then (u.only part).apply n else n) =
      fun n part => (u.only part).apply n := by
    funext n part
    split
    · rfl
    · next h => rw [only_eq_empty (Bool.not_eq_true _ ▸ h), apply_empty]
  rw [hall]
  rfl

lemma foldl_apply_of_perm {ps : List Update} (hps : ps.Perm u.parts) (n : Node) :
    ps.foldl (fun n p => p.apply n) n = u.apply n := by
  rw [← foldl_apply_parts]
  refine hps.foldl_eq' (fun p hp q hq n => ?_) n
  obtain ⟨a, -, rfl⟩ := List.mem_map.1 (hps.subset hp)
  obtain ⟨b, -, rfl⟩ := List.mem_map.1 (hps.subset hq)
  exact apply_only_comm b a n

lemma apply_apply (u : Update) (n : Node) : u.apply (u.apply n) = u.apply n := by
  obtain ⟨label, description, config, inputs, outputs, extra⟩ := u
  have hlabel : label.getD (label.getD n.label) = label.getD n.label := by cases label <;> rfl
  have hconfig : config.getD (config.getD n.config) = config.getD n.config := by
    cases config <;> rfl
  have hinputs : inputs.getD (inputs.getD n.inputs) = inputs.getD n.inputs := by
    cases inputs <;> rfl
  have houtputs : outputs.getD (outputs.getD n.outputs) = outputs.getD n.outputs := by
    cases outputs <;> rfl
  simp only [apply, hlabel, hconfig, hinputs, houtputs, Node.mk.injEq, true_and]
  refine ⟨by cases description <;> rfl, ?_⟩
  cases extra with
  | none => rfl
  | some o => exact n.extra.extend_extend o

/-! ### Checking parts -/

lemma outputs_apply_of_fixed (hp : p.Accepted n) (hfixed : n.kind.outputPolicy = .fixed) :
    (p.apply n).outputs = n.outputs := by
  cases hps : p.outputs with
  | none => simp only [apply, hps, Option.getD_none]
  | some ps =>
    simp only [apply, hps, Option.getD_some]
    rcases hp.outputs ps hps with ⟨heditable, -⟩ | ⟨-, heq⟩
    · rw [hfixed] at heditable
      cases heditable
    · exact heq

/-- What an accepted update writes does not matter to the check of another. -/
lemma error?_apply (hp : p.Accepted n) (q : Update) : q.error? (p.apply n) = q.error? n := by
  have hid : (p.apply n).id = n.id := rfl
  have houtputs : outputsError? (p.apply n) = outputsError? n := by
    funext ps
    unfold outputsError?
    rw [hp.kind_apply, hid]
    cases hpolicy : n.kind.outputPolicy with
    | fixed => rw [outputs_apply_of_fixed hp hpolicy]
    | _ => rfl
  simp only [error?, hid, houtputs, hp.kind_apply]

/-- A combined update is refused for the first part that is refused on its own. -/
lemma error?_eq_findSome? (u : Update) (n : Node) :
    u.error? n = u.parts.findSome? fun p => p.error? n := by
  have hnone : ∀ part, u.names part = false → (u.only part).error? n = none := by
    intro part h
    rw [only_eq_empty h, error?_empty]
  -- the label and the description are checked together
  have hheader : ((u.only .label).error? n).or ((u.only .description).error? n) =
      if (u.label.isSome || u.description.isSome) && !n.kind.headerEditable then
        some (.notEditable n.id n.kind .header) else none := by
    simp only [only, error?, empty, Option.isSome_none, Bool.or_false, Bool.false_or,
      Option.bind_none, Option.orElse_eq_orElse, Option.orElse_eq_or, Option.or_none]
    cases u.label.isSome <;> cases u.description.isSome <;> cases n.kind.headerEditable <;> rfl
  have hall : u.error? n = Part.all.findSome? fun part => (u.only part).error? n := by
    simp only [Part.all, findSome?_cons_eq_or, List.findSome?_nil, Option.or_none]
    rw [← Option.or_assoc, hheader]
    simp [error?, only, empty]
  rw [hall, parts, List.findSome?_map, ← findSome?_filter_of hnone]
  rfl

end Update

/-! ### Writing to a graph -/

namespace Graph

variable {g h : Graph} {id : String} {n : Node} {f k : Node → Node}

lemma eq_of_parts (nodes : g.nodes = h.nodes) (index : g.index = h.index)
    (edges : g.edges = h.edges) (nextNumber : g.nextNumber = h.nextNumber) : g = h := by
  cases g
  cases h
  simp only at nodes index edges nextNumber
  subst nodes index edges nextNumber
  rfl

/-- The graph with the node of an id changed, if there is one. -/
def modified (g : Graph) (id : String) (f : Node → Node) : Graph := (g.modify? id f).toOption.getD g

@[simp] lemma index_modified : (g.modified id f).index = g.index := by
  unfold modified modify?
  cases g.index[id]? <;> rfl

@[simp] lemma edges_modified : (g.modified id f).edges = g.edges := by
  unfold modified modify?
  cases g.index[id]? <;> rfl

@[simp] lemma nextNumber_modified : (g.modified id f).nextNumber = g.nextNumber := by
  unfold modified modify?
  cases g.index[id]? <;> rfl

lemma nodes_modified {place : ℕ} (hplace : g.index[id]? = some place)
    (hf : ∀ n, (f n).id = n.id) : (g.modified id f).nodes = g.nodes.modify place f := by
  have hkeep : (fun n => { f n with id := n.id }) = f := by
    funext n
    rw [← hf n]
  unfold modified modify?
  rw [hplace]
  exact congrArg (g.nodes.modify place) hkeep

lemma node?_eq_none_iff : g.node? id = none ↔ ∀ n ∈ g.nodes, n.id ≠ id := by
  rw [node?_eq_find?, List.find?_eq_none]
  simp

lemma exists_place {n : Node} (hn : g.node? id = some n) :
    ∃ place, g.index[id]? = some place ∧ g.nodes[place]? = some n :=
  Option.bind_eq_some_iff.1 hn

lemma modify?_eq_ok_modified (hn : g.node? id = some n) :
    g.modify? id f = .ok (g.modified id f) := by
  obtain ⟨place, hplace, -⟩ := exists_place hn
  unfold modified modify?
  rw [hplace]
  rfl

lemma node?_modified (hf : ∀ n, (f n).id = n.id) (hn : g.node? id = some n) :
    (g.modified id f).node? id = some (f n) := by
  obtain ⟨place, hplace, hnode⟩ := exists_place hn
  rw [node?, index_modified, hplace, Option.bind_some, nodes_modified hplace hf,
    List.getElem?_modify_eq, hnode]
  rfl

lemma modified_modified (hf : ∀ n, (f n).id = n.id) (hk : ∀ n, (k n).id = n.id)
    (hn : g.node? id = some n) :
    (g.modified id f).modified id k = g.modified id fun n => k (f n) := by
  obtain ⟨place, hplace, -⟩ := exists_place hn
  have hplace' : (g.modified id f).index[id]? = some place := by rwa [index_modified]
  refine eq_of_parts ?_ (by simp) (by simp) (by simp)
  rw [nodes_modified hplace' hk, nodes_modified hplace hf, List.modify_modify_eq,
    nodes_modified hplace fun n => (hk _).trans (hf n)]
  rfl

lemma modified_id (hn : g.node? id = some n) : g.modified id (fun n => n) = g := by
  obtain ⟨place, hplace, -⟩ := exists_place hn
  refine eq_of_parts ?_ (by simp) (by simp) (by simp)
  rw [nodes_modified hplace fun _ => rfl]
  exact List.modify_id ..

end Graph

namespace Session

variable {s s' : Session} {id : String} {u : Update} {n : Node}

/-- The session with the node of an id changed, if there is one. -/
def overwrite (s : Session) (id : String) (f : Node → Node) : Session :=
  { s with graph := s.graph.modified id f }

lemma updateNode_of_node (hn : s.graph.node? id = some n) (u : Update) :
    s.updateNode id u =
      match u.error? n with
      | none => .ok (s.overwrite id u.apply)
      | some e => .error e := by
  unfold updateNode Graph.update?
  rw [hn]
  dsimp only
  cases u.error? n with
  | none =>
    dsimp only
    rw [Graph.modify?_eq_ok_modified hn]
    rfl
  | some e => rfl

lemma updateNode_eq_error_iff (hn : s.graph.node? id = some n) {e : EditError} :
    s.updateNode id u = .error e ↔ u.error? n = some e := by
  rw [updateNode_of_node hn]
  cases u.error? n <;> simp

lemma exists_updateNode_iff (hn : s.graph.node? id = some n) :
    (∃ s', s.updateNode id u = .ok s') ↔ u.error? n = none := by
  rw [updateNode_of_node hn]
  cases u.error? n <;> simp

lemma updateNode_of_none (hn : s.graph.node? id = none) (u : Update) :
    s.updateNode id u = .error (.nodeNotFound id) := by
  unfold updateNode Graph.update?
  rw [hn]
  rfl

lemma updateNode_eq_ok_iff :
    s.updateNode id u = .ok s' ↔
      ∃ n, s.graph.node? id = some n ∧ u.error? n = none ∧ s' = s.overwrite id u.apply := by
  constructor
  · intro h
    cases hn : s.graph.node? id with
    | none => rw [updateNode_of_none hn] at h; cases h
    | some n =>
      have hnone := (exists_updateNode_iff hn).1 ⟨s', h⟩
      rw [updateNode_of_node hn, hnone] at h
      cases h
      exact ⟨n, rfl, hnone, rfl⟩
  · rintro ⟨n, hn, hnone, rfl⟩
    rw [updateNode_of_node hn, hnone]

@[simp] lemma graph_overwrite {f : Node → Node} :
    (s.overwrite id f).graph = s.graph.modified id f := rfl

lemma overwrite_overwrite {f k : Node → Node} (hf : ∀ n, (f n).id = n.id)
    (hk : ∀ n, (k n).id = n.id) (hn : s.graph.node? id = some n) :
    (s.overwrite id f).overwrite id k = s.overwrite id fun n => k (f n) :=
  congrArg (fun g => { s with graph := g }) (Graph.modified_modified hf hk hn)

lemma id_foldl_apply (ps : List Update) (n : Node) :
    (ps.foldl (fun n p => p.apply n) n).id = n.id := by
  induction ps generalizing n with
  | nil => rfl
  | cons p ps ih => exact ih (p.apply n)

lemma node?_overwrite (hn : s.graph.node? id = some n) (u : Update) :
    (s.overwrite id u.apply).graph.node? id = some (u.apply n) :=
  Graph.node?_modified (fun _ => rfl) hn

/-- Writing parts one after another is writing them at once. -/
lemma foldl_overwrite {ps : List Update} (hn : s.graph.node? id = some n) :
    ps.foldl (fun s p => s.overwrite id p.apply) s =
      s.overwrite id fun n => ps.foldl (fun n p => p.apply n) n := by
  induction ps generalizing s n with
  | nil =>
    simp only [List.foldl_nil, overwrite, Graph.modified_id hn]
  | cons p ps ih =>
    rw [List.foldl_cons, ih (node?_overwrite hn p),
      overwrite_overwrite (f := p.apply) (fun _ => rfl) (id_foldl_apply ps) hn]
    rfl

/-- In whatever order the parts of an update are written, they are all written in the end. -/
lemma foldl_overwrite_of_perm {ps : List Update} (hps : ps.Perm u.parts)
    (hn : s.graph.node? id = some n) :
    ps.foldl (fun s p => s.overwrite id p.apply) s = s.overwrite id u.apply := by
  rw [foldl_overwrite hn]
  exact congrArg (s.overwrite id) (funext fun n => Update.foldl_apply_of_perm hps n)

/-- Updates that the node accepts one by one are accepted one after another. -/
lemma foldlM_updateNode {ps : List Update} (hn : s.graph.node? id = some n)
    (hps : ∀ p ∈ ps, p.error? n = none) :
    ps.foldlM (fun s p => s.updateNode id p) s =
      .ok (ps.foldl (fun s p => s.overwrite id p.apply) s) := by
  induction ps generalizing s n with
  | nil => rfl
  | cons p ps ih =>
    obtain ⟨hp, hrest⟩ := List.forall_mem_cons.1 hps
    have haccepted := Update.error?_eq_none_iff.1 hp
    rw [List.foldlM_cons, updateNode_of_node hn, hp]
    exact ih (node?_overwrite hn p) fun q hq =>
      (Update.error?_apply haccepted q).trans (hrest q hq)

/-! ### Updates in place -/

/-- A computation on a session that may fail, and that leaves what it has done when it fails. -/
abbrev InPlace (α : Type) := ExceptT EditError (StateM Session) α

namespace InPlace

def check (n : Node) (p : Update) : InPlace Unit :=
  match p.error? n with
  | none => pure ()
  | some e => throw e

def write (id : String) (p : Update) : InPlace Unit :=
  modify fun s => s.overwrite id p.apply

/-- An update that checks all parts before it writes them one by one, in some order. -/
def update (id : String) (u : Update) (writes : List Update) : InPlace Unit := do
  match (← get).graph.node? id with
  | none => throw (.nodeNotFound id)
  | some n =>
    forM u.parts (check n)
    forM writes (write id)

lemma run_bind_of_ok {x y : InPlace Unit} {s s' : Session} (hx : x.run.run s = (.ok (), s')) :
    (do x; y : InPlace Unit).run.run s = y.run.run s' := by
  rw [ExceptT.run_bind, StateT.run_bind, hx]
  rfl

lemma run_bind_of_error {x y : InPlace Unit} {s s' : Session} {e : EditError}
    (hx : x.run.run s = (.error e, s')) : (do x; y : InPlace Unit).run.run s = (.error e, s') := by
  rw [ExceptT.run_bind, StateT.run_bind, hx]
  rfl

lemma run_forM_check (n : Node) (ps : List Update) (s : Session) :
    (forM ps (check n)).run.run s =
      (match ps.findSome? fun p => p.error? n with | none => .ok () | some e => .error e, s) := by
  induction ps with
  | nil => rfl
  | cons p ps ih =>
    rw [List.forM_cons, List.findSome?_cons, check]
    cases p.error? n with
    | none => exact ih
    | some e => rfl

lemma run_forM_write (id : String) (ps : List Update) (s : Session) :
    (forM ps (write id)).run.run s = (.ok (), ps.foldl (fun s p => s.overwrite id p.apply) s) := by
  induction ps generalizing s with
  | nil => rfl
  | cons p ps ih =>
    rw [List.forM_cons]
    exact ih (s.overwrite id p.apply)

/-- An update in place gives what the update gives, and the session as it was if it is refused. -/
lemma run_update {writes : List Update} (hwrites : writes.Perm u.parts) :
    (InPlace.update id u writes).run.run s =
      match s.updateNode id u with
      | .ok s' => (.ok (), s')
      | .error e => (.error e, s) := by
  -- reading the session leaves it alone
  have hget : (InPlace.update id u writes).run.run s =
      (match s.graph.node? id with
        | none => throw (.nodeNotFound id)
        | some n => do
          forM u.parts (check n)
          forM writes (write id) : InPlace Unit).run.run s := rfl
  rw [hget]
  cases hn : s.graph.node? id with
  | none =>
    rw [updateNode_of_none hn]
    rfl
  | some n =>
    have hchecked := run_forM_check n u.parts s
    rw [← Update.error?_eq_findSome?] at hchecked
    rw [updateNode_of_node hn]
    dsimp only
    cases herror : u.error? n with
    | none =>
      rw [herror] at hchecked
      rw [run_bind_of_ok hchecked, run_forM_write, foldl_overwrite_of_perm hwrites hn]
    | some e =>
      rw [herror] at hchecked
      rw [run_bind_of_error hchecked]

end InPlace

/-! ### Combined updates -/

lemma checks_updateNode (hn : s.graph.node? id = some n) (u : Update) :
    Checks (fun p => ∃ s', s.updateNode id p = .ok s') (fun p e => s.updateNode id p = .error e)
      u.parts (s.updateNode id u) := by
  simp only [exists_updateNode_iff hn, updateNode_eq_error_iff hn]
  refine .of_findSome? fun e => ?_
  rw [updateNode_eq_error_iff hn, Update.error?_eq_findSome?]

lemma exists_updateNode_iff_parts :
    (∃ s', s.updateNode id u = .ok s') ↔
      (∃ n ∈ s.graph.nodes, n.id = id) ∧ ∀ p ∈ u.parts, ∃ s', s.updateNode id p = .ok s' := by
  cases hn : s.graph.node? id with
  | none =>
    have hnone := Graph.node?_eq_none_iff.1 hn
    simp only [updateNode_of_none hn]
    refine iff_of_false (by simp) ?_
    rintro ⟨⟨n, hmem, hid⟩, -⟩
    exact hnone n hmem hid
  | some n =>
    have hexists : ∃ n ∈ s.graph.nodes, n.id = id := ⟨n, s.graph.node?_eq_some_iff.1 hn⟩
    exact (checks_updateNode hn u).ok_iff.trans (and_iff_right hexists).symm

lemma updateNode_eq_error_iff_parts {e : EditError} :
    s.updateNode id u = .error e ↔
      ((∀ n ∈ s.graph.nodes, n.id ≠ id) ∧ e = .nodeNotFound id) ∨
        (∃ n ∈ s.graph.nodes, n.id = id) ∧
          FirstBad (fun p => ∃ s', s.updateNode id p = .ok s')
            (fun p e => s.updateNode id p = .error e) u.parts e := by
  cases hn : s.graph.node? id with
  | none =>
    have hnone := Graph.node?_eq_none_iff.1 hn
    have hmissing : ¬∃ n ∈ s.graph.nodes, n.id = id := fun ⟨n, hmem, hid⟩ => hnone n hmem hid
    rw [updateNode_of_none hn, and_iff_right hnone, or_iff_left fun h => hmissing h.1,
      Except.error.injEq, eq_comm]
  | some n =>
    have hexists : ∃ n ∈ s.graph.nodes, n.id = id := ⟨n, s.graph.node?_eq_some_iff.1 hn⟩
    rw [(checks_updateNode hn u).error_iff e, and_iff_right hexists, or_iff_right]
    rintro ⟨hnone, -⟩
    obtain ⟨m, hm, hid⟩ := hexists
    exact hnone m hm hid

/-- The parts of an accepted update are accepted one after another, in any order. -/
lemma foldlM_updateNode_of_perm {ps : List Update} (h : s.updateNode id u = .ok s')
    (hps : ps.Perm u.parts) : ps.foldlM (fun s p => s.updateNode id p) s = .ok s' := by
  obtain ⟨n, hn, hnone, rfl⟩ := updateNode_eq_ok_iff.1 h
  rw [Update.error?_eq_findSome?, List.findSome?_eq_none_iff] at hnone
  rw [foldlM_updateNode hn fun p hp => hnone p (hps.subset hp), foldl_overwrite_of_perm hps hn]

/-- An accepted update is accepted again, and then changes nothing. -/
lemma updateNode_again (h : s.updateNode id u = .ok s') : s'.updateNode id u = .ok s' := by
  obtain ⟨n, hn, hnone, rfl⟩ := updateNode_eq_ok_iff.1 h
  have haccepted := Update.error?_eq_none_iff.1 hnone
  refine updateNode_eq_ok_iff.2 ⟨u.apply n, node?_overwrite hn u,
    (Update.error?_apply haccepted u).trans hnone, ?_⟩
  rw [overwrite_overwrite (f := u.apply) (k := u.apply) (fun _ => rfl) (fun _ => rfl) hn]
  exact congrArg (s.overwrite id) (funext fun n => (u.apply_apply n).symm)

/-- Two sessions that differ at most in the data of the node of an id. -/
structure SameBut (s : Session) (id : String) (s' : Session) : Prop where
  nodes : List.Forall₂ (fun n m => m.id = n.id ∧ m.kind = n.kind ∧ m.position = n.position ∧
    (n.id ≠ id → m = n)) s.graph.nodes s'.graph.nodes
  edges : s'.graph.edges = s.graph.edges
  nextNumber : s'.graph.nextNumber = s.graph.nextNumber
  agent : s'.agent = s.agent
  selected : s'.selected = s.selected
  epoch : s'.epoch = s.epoch

lemma sameBut_overwrite (hn : s.graph.node? id = some n) (hu : u.Accepted n) :
    s.SameBut id (s.overwrite id u.apply) where
  nodes := by
    rw [graph_overwrite, (Graph.parts_of_modify? (Graph.modify?_eq_ok_modified hn)).1,
      List.forall₂_map_right_iff, List.forall₂_same]
    intro m hm
    dsimp only
    split
    · next hid =>
      -- the node of the id is the one that was asked
      cases hn.symm.trans (s.graph.node?_eq_some_iff.2 ⟨hm, hid⟩)
      exact ⟨rfl, hu.kind_apply, rfl, fun hne => absurd hid hne⟩
    · exact ⟨rfl, rfl, rfl, fun _ => rfl⟩
  edges := Graph.edges_modified
  nextNumber := Graph.nextNumber_modified
  agent := rfl
  selected := rfl
  epoch := rfl

lemma sameBut_updateNode (h : s.updateNode id u = .ok s') : s.SameBut id s' := by
  obtain ⟨n, hn, hnone, rfl⟩ := updateNode_eq_ok_iff.1 h
  exact sameBut_overwrite hn (Update.error?_eq_none_iff.1 hnone)

/-- A combined update is the sum of its parts. -/
structure SumsUp (s : Session) (id : String) (u : Update) : Prop where
  accepted : (∃ s', s.updateNode id u = .ok s') ↔
    (∃ n ∈ s.graph.nodes, n.id = id) ∧ ∀ p ∈ u.parts, ∃ s', s.updateNode id p = .ok s'
  inAnyOrder : ∀ s', s.updateNode id u = .ok s' → ∀ ps : List Update, ps.Perm u.parts →
    ps.foldlM (fun s p => s.updateNode id p) s = .ok s'
  twice : ∀ s', s.updateNode id u = .ok s' → s'.updateNode id u = .ok s'
  others : ∀ s', s.updateNode id u = .ok s' → s.SameBut id s'
  /-- It is refused for the first part that is refused on its own. -/
  refused : ∀ e, s.updateNode id u = .error e ↔
    ((∀ n ∈ s.graph.nodes, n.id ≠ id) ∧ e = .nodeNotFound id) ∨
      (∃ n ∈ s.graph.nodes, n.id = id) ∧
        FirstBad (fun p => ∃ s', s.updateNode id p = .ok s')
          (fun p e => s.updateNode id p = .error e) u.parts e
  /-- Carried out in place, it leaves the session as it was if it is refused. -/
  inPlace : ∀ writes : List Update, writes.Perm u.parts →
    (InPlace.update id u writes).run.run s =
      match s.updateNode id u with
      | .ok s' => (.ok (), s')
      | .error e => (.error e, s)

/-- **A combined update is the sum of its parts**: it is accepted if its parts are, does what they
do in any order, does nothing more when repeated, and nothing at all when it is refused. -/
theorem sumsUp (s : Session) (id : String) (u : Update) : s.SumsUp id u where
  accepted := exists_updateNode_iff_parts
  inAnyOrder _ h _ hps := foldlM_updateNode_of_perm h hps
  twice _ h := updateNode_again h
  others _ h := sameBut_updateNode h
  refused _ := updateNode_eq_error_iff_parts
  inPlace _ := InPlace.run_update

end Session

end AgentFlow
