import Mathlib.Data.List.Nodup
import AgentFlow.Workflow.Graph

/-!
Graphs as plain lists.

No two nodes share an id, so the place that the index holds for an id is the place of the only node
of that id. Every operation on a graph is therefore the operation on two plain lists that its name
says, with the same answer and the same refusals, and so is every run of operations.
-/

namespace AgentFlow

/-! ### Lists in which no two elements share a key -/

section Keys

variable {α β : Type*} [DecidableEq β] {key : α → β} {l : List α} {a : α}

lemma find?_eq_some_iff_of_nodup (hnd : (l.map key).Nodup) {k : β} :
    l.find? (key · = k) = some a ↔ a ∈ l ∧ key a = k := by
  constructor
  · intro h
    exact ⟨List.mem_of_find?_eq_some h, by simpa using List.find?_some h⟩
  · rintro ⟨ha, rfl⟩
    have hsome : (l.find? (key · = key a)).isSome = true :=
      List.find?_isSome.2 ⟨a, ha, by simp⟩
    obtain ⟨b, hb⟩ := Option.isSome_iff_exists.1 hsome
    have hkey : key b = key a := by simpa using List.find?_some hb
    rw [hb, List.inj_on_of_nodup_map hnd (List.mem_of_find?_eq_some hb) ha hkey]

lemma eraseIdx_of_nodup (hnd : (l.map key).Nodup) {i : ℕ} (hi : l[i]? = some a) :
    l.eraseIdx i = l.filter (key · ≠ key a) := by
  induction l generalizing i with
  | nil => cases hi
  | cons b l ih =>
    rw [List.map_cons, List.nodup_cons] at hnd
    cases i with
    | zero =>
      cases hi
      have hkeep : ∀ c ∈ l, key c ≠ key a := fun c hc h => hnd.1 (h ▸ List.mem_map_of_mem hc)
      rw [List.eraseIdx_zero, List.tail_cons, List.filter_cons_of_neg (by simp)]
      exact (List.filter_eq_self.2 (by simpa using hkeep)).symm
    | succ i =>
      rw [List.getElem?_cons_succ] at hi
      have hne : key b ≠ key a := fun h => hnd.1 (h ▸ List.mem_map_of_mem (List.mem_of_getElem? hi))
      rw [List.eraseIdx_cons_succ, ih hnd.2 hi, List.filter_cons_of_pos (by simpa using hne)]

lemma modify_of_nodup (hnd : (l.map key).Nodup) {i : ℕ} (hi : l[i]? = some a) (f : α → α) :
    l.modify i f = l.map fun b => if key b = key a then f b else b := by
  induction l generalizing i with
  | nil => cases hi
  | cons b l ih =>
    rw [List.map_cons, List.nodup_cons] at hnd
    cases i with
    | zero =>
      cases hi
      have hkeep : ∀ c ∈ l, (if key c = key a then f c else c) = c := by
        intro c hc
        rw [if_neg]
        exact fun h => hnd.1 (h ▸ List.mem_map_of_mem hc)
      rw [List.modify_zero_cons, List.map_cons, if_pos rfl, List.map_congr_left hkeep, List.map_id']
    | succ i =>
      rw [List.getElem?_cons_succ] at hi
      have hne : key b ≠ key a := fun h => hnd.1 (h ▸ List.mem_map_of_mem (List.mem_of_getElem? hi))
      rw [List.modify_succ_cons, ih hnd.2 hi, List.map_cons, if_neg hne]

end Keys

/-- The first element of a list that the list has had before. -/
def FirstRepeat {α : Type*} (as : List α) (a : α) : Prop :=
  ∃ before after, as = before ++ a :: after ∧ before.Nodup ∧ a ∈ before

/-! ### Operations on plain lists -/

/-- A workflow as two plain lists, with the number from which the next free id is sought. -/
structure Listing where
  nodes : List Node
  edges : List Edge
  nextNumber : Nat

namespace Listing

def ids (l : Listing) : List String := l.nodes.map Node.id

def insert? (l : Listing) (n : Node) : Except EditError Listing :=
  if n.id ∈ l.ids then .error (.duplicateNode n.id) else .ok { l with nodes := l.nodes ++ [n] }

def remove? (l : Listing) (id : String) : Except EditError (Node × Listing) :=
  match l.nodes.find? (·.id = id) with
  | none => .error (.nodeNotFound id)
  | some n => .ok (n, { l with
      nodes := l.nodes.filter (·.id ≠ id)
      edges := l.edges.filter fun e => e.source ≠ id ∧ e.target ≠ id })

def modify? (l : Listing) (id : String) (f : Node → Node) : Except EditError Listing :=
  if id ∈ l.ids then
    .ok { l with nodes := l.nodes.map fun n => if n.id = id then { f n with id := n.id } else n }
  else .error (.nodeNotFound id)

def connect? (l : Listing) (e : Edge) : Except EditError (String × Listing) :=
  if e.source ∉ l.ids then .error (.nodeNotFound e.source)
  else if e.target ∉ l.ids then .error (.nodeNotFound e.target)
  else match l.edges.find? (·.toConnection = e.toConnection) with
    | some existing => .ok (existing.id, l)
    | none => .ok (e.id, { l with edges := l.edges ++ [e] })

def removeEdge? (l : Listing) (id : String) : Except EditError (Edge × Listing) :=
  match l.edges.find? (·.id = id) with
  | some e => .ok (e, { l with edges := l.edges.eraseP (·.id = id) })
  | none => .error (.edgeNotFound id)

/-- As many numbers as there are nodes are looked up; the one after them is free if none of them
is. -/
def freshId (l : Listing) : String × Listing :=
  let taken (n : Nat) : Bool := Graph.numberedId n ∈ l.ids
  let n := ((List.range' l.nextNumber l.nodes.length).find? (!taken ·)).getD
    (l.nextNumber + l.nodes.length)
  (Graph.numberedId n, { l with nextNumber := n + 1 })

end Listing

/-! ### Looking nodes up -/

namespace Graph

def listing (g : Graph) : Listing := ⟨g.nodes, g.edges, g.nextNumber⟩

/-- An answer, with the lists of the graph that it comes with. -/
def listed {α : Type} (r : α × Graph) : α × Listing := (r.1, r.2.listing)

lemma contains_iff_mem (g : Graph) {id : String} : g.contains id = true ↔ id ∈ g.listing.ids := by
  rw [contains_iff, Listing.ids, listing, List.mem_map]

lemma mem_ids_iff {g : Graph} {id : String} : id ∈ g.listing.ids ↔ ∃ n ∈ g.nodes, n.id = id :=
  List.mem_map

lemma notMem_ids_iff {g : Graph} {id : String} : id ∉ g.listing.ids ↔ ∀ n ∈ g.nodes, n.id ≠ id := by
  simp [mem_ids_iff]

/-- The index holds the place of a node, and of the node that it is asked for. -/
lemma exists_of_place (g : Graph) {id : String} {place : ℕ} (h : g.index[id]? = some place) :
    ∃ n, g.nodes[place]? = some n ∧ n.id = id :=
  Option.map_eq_some_iff.1 ((g.indexed id place).1 h)

lemma place_eq_none_iff (g : Graph) {id : String} :
    g.index[id]? = none ↔ id ∉ g.listing.ids := by
  rw [← contains_iff_mem, contains, Std.TreeMap.contains_eq_isSome_getElem?, Bool.not_eq_true,
    Option.isSome_eq_false_iff, Option.isNone_iff_eq_none]

lemma find?_eq_none_of_notMem {g : Graph} {id : String} (h : id ∉ g.listing.ids) :
    g.nodes.find? (·.id = id) = none := by
  rw [List.find?_eq_none]
  intro n hn hid
  exact h (List.mem_map.2 ⟨n, hn, by simpa using hid⟩)

lemma find?_of_place (g : Graph) {id : String} {place : ℕ} {n : Node}
    (h : g.index[id]? = some place) (hn : g.nodes[place]? = some n) :
    g.nodes.find? (·.id = id) = some n := by
  obtain ⟨m, hm, rfl⟩ := g.exists_of_place h
  cases hm.symm.trans hn
  exact (find?_eq_some_iff_of_nodup g.nodup_ids).2 ⟨List.mem_of_getElem? hn, rfl⟩

/-- Looking a node up through the index finds it as looking through the list does. -/
lemma node?_eq_find? (g : Graph) (id : String) : g.node? id = g.nodes.find? (·.id = id) := by
  unfold node?
  cases h : g.index[id]? with
  | none => rw [find?_eq_none_of_notMem (g.place_eq_none_iff.1 h)]; rfl
  | some place =>
    obtain ⟨n, hn, -⟩ := g.exists_of_place h
    rw [g.find?_of_place h hn, Option.bind_some, hn]

lemma node?_eq_some_iff (g : Graph) {id : String} {n : Node} :
    g.node? id = some n ↔ n ∈ g.nodes ∧ n.id = id := by
  rw [node?_eq_find?, find?_eq_some_iff_of_nodup g.nodup_ids]

/-! ### Each operation is one on plain lists -/

lemma listing_insert? (g : Graph) (n : Node) :
    (g.insert? n).map listing = g.listing.insert? n := by
  unfold insert? Listing.insert?
  by_cases h : g.contains n.id = true
  · rw [dif_pos h, if_pos (g.contains_iff_mem.1 h)]
    rfl
  · rw [dif_neg h, if_neg (mt g.contains_iff_mem.2 h)]
    rfl

lemma listing_remove? (g : Graph) (id : String) :
    (g.remove? id).map listed = g.listing.remove? id := by
  unfold remove? Listing.remove?
  split
  · next place n h hn =>
    rw [node?_eq_find?] at hn
    obtain ⟨m, hm, rfl⟩ := g.exists_of_place h
    simp only [listing, hn]
    simp [Except.map, listed, listing, eraseIdx_of_nodup g.nodup_ids hm, Edge.touches]
  · next hnot =>
    have hnone : g.nodes.find? (·.id = id) = none := by
      rw [← node?_eq_find?]
      cases hn : g.node? id with
      | none => rfl
      | some n =>
        obtain ⟨place, hplace, -⟩ := Option.bind_eq_some_iff.1 hn
        exact absurd hn (hnot place n hplace)
    simp only [listing, hnone]
    rfl

lemma listing_modify? (g : Graph) (id : String) (f : Node → Node) :
    (g.modify? id f).map listing = g.listing.modify? id f := by
  unfold modify? Listing.modify?
  split
  · next place h =>
    obtain ⟨n, hn, rfl⟩ := g.exists_of_place h
    have hmem : n.id ∈ g.listing.ids := List.mem_map_of_mem (List.mem_of_getElem? hn)
    rw [if_pos hmem]
    simp only [Except.map, listing, modify_of_nodup g.nodup_ids hn]
  · next h =>
    rw [if_neg (g.place_eq_none_iff.1 h)]
    rfl

lemma listing_connect? (g : Graph) (e : Edge) :
    (g.connect? e).map listed = g.listing.connect? e := by
  unfold connect? Listing.connect?
  simp only [Bool.not_eq_true', ← Bool.not_eq_true, contains_iff_mem]
  by_cases hs : e.source ∈ g.listing.ids
  · rw [if_neg (not_not_intro hs), if_neg (not_not_intro hs)]
    by_cases ht : e.target ∈ g.listing.ids
    · rw [if_neg (not_not_intro ht), if_neg (not_not_intro ht)]
      rw [show g.listing.edges = g.edges from rfl]
      cases g.edges.find? (·.toConnection = e.toConnection) <;> rfl
    · rw [if_pos ht, if_pos ht]
      rfl
  · rw [if_pos hs, if_pos hs]
    rfl

lemma listing_removeEdge? (g : Graph) (id : String) :
    (g.removeEdge? id).map listed = g.listing.removeEdge? id := by
  unfold removeEdge? Listing.removeEdge? listing
  cases g.edges.find? (·.id = id) <;> rfl

lemma freeNumber_eq_find? (g : Graph) (fuel n : ℕ) :
    g.freeNumber fuel n = ((List.range' n fuel).find? fun m =>
      !decide (numberedId m ∈ g.listing.ids)).getD (n + fuel) := by
  induction fuel generalizing n with
  | zero => rfl
  | succ fuel ih =>
    rw [freeNumber, List.range'_succ]
    by_cases h : g.contains (numberedId n) = true
    · rw [if_pos h, List.find?_cons_of_neg (by simpa using g.contains_iff_mem.1 h), ih,
        Nat.add_right_comm, Nat.add_assoc]
    · rw [if_neg h, List.find?_cons_of_pos (by simpa using mt g.contains_iff_mem.2 h)]
      rfl

lemma listing_freshId (g : Graph) : listed g.freshId = g.listing.freshId := by
  simp only [freshId, Listing.freshId, freeNumber_eq_find?]
  rfl

/-! ### When an operation fails, and what it leaves -/

lemma map_eq_error_iff {ε α β : Type} {f : α → β} {x : Except ε α} {e : ε} :
    x.map f = .error e ↔ x = .error e := by
  cases x <;> simp [Except.map]

lemma insert?_eq_error_iff {g : Graph} {n : Node} :
    (∃ e, g.insert? n = .error e) ↔ ∃ m ∈ g.nodes, m.id = n.id := by
  simp only [← map_eq_error_iff (f := listing), listing_insert?, Listing.insert?, ← mem_ids_iff]
  split <;> simp_all

lemma remove?_eq_error_iff {g : Graph} {id : String} :
    (∃ e, g.remove? id = .error e) ↔ ∀ n ∈ g.nodes, n.id ≠ id := by
  have hfind : (∀ n ∈ g.nodes, n.id ≠ id) ↔ g.nodes.find? (·.id = id) = none := by simp
  rw [hfind]
  simp only [← map_eq_error_iff (f := listed), listing_remove?, Listing.remove?, listing]
  split <;> simp_all

lemma modify?_eq_error_iff {g : Graph} {id : String} {f : Node → Node} :
    (∃ e, g.modify? id f = .error e) ↔ ∀ n ∈ g.nodes, n.id ≠ id := by
  simp only [← map_eq_error_iff (f := listing), listing_modify?, Listing.modify?, ← notMem_ids_iff]
  split <;> simp_all

lemma insert?_of_mem {g : Graph} {n : Node} (h : n.id ∈ g.nodes.map Node.id) :
    g.insert? n = .error (.duplicateNode n.id) := by
  rw [insert?, dif_pos (g.contains_iff_mem.2 h)]

lemma firstRepeat_of_foldlM_insert? {ns : List Node} {g : Graph} {e : EditError}
    (h : ns.foldlM insert? g = .error e) :
    ∃ id, FirstRepeat ((g.nodes ++ ns).map Node.id) id ∧ e = .duplicateNode id := by
  induction ns generalizing g with
  | nil => cases h
  | cons n ns ih =>
    by_cases hn : n.id ∈ g.nodes.map Node.id
    · rw [List.foldlM_cons, insert?_of_mem hn] at h
      cases h
      exact ⟨n.id, ⟨g.nodes.map Node.id, ns.map Node.id, by simp, g.nodup_ids, hn⟩, rfl⟩
    · obtain ⟨g', hins⟩ := exists_insert? g hn
      rw [List.foldlM_cons, hins] at h
      simpa only [(nodes_of_insert? hins).1, List.append_assoc, List.singleton_append] using ih h

lemma exists_ofParts?_iff {nodes : List Node} {edges : List Edge} :
    (∃ g, ofParts? nodes edges = .ok g) ↔ (nodes.map Node.id).Nodup := by
  constructor
  · rintro ⟨g, hg⟩
    rw [← (parts_of_ofParts? hg).1]
    exact g.nodup_ids
  · exact exists_ofParts? edges

lemma ofParts?_eq_error_iff {nodes : List Node} {edges : List Edge} {e : EditError} :
    ofParts? nodes edges = .error e ↔
      ∃ id, FirstRepeat (nodes.map Node.id) id ∧ e = .duplicateNode id := by
  constructor
  · intro h
    unfold ofParts? at h
    cases hfold : nodes.foldlM insert? empty with
    | ok g => rw [hfold] at h; cases h
    | error e' =>
      rw [hfold] at h
      cases h
      exact firstRepeat_of_foldlM_insert? hfold
  · rintro ⟨id, ⟨before, after, hids, hnd, hmem⟩, rfl⟩
    obtain ⟨ns, rest, rfl, rfl, hrest⟩ := List.map_eq_append_iff.1 hids
    obtain ⟨n, ns', rfl, rfl, -⟩ := List.map_eq_cons_iff.1 hrest
    obtain ⟨g, hfold⟩ := exists_foldlM_insert? (g := empty) hnd
    have hnodes : g.nodes = ns := (nodes_of_foldlM_insert? hfold).1
    have hrepeat : g.insert? n = .error (.duplicateNode n.id) := insert?_of_mem (hnodes ▸ hmem)
    rw [ofParts?, List.foldlM_append, hfold]
    change (n :: ns').foldlM insert? g >>= _ = _
    rw [List.foldlM_cons, hrepeat]
    rfl

/-- What is left when a node is taken out. -/
lemma parts_of_remove? {g h : Graph} {id : String} {n : Node} (hrem : g.remove? id = .ok (n, h)) :
    n ∈ g.nodes ∧ n.id = id ∧ h.nodes = g.nodes.filter (·.id ≠ id) ∧
      h.edges = g.edges.filter fun e => e.source ≠ id ∧ e.target ≠ id := by
  have hlist := g.listing_remove? id
  rw [hrem] at hlist
  change .ok (n, h.listing) = g.listing.remove? id at hlist
  unfold Listing.remove? at hlist
  split at hlist
  · cases hlist
  · next m hm =>
    obtain ⟨rfl, hparts⟩ := Prod.mk.inj (Except.ok.inj hlist)
    obtain ⟨hmem, hid⟩ := (find?_eq_some_iff_of_nodup g.nodup_ids).1 hm
    exact ⟨hmem, hid, congrArg Listing.nodes hparts, congrArg Listing.edges hparts⟩

/-- What is left when a node is changed. -/
lemma parts_of_modify? {g h : Graph} {id : String} {f : Node → Node}
    (hmod : g.modify? id f = .ok h) :
    h.nodes = (g.nodes.map fun n => if n.id = id then { f n with id := n.id } else n) ∧
      h.edges = g.edges := by
  have hlist := g.listing_modify? id f
  rw [hmod] at hlist
  change .ok h.listing = g.listing.modify? id f at hlist
  unfold Listing.modify? at hlist
  split at hlist
  · have hparts := Except.ok.inj hlist
    exact ⟨congrArg Listing.nodes hparts, congrArg Listing.edges hparts⟩
  · cases hlist

/-- What is left when two nodes are joined. -/
lemma parts_of_connect? {g h : Graph} {e : Edge} {id : String}
    (hcon : g.connect? e = .ok (id, h)) :
    (∃ n ∈ g.nodes, n.id = e.source) ∧ (∃ n ∈ g.nodes, n.id = e.target) ∧
      ((∃ f, g.edges.find? (·.toConnection = e.toConnection) = some f ∧ id = f.id ∧ h = g) ∨
        ((∀ f ∈ g.edges, f.toConnection ≠ e.toConnection) ∧ id = e.id ∧ h.nodes = g.nodes ∧
          h.edges = g.edges ++ [e])) := by
  unfold connect? at hcon
  split at hcon
  · cases hcon
  · next hsource =>
    split at hcon
    · cases hcon
    · next htarget =>
      rw [Bool.not_eq_true', Bool.not_eq_false] at hsource htarget
      refine ⟨g.contains_iff.1 hsource, g.contains_iff.1 htarget, ?_⟩
      split at hcon
      · next f hf =>
        cases hcon
        exact .inl ⟨f, hf, rfl, rfl⟩
      · next hnew =>
        cases hcon
        exact .inr ⟨by simpa using hnew, rfl, rfl, rfl⟩

/-- What is left when an edge is taken out. -/
lemma parts_of_removeEdge? {g h : Graph} {id : String} {e : Edge}
    (hrem : g.removeEdge? id = .ok (e, h)) :
    g.edges.find? (·.id = id) = some e ∧ h.nodes = g.nodes ∧
      h.edges = g.edges.eraseP (·.id = id) := by
  unfold removeEdge? at hrem
  split at hrem
  · next f hf =>
    cases hrem
    exact ⟨hf, rfl, rfl⟩
  · cases hrem

end Graph

end AgentFlow
