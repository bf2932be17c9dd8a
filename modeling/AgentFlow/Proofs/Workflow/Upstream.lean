import Mathlib.Logic.Relation
import Mathlib.Data.List.Nodup
import Mathlib.Data.List.Perm.Subperm
import AgentFlow.Workflow.Ancestry

/-!
What the walk to the ancestors of a target finds.

A node is upstream of a target when a path of edges leads from it to the target; every id on the
path before the target has to be a node. The walk finds each upstream node once and nothing else.
-/

namespace AgentFlow.Graph

/-- An edge leads from the node `a` to `b`, which need not be a node. -/
def Feeds (g : Graph) (a b : String) : Prop :=
  (∃ n ∈ g.nodes, n.id = a) ∧ ∃ e ∈ g.edges, e.source = a ∧ e.target = b

/-- A path of one edge or more leads from `a` to `b`, over nodes alone. -/
def Upstream (g : Graph) : String → String → Prop := Relation.TransGen g.Feeds

variable {g : Graph}

lemma mem_sourcesOf {a b : String} :
    a ∈ g.sourcesOf b ↔ ∃ e ∈ g.edges, e.source = a ∧ e.target = b := by
  simp only [sourcesOf, List.mem_map, List.mem_filter, decide_eq_true_eq]
  constructor
  · rintro ⟨e, ⟨he, ht⟩, hs⟩
    exact ⟨e, he, hs, ht⟩
  · rintro ⟨e, he, hs, ht⟩
    exact ⟨e, ⟨he, ht⟩, hs⟩

lemma feeds_of_mem {n : Node} (hn : n ∈ g.nodes) {b : String} (h : n.id ∈ g.sourcesOf b) :
    g.Feeds n.id b :=
  ⟨⟨n, hn, rfl⟩, mem_sourcesOf.1 h⟩

/-! ### Meeting nodes -/

lemma perm_cons_eraseP {α : Type*} {p : α → Bool} {l : List α} {a : α} (h : l.find? p = some a) :
    l.Perm (a :: l.eraseP p) := by
  induction l with
  | nil => cases h
  | cons b l ih =>
    by_cases hb : p b
    · rw [List.find?_cons_of_pos hb] at h
      rw [List.eraseP_cons_of_pos hb, Option.some.inj h]
    · rw [List.find?_cons_of_neg hb] at h
      rw [List.eraseP_cons_of_neg hb]
      exact ((ih h).cons b).trans (.swap a b _)

lemma meet_perm (ids : List String) (unmet : List Node) :
    ((meet ids unmet).1 ++ (meet ids unmet).2).Perm unmet := by
  induction ids generalizing unmet with
  | nil => simp [meet]
  | cons id ids ih =>
    unfold meet
    split
    · exact ih unmet
    · next n hn => exact ((ih _).cons n).trans (perm_cons_eraseP hn).symm

lemma nodup_unmet {ids : List String} {unmet : List Node} (hnd : (unmet.map Node.id).Nodup) :
    ((meet ids unmet).2.map Node.id).Nodup := by
  have hparted := ((meet_perm ids unmet).map Node.id).nodup_iff.2 hnd
  rw [List.map_append] at hparted
  exact (List.nodup_append.1 hparted).2.1

lemma id_mem_of_met {ids : List String} {unmet : List Node} {n : Node}
    (h : n ∈ (meet ids unmet).1) : n.id ∈ ids := by
  induction ids generalizing unmet with
  | nil => simp [meet] at h
  | cons id ids ih =>
    unfold meet at h
    split at h
    · exact List.mem_cons_of_mem _ (ih h)
    · next m hm =>
      rcases List.mem_cons.1 h with rfl | h
      · have := List.find?_some hm
        simp only [decide_eq_true_eq] at this
        simp [this]
      · exact List.mem_cons_of_mem _ (ih h)

lemma id_notMem_of_unmet {ids : List String} {unmet : List Node}
    (hnd : (unmet.map Node.id).Nodup) {n : Node} (h : n ∈ (meet ids unmet).2) : n.id ∉ ids := by
  induction ids generalizing unmet with
  | nil => simp
  | cons id ids ih =>
    unfold meet at h
    split at h
    · next hnone =>
      have hn : n ∈ unmet := (meet_perm ids unmet).mem_iff.1 (List.mem_append_right _ h)
      have hne := List.find?_eq_none.1 hnone n hn
      simp only [decide_eq_true_eq] at hne
      simp only [List.mem_cons, not_or]
      exact ⟨hne, ih hnd h⟩
    · next m hm =>
      have hperm := perm_cons_eraseP hm
      have hnd' := (hperm.map Node.id).nodup_iff.1 hnd
      rw [List.map_cons, List.nodup_cons] at hnd'
      have hmid := List.find?_some hm
      simp only [decide_eq_true_eq] at hmid
      have hn : n ∈ unmet.eraseP (·.id = id) :=
        (meet_perm ids _).mem_iff.1 (List.mem_append_right _ h)
      simp only [List.mem_cons, not_or]
      refine ⟨?_, ih hnd'.2 h⟩
      intro hnid
      exact hnd'.1 (List.mem_map.2 ⟨n, hn, hnid.trans hmid.symm⟩)

/-! ### The walk -/

/-- The walk finds each node at most once, and only nodes that were unmet. -/
lemma walk_subperm (g : Graph) (frontier : List String) (unmet : List Node) :
    (g.walk frontier unmet).Subperm unmet := by
  induction frontier, unmet using walk.induct g with
  | case1 unmet => unfold walk; exact List.nil_subperm
  | case2 unmet id frontier found ih =>
    unfold walk
    exact ((List.subperm_append_left _).2 ih).trans (meet_perm (g.sourcesOf id) unmet).subperm

/-- From each node that the walk finds a path leads to the frontier. -/
lemma upstream_of_mem_walk {frontier : List String} {unmet : List Node}
    (hsub : ∀ n ∈ unmet, n ∈ g.nodes) {n : Node} (h : n ∈ g.walk frontier unmet) :
    ∃ id ∈ frontier, g.Upstream n.id id := by
  induction frontier, unmet using walk.induct g with
  | case1 unmet => unfold walk at h; cases h
  | case2 unmet id frontier found ih =>
    have hmet : ∀ m ∈ found.1, g.Upstream m.id id := by
      intro m hm
      have hmem := (meet_perm _ unmet).mem_iff.1 (List.mem_append_left _ hm)
      exact .single (feeds_of_mem (hsub m hmem) (id_mem_of_met hm))
    unfold walk at h
    rcases List.mem_append.1 h with h | h
    · exact ⟨id, List.mem_cons_self, hmet n h⟩
    · have hsub' : ∀ m ∈ found.2, m ∈ g.nodes := fun m hm =>
        hsub m ((meet_perm _ unmet).mem_iff.1 (List.mem_append_right _ hm))
      obtain ⟨via, hvia, hpath⟩ := ih hsub' h
      rcases List.mem_append.1 hvia with hvia | hvia
      · exact ⟨via, List.mem_cons_of_mem _ hvia, hpath⟩
      · obtain ⟨m, hm, rfl⟩ := List.mem_map.1 hvia
        exact ⟨id, List.mem_cons_self, hpath.trans (hmet m hm)⟩

/-- What the walk leaves unmet feeds neither the frontier nor a node that it finds. -/
lemma mem_walk_of_source {frontier : List String} {unmet : List Node}
    (hnd : (unmet.map Node.id).Nodup) {b : String}
    (hb : b ∈ frontier ∨ b ∈ (g.walk frontier unmet).map Node.id) {n : Node} (hn : n ∈ unmet)
    (hsource : n.id ∈ g.sourcesOf b) : n ∈ g.walk frontier unmet := by
  induction frontier, unmet using walk.induct g with
  | case1 unmet => unfold walk at hb; simp at hb
  | case2 unmet id frontier found ih =>
    unfold walk at hb ⊢
    have hperm := meet_perm (g.sourcesOf id) unmet
    rcases List.mem_append.1 (hperm.mem_iff.2 hn) with hmet | hleft
    · exact List.mem_append_left _ hmet
    · refine List.mem_append_right _ (ih (nodup_unmet hnd) ?_ hleft)
      rw [List.map_append, List.mem_append, List.mem_cons] at hb
      rcases hb with (rfl | hb) | hb | hb
      · exact absurd hsource (id_notMem_of_unmet hnd hleft)
      · exact .inl (List.mem_append_left _ hb)
      · exact .inl (List.mem_append_right _ hb)
      · exact .inr hb

/-! ### Ancestors -/

lemma nodup_others (g : Graph) (target : String) :
    ((g.nodes.filter (·.id ≠ target)).map Node.id).Nodup :=
  g.nodup_ids.sublist (List.filter_sublist.map Node.id)

lemma nodup_ancestors (g : Graph) (target : String) : (g.ancestors target).Nodup := by
  obtain ⟨l, hperm, hsub⟩ := walk_subperm g [target] (g.nodes.filter (·.id ≠ target))
  exact hperm.nodup_iff.1 (hsub.nodup (List.Nodup.of_map Node.id (nodup_others g target)))

/-- The path is followed from the target backwards: whatever feeds the target or an ancestor is an
ancestor. -/
lemma mem_ancestors_of_upstream {target a : String} (hpath : g.Upstream a target) :
    ∀ n ∈ g.nodes, n.id = a → n.id ≠ target → n ∈ g.ancestors target := by
  have hclosed : ∀ b, b = target ∨ b ∈ (g.ancestors target).map Node.id → ∀ n ∈ g.nodes,
      n.id ≠ target → n.id ∈ g.sourcesOf b → n ∈ g.ancestors target := by
    intro b hb n hn hne hsource
    exact mem_walk_of_source (nodup_others g target) (hb.imp_left (by simp [·])) (by simp [hn, hne])
      hsource
  induction hpath using Relation.TransGen.head_induction_on with
  | single hfeeds =>
    rintro n hn rfl hne
    exact hclosed target (.inl rfl) n hn hne (mem_sourcesOf.2 hfeeds.2)
  | @head a b hfeeds hpath ih =>
    rintro n hn rfl hne
    refine hclosed b ?_ n hn hne (mem_sourcesOf.2 hfeeds.2)
    by_cases hb : b = target
    · exact .inl hb
    · obtain ⟨m, hm, rfl⟩ : ∃ m ∈ g.nodes, m.id = b := by
        rcases Relation.TransGen.head'_iff.1 hpath with ⟨_, hstep, _⟩
        exact hstep.1
      exact .inr (List.mem_map_of_mem (ih m hm rfl hb))

/-- The ancestors of a target are the nodes upstream of it, but for the target itself. -/
lemma mem_ancestors_iff {target : String} {n : Node} :
    n ∈ g.ancestors target ↔ n ∈ g.nodes ∧ n.id ≠ target ∧ g.Upstream n.id target := by
  constructor
  · intro h
    have hother : ∀ m ∈ g.nodes.filter (·.id ≠ target), m ∈ g.nodes ∧ m.id ≠ target := by simp
    obtain ⟨hn, hid⟩ := hother n ((walk_subperm g _ _).subset h)
    obtain ⟨via, hvia, hpath⟩ := upstream_of_mem_walk (fun m hm => (hother m hm).1) h
    rw [List.mem_singleton] at hvia
    exact ⟨hn, hid, hvia ▸ hpath⟩
  · rintro ⟨hn, hid, hpath⟩
    exact mem_ancestors_of_upstream hpath n hn rfl hid

open Classical in
lemma ancestors_perm (g : Graph) (target : String) :
    (g.ancestors target).Perm (g.nodes.filter fun n => n.id ≠ target ∧ g.Upstream n.id target) := by
  refine (List.perm_ext_iff_of_nodup (nodup_ancestors g target) (g.nodup_nodes.filter _)).2 ?_
  intro n
  rw [mem_ancestors_iff, List.mem_filter, decide_eq_true_eq]

lemma mem_values_iff {target text : String} :
    text ∈ (g.variablesFor target).map Variable.value ↔
      ∃ a ∈ g.nodes, ∃ p ∈ a.outputs, a.id ≠ target ∧ g.Upstream a.id target ∧
        text = a.id ++ ".output." ++ p.name := by
  simp only [variablesFor, List.mem_map, List.mem_flatMap, mem_ancestors_iff]
  constructor
  · rintro ⟨v, ⟨a, ⟨ha, hid, hpath⟩, p, hp, rfl⟩, rfl⟩
    exact ⟨a, ha, p, hp, hid, hpath, rfl⟩
  · rintro ⟨a, ha, p, hp, hid, hpath, rfl⟩
    exact ⟨_, ⟨a, ⟨ha, hid, hpath⟩, p, hp, rfl⟩, rfl⟩

open Classical in
/-- **The walk is exact**: the ancestors of a target are the nodes upstream of it, each once and
without the target, and the variables offered to it are the outputs of these nodes. -/
theorem ancestors_exact (g : Graph) (target : String) :
    (g.ancestors target).Nodup ∧
    (∀ n, n ∈ g.ancestors target ↔ n ∈ g.nodes ∧ n.id ≠ target ∧ g.Upstream n.id target) ∧
    (g.variablesFor target).Perm
      ((g.nodes.filter fun n => n.id ≠ target ∧ g.Upstream n.id target).flatMap fun n =>
        n.outputs.map fun p =>
          ⟨n.displayLabel ++ "." ++ p.name, n.id ++ ".output." ++ p.name, p.type⟩) :=
  ⟨nodup_ancestors g target, fun _ => mem_ancestors_iff,
    (ancestors_perm g target).flatMap_right _⟩

end AgentFlow.Graph
