import Mathlib.Data.Prod.Lex
import Mathlib.Order.Lattice.Nat
import AgentFlow.Proofs.Workflow.Upstream

/-!
The order in which the walk lists the ancestors of a target.

Each ancestor is met where its first edge into what was met before is followed: the earlier that
place, and at one place the earlier the edge, the earlier the ancestor. No ancestor therefore stands
before one that is nearer to the target.
-/

namespace AgentFlow.Graph

/-! ### Where a node is met -/

/-- The target and its ancestors, in the order in which they are met. -/
def discovered (g : Graph) (target : String) : List String :=
  target :: (g.ancestors target).map Node.id

/-- The place in a list of ids of the first one that `a` has an edge into. -/
def stop (g : Graph) (ids : List String) (a : String) : ℕ :=
  ids.findIdx fun b => ∃ e ∈ g.edges, e.source = a ∧ e.target = b

/-- The place where `a` is met, with the place of the edge that leads there first. -/
def entry (g : Graph) (ids : List String) (a : String) : ℕ ×ₗ ℕ :=
  toLex (g.stop ids a, g.edges.findIdx fun e => e.source = a ∧ some e.target = ids[g.stop ids a]?)

variable {g : Graph}

lemma stop_eq_findIdx (ids : List String) (a : String) :
    g.stop ids a = ids.findIdx fun b => a ∈ g.sourcesOf b := by
  simp only [stop, mem_sourcesOf]

/-- Nothing before `b` is a stop for `a`, so that `b` is the first one. -/
lemma stop_append {before after : List String} {a b : String}
    (hbefore : ∀ c ∈ before, a ∉ g.sourcesOf c) (hb : a ∈ g.sourcesOf b) :
    g.stop (before ++ b :: after) a = before.length := by
  have hnone : before.findIdx (fun c => a ∈ g.sourcesOf c) = before.length :=
    List.findIdx_eq_length_of_false (by simpa using hbefore)
  rw [stop_eq_findIdx, List.findIdx_append, if_neg (by simp [hnone]), List.findIdx_cons]
  simp [hb]

lemma stop_le_of_getElem? {ids : List String} {a b : String} {i : ℕ} (hi : ids[i]? = some b)
    (hb : a ∈ g.sourcesOf b) : g.stop ids a ≤ i := by
  rw [stop_eq_findIdx]
  by_contra hlt
  obtain ⟨hlen, rfl⟩ := List.getElem?_eq_some_iff.1 hi
  simpa [hb] using List.not_of_lt_findIdx (Nat.not_le.1 hlt)

lemma mem_sourcesOf_of_stop {ids : List String} {a b : String}
    (h : ids[g.stop ids a]? = some b) : a ∈ g.sourcesOf b := by
  rw [stop_eq_findIdx] at h
  simpa using List.findIdx_of_getElem?_eq_some h

/-! ### The order of a single meeting -/

lemma findIdx_lt_of_idxOf_lt {α β : Type*} [DecidableEq β] {f : α → β} {q : α → Bool} {l : List α}
    {x y : β} (h : ((l.filter q).map f).idxOf x < ((l.filter q).map f).idxOf y) :
    l.findIdx (fun a => f a = x ∧ q a) < l.findIdx (fun a => f a = y ∧ q a) := by
  induction l with
  | nil => simp at h
  | cons a l ih =>
    rw [List.findIdx_cons, List.findIdx_cons]
    by_cases hq : q a = true
    · rw [List.filter_cons_of_pos hq, List.map_cons] at h
      have hy : f a ≠ y := by
        rintro rfl
        simp at h
      by_cases hx : f a = x
      · simp [hq, hx, hx ▸ hy]
      · rw [List.idxOf_cons_ne _ hx, List.idxOf_cons_ne _ hy] at h
        simpa [hq, hx, hy] using ih (Nat.lt_of_succ_lt_succ h)
    · rw [List.filter_cons_of_neg hq] at h
      simpa [hq] using ih h

/-- Nodes are met in the order in which their ids come up first. -/
lemma pairwise_met {ids : List String} {unmet : List Node} (hnd : (unmet.map Node.id).Nodup) :
    (meet ids unmet).1.Pairwise fun a b => ids.idxOf a.id < ids.idxOf b.id := by
  induction ids generalizing unmet with
  | nil => exact .nil
  | cons id ids ih =>
    -- behind the first id, every place is counted from the next one
    have hshift : ∀ {met : List Node}, (∀ n ∈ met, n.id ≠ id) →
        met.Pairwise (fun a b => ids.idxOf a.id < ids.idxOf b.id) →
        met.Pairwise fun a b => (id :: ids).idxOf a.id < (id :: ids).idxOf b.id := by
      intro met hne hmet
      refine hmet.imp_of_mem fun ha hb hlt => ?_
      rw [List.idxOf_cons_ne _ (hne _ ha).symm, List.idxOf_cons_ne _ (hne _ hb).symm]
      exact Nat.succ_lt_succ hlt
    unfold meet
    split
    · next hnone =>
      refine hshift (fun n hn => ?_) (ih hnd)
      have hunmet : n ∈ unmet := (meet_perm ids unmet).mem_iff.1 (List.mem_append_left _ hn)
      simpa using List.find?_eq_none.1 hnone n hunmet
    · next m hm =>
      have hmid : m.id = id := by simpa using List.find?_some hm
      have hnd' := ((perm_cons_eraseP hm).map Node.id).nodup_iff.1 hnd
      rw [List.map_cons, List.nodup_cons, hmid] at hnd'
      have hne : ∀ n ∈ (meet ids (unmet.eraseP (·.id = id))).1, n.id ≠ id := by
        intro n hn hid
        have hleft := (meet_perm ids _).mem_iff.1 (List.mem_append_left _ hn)
        exact hnd'.1 (List.mem_map.2 ⟨n, hleft, hid⟩)
      refine List.pairwise_cons.2 ⟨fun n hn => ?_, hshift hne (ih hnd'.2)⟩
      rw [hmid, List.idxOf_cons_self, List.idxOf_cons_ne _ (hne n hn).symm]
      exact Nat.succ_pos _

/-! ### The order of the walk -/

/-- The order of the nodes that a walk finds. Of `ids`, the first `done` have been walked from, the
`waiting` next ones are the frontier, and the rest are the ids of what is found. -/
structure InOrder (g : Graph) (ids : List String) (done waiting : ℕ) (found : List Node) :
    Prop where
  increasing : found.Pairwise fun a b => g.entry ids a.id < g.entry ids b.id
  notDone : ∀ n ∈ found, done ≤ g.stop ids n.id
  met : ∀ i (hi : i < found.length), g.stop ids found[i].id < done + waiting + i

/-- The nodes that are met from the first id of a frontier stand before those found later. -/
lemma InOrder.meet {ids done frontier : List String} {id : String} {unmet later : List Node}
    (hlater : g.InOrder ids (done.length + 1)
      (frontier ++ (meet (g.sourcesOf id) unmet).1.map Node.id).length later)
    (hnd : (unmet.map Node.id).Nodup) (hdone : ∀ b ∈ done, ∀ n ∈ unmet, n.id ∉ g.sourcesOf b)
    (hids : ids =
      done ++ id :: (frontier ++ ((meet (g.sourcesOf id) unmet).1 ++ later).map Node.id)) :
    g.InOrder ids done.length (id :: frontier).length
      ((Graph.meet (g.sourcesOf id) unmet).1 ++ later) := by
  have hstop : ∀ n ∈ (Graph.meet (g.sourcesOf id) unmet).1, g.stop ids n.id = done.length := by
    intro n hn
    have hunmet := (meet_perm _ unmet).mem_iff.1 (List.mem_append_left _ hn)
    rw [hids]
    exact stop_append (fun c hc => hdone c hc n hunmet) (id_mem_of_met hn)
  have hat : ids[done.length]? = some id := by simp [hids]
  refine ⟨List.pairwise_append.2 ⟨?_, hlater.increasing, ?_⟩, ?_, ?_⟩
  · refine (pairwise_met hnd).imp_of_mem fun {a b} ha hb hlt => ?_
    rw [entry, entry, hstop a ha, hstop b hb, hat, Prod.Lex.toLex_lt_toLex]
    refine .inr ⟨rfl, ?_⟩
    simpa using findIdx_lt_of_idxOf_lt hlt
  · intro a ha b hb
    rw [entry, entry, hstop a ha, Prod.Lex.toLex_lt_toLex]
    exact .inl (hlater.notDone b hb)
  · intro n hn
    rcases List.mem_append.1 hn with hn | hn
    · exact (hstop n hn).ge
    · exact (Nat.le_succ _).trans (hlater.notDone n hn)
  · intro i hi
    rw [List.getElem_append]
    split
    · next hlt =>
      rw [hstop _ (List.getElem_mem hlt), List.length_cons]
      omega
    · next hge =>
      have hlt : i - (Graph.meet (g.sourcesOf id) unmet).1.length < later.length := by
        rw [List.length_append] at hi
        omega
      have hmet := hlater.met _ hlt
      have hlen : (frontier ++ (Graph.meet (g.sourcesOf id) unmet).1.map Node.id).length =
          frontier.length + (Graph.meet (g.sourcesOf id) unmet).1.length := by simp
      rw [List.length_cons]
      omega

lemma inOrder_walk {frontier : List String} {unmet : List Node} {ids : List String}
    (hnd : (unmet.map Node.id).Nodup) :
    ∀ done : List String, (∀ b ∈ done, ∀ n ∈ unmet, n.id ∉ g.sourcesOf b) →
      ids = done ++ (frontier ++ (g.walk frontier unmet).map Node.id) →
        g.InOrder ids done.length frontier.length (g.walk frontier unmet) := by
  induction frontier, unmet using walk.induct g with
  | case1 unmet =>
    unfold walk
    exact fun _ _ _ => ⟨.nil, by simp, by simp⟩
  | case2 unmet id frontier found ih =>
    intro done hdone hids
    unfold walk at hids ⊢
    have hperm := meet_perm (g.sourcesOf id) unmet
    have hdone' : ∀ b ∈ done ++ [id], ∀ n ∈ found.2, n.id ∉ g.sourcesOf b := by
      intro b hb n hn
      rcases List.mem_append.1 hb with hb | hb
      · exact hdone b hb n (hperm.mem_iff.1 (List.mem_append_right _ hn))
      · rw [List.mem_singleton.1 hb]
        exact id_notMem_of_unmet hnd hn
    have hlater := ih (nodup_unmet hnd) (done ++ [id]) hdone' (by simp [hids, found])
    rw [List.length_append, List.length_singleton] at hlater
    exact hlater.meet hnd hdone hids

lemma inOrder_ancestors (g : Graph) (target : String) :
    g.InOrder (g.discovered target) 0 1 (g.ancestors target) := by
  have hids : g.discovered target =
      [] ++ ([target] ++ (g.walk [target] (g.nodes.filter (·.id ≠ target))).map Node.id) := rfl
  exact inOrder_walk (nodup_others g target) [] (by simp) hids

/-! ### Distances -/

/-- A path of `n` edges leads from an id to the target; every id on it before the target is a
node. -/
inductive Path (g : Graph) (target : String) : (n : ℕ) → (a : String) → Prop where
  | here : g.Path target 0 target
  | step {n : ℕ} {a b : String} (first : g.Feeds a b) (rest : g.Path target n b) :
    g.Path target (n + 1) a

/-- The length of the shortest path. -/
def IsDistance (g : Graph) (target a : String) (n : ℕ) : Prop :=
  IsLeast {n | g.Path target n a} n

lemma Path.eq_or_upstream {target a : String} {n : ℕ} (h : g.Path target n a) :
    a = target ∨ (∃ m ∈ g.nodes, m.id = a) ∧ g.Upstream a target := by
  induction h with
  | here => exact .inl rfl
  | step first rest ih =>
    refine .inr ⟨first.1, ?_⟩
    rcases ih with rfl | ⟨-, hup⟩
    · exact .single first
    · exact .head first hup

lemma Path.of_upstream {target a : String} (h : g.Upstream a target) : ∃ n, g.Path target n a := by
  induction h using Relation.TransGen.head_induction_on with
  | single hfeeds => exact ⟨1, .step hfeeds .here⟩
  | head hfeeds _ ih =>
    obtain ⟨n, hn⟩ := ih
    exact ⟨n + 1, .step hfeeds hn⟩

lemma Path.exists_place {target a : String} {n : ℕ} (h : g.Path target n a) :
    ∃ i : ℕ, (g.discovered target)[i]? = some a := by
  refine List.mem_iff_getElem?.1 ?_
  by_cases ha : a = target
  · exact ha ▸ List.mem_cons_self
  · obtain ⟨⟨m, hm, rfl⟩, hup⟩ := h.eq_or_upstream.resolve_left ha
    exact List.mem_cons_of_mem _
      (List.mem_map_of_mem (mem_ancestors_iff.2 ⟨hm, ha, hup⟩))

lemma nodup_discovered (g : Graph) (target : String) : (g.discovered target).Nodup := by
  refine List.nodup_cons.2 ⟨fun hmem => ?_, ?_⟩
  · obtain ⟨n, hn, hid⟩ := List.mem_map.1 hmem
    exact (mem_ancestors_iff.1 hn).2.1 hid
  · refine (List.nodup_map_iff_inj_on (nodup_ancestors g target)).2 fun m hm n hn hid => ?_
    exact List.inj_on_of_nodup_map g.nodup_ids (mem_ancestors_iff.1 hm).1
      (mem_ancestors_iff.1 hn).1 hid

lemma stop_le_stop {target : String} {i k : ℕ} (hik : i ≤ k)
    (hk : k < (g.ancestors target).length) :
    g.stop (g.discovered target) (g.ancestors target)[i].id ≤
      g.stop (g.discovered target) (g.ancestors target)[k].id := by
  rcases Nat.eq_or_lt_of_le hik with rfl | hlt
  · exact le_rfl
  · have hentry := List.pairwise_iff_getElem.1 (inOrder_ancestors g target).increasing i k
      (hlt.trans hk) hk hlt
    rcases Prod.Lex.toLex_lt_toLex.1 hentry with hstop | ⟨hstop, -⟩
    · exact hstop.le
    · exact hstop.le

/-- An ancestor feeds the id at its stop, which stands before it. -/
lemma exists_stop {target : String} {i : ℕ} (hi : i < (g.ancestors target).length) :
    ∃ b, (g.discovered target)[g.stop (g.discovered target) (g.ancestors target)[i].id]? = some b ∧
      g.Feeds (g.ancestors target)[i].id b := by
  have hmet := (inOrder_ancestors g target).met i hi
  have hlen : (g.discovered target).length = (g.ancestors target).length + 1 := by
    simp [discovered]
  have hat := List.getElem?_eq_getElem (l := g.discovered target)
    (i := g.stop (g.discovered target) (g.ancestors target)[i].id) (by omega)
  exact ⟨_, hat, feeds_of_mem (mem_ancestors_iff.1 (List.getElem_mem hi)).1
    (mem_sourcesOf_of_stop hat)⟩

/-- What is met no later has no longer a path. The induction is on the path: its second id stands at
or behind the stop of its first, and whatever was met no later than the first has no later a
stop. -/
lemma exists_path_of_le {target a b : String} {n i k : ℕ} (hpath : g.Path target n b)
    (hk : (g.discovered target)[k]? = some b) (hi : (g.discovered target)[i]? = some a)
    (hik : i ≤ k) : ∃ m ≤ n, g.Path target m a := by
  have hfirst : (g.discovered target)[0]? = some target := rfl
  have hplace : ∀ {j : ℕ} {c : String}, (g.discovered target)[j + 1]? = some c →
      ∃ hj : j < (g.ancestors target).length, (g.ancestors target)[j].id = c := by
    intro j c hj
    rw [discovered, List.getElem?_cons_succ, List.getElem?_map] at hj
    obtain ⟨m, hm, rfl⟩ := Option.map_eq_some_iff.1 hj
    obtain ⟨hlt, rfl⟩ := List.getElem?_eq_some_iff.1 hm
    exact ⟨hlt, rfl⟩
  induction hpath generalizing a i k with
  | here =>
    have hzero : k = 0 := by
      have hlt := (List.getElem?_eq_some_iff.1 hk).1
      exact (List.getElem?_inj hlt (nodup_discovered g target)).1 (hk.trans hfirst.symm)
    obtain rfl : i = 0 := by omega
    cases hi.symm.trans hfirst
    exact ⟨0, le_rfl, .here⟩
  | @step n b c first rest ih =>
    cases i with
    | zero =>
      cases hi.symm.trans hfirst
      exact ⟨0, Nat.zero_le _, .here⟩
    | succ i =>
      obtain ⟨k, rfl⟩ : ∃ j, k = j + 1 := ⟨k - 1, by omega⟩
      obtain ⟨hilt, rfl⟩ := hplace hi
      obtain ⟨hklt, rfl⟩ := hplace hk
      obtain ⟨l, hl⟩ := rest.exists_place
      obtain ⟨d, hd, hfeeds⟩ := exists_stop hilt
      have hle : g.stop (g.discovered target) (g.ancestors target)[i].id ≤ l :=
        (stop_le_stop (by omega) hklt).trans (stop_le_of_getElem? hl (mem_sourcesOf.2 first.2))
      obtain ⟨m, hm, hpath⟩ := ih hl hd hle
      exact ⟨m + 1, by omega, .step hfeeds hpath⟩

/-! ### The order of the ancestors -/

/-- Each ancestor of the target is met where its first edge into what was met before is followed,
and ancestors that are nearer to the target are listed before those that are farther. -/
structure ListsByDiscovery (g : Graph) (target : String) : Prop where
  increasing : (g.ancestors target).Pairwise fun a b =>
    g.entry (g.discovered target) a.id < g.entry (g.discovered target) b.id
  /-- The ancestor that stands at `i + 1` among the discovered has its stop before that place. -/
  stop_lt : ∀ i (hi : i < (g.ancestors target).length),
    g.stop (g.discovered target) (g.ancestors target)[i].id < i + 1
  nearestFirst : ∃ distance : String → ℕ,
    (∀ a ∈ g.ancestors target, g.IsDistance target a.id (distance a.id)) ∧
      (g.ancestors target).Pairwise fun a b => distance a.id ≤ distance b.id

/-- **Ancestors are listed in the order of their discovery**, whatever cycles, parallel edges and
edges without a node the graph has. -/
theorem listsByDiscovery (g : Graph) (target : String) : g.ListsByDiscovery target where
  increasing := (inOrder_ancestors g target).increasing
  stop_lt i hi := by
    have := (inOrder_ancestors g target).met i hi
    omega
  nearestFirst := by
    have hleast : ∀ a ∈ g.ancestors target,
        g.IsDistance target a.id (sInf {n | g.Path target n a.id}) := fun a ha =>
      isLeast_csInf (Path.of_upstream (mem_ancestors_iff.1 ha).2.2)
    refine ⟨fun a => sInf {n | g.Path target n a}, hleast, ?_⟩
    rw [List.pairwise_iff_getElem]
    intro i k hi hk hik
    have hplace : ∀ {j : ℕ} (hj : j < (g.ancestors target).length),
        (g.discovered target)[j + 1]? = some (g.ancestors target)[j].id := by
      intro j hj
      rw [discovered, List.getElem?_cons_succ, List.getElem?_map, List.getElem?_eq_getElem hj]
      rfl
    obtain ⟨m, hm, hpath⟩ := exists_path_of_le (hleast _ (List.getElem_mem hk)).1 (hplace hk)
      (hplace hi) (by omega)
    exact ((hleast _ (List.getElem_mem hi)).2 hpath).trans hm

end AgentFlow.Graph
