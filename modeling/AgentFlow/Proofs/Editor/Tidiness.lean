import AgentFlow.Proofs.Editor.Runs
import AgentFlow.Proofs.Saved.Stability

/-!
Tidy nodes over whole runs.

Nodes are tidy when they are loaded or new. An update that is accepted keeps them so: an empty
description is dropped, declared outputs have types on offer, and free-form data has free names.
-/

namespace AgentFlow

/-! ### Free-form data and types -/

lemma Json.Object.filterKeys_eq_self_iff {o : Json.Object} {p : String → Bool} :
    o.filterKeys p = o ↔ ∀ key ∈ o.keys, p key = true := by
  constructor
  · intro h key hkey
    rw [← h] at hkey
    obtain ⟨m, hm, rfl⟩ := List.mem_map.1 hkey
    exact (List.mem_filter.1 hm).2
  · intro h
    exact ext_entries (List.filter_eq_self.2 fun m hm => h m.1 (List.mem_map_of_mem hm))

lemma Json.Object.mem_keys_of_mem_extend {o p : Json.Object} {key : String}
    (h : key ∈ (o.extend p).keys) : key ∈ o.keys ∨ key ∈ p.keys := by
  obtain ⟨m, hm, rfl⟩ := List.mem_map.1 h
  exact (mem_of_mem_foldl_insert hm).imp List.mem_map_of_mem List.mem_map_of_mem

lemma ParamType.normalized_of_isSelectable {t : ParamType} (h : t.isSelectable = true) :
    t.normalized = t := by
  cases t <;> first | rfl | cases h

/-! ### Single nodes -/

namespace Node

lemma Tidy.isReserved_eq_false {n : Node} (h : n.Tidy) :
    ∀ key ∈ n.extra.keys, n.kind.isReserved key = false := by
  simpa using Json.Object.filterKeys_eq_self_iff.1 h.extra

lemma tidy_make (id : String) (kind : Kind) (label : String) (position : Position) :
    (make id kind label position).Tidy where
  description := rfl
  outputs := by cases kind <;> rfl
  extra := rfl

lemma Tidy.apply {n : Node} (hn : n.Tidy) {u : Update} (hu : u.Accepted n) :
    (u.apply n).Tidy where
  description := by
    cases hdesc : u.description with
    | none => simpa only [Update.apply, hdesc] using hn.description
    | some d =>
      simp only [Update.apply, hdesc]
      split
      · rfl
      · next hne => simpa [filled, Option.filter] using hne
  outputs := by
    cases houts : u.outputs with
    | none => simpa only [Update.apply, houts, Option.getD_none] using hn.outputs
    | some ps =>
      simp only [Update.apply, houts, Option.getD_some]
      rcases hu.outputs ps houts with ⟨-, hsel⟩ | ⟨-, rfl⟩
      · have hmap : ∀ p ∈ ps, p.normalized = p := fun p hp => by
          rw [OutputParam.normalized, ParamType.normalized_of_isSelectable (hsel p hp)]
        rw [List.map_congr_left hmap, List.map_id']
      · exact hn.outputs
  extra := by
    rw [hu.kind_apply, Json.Object.filterKeys_eq_self_iff]
    intro key hkey
    rw [Bool.not_eq_true']
    cases hextra : u.extra with
    | none =>
      simp only [Update.apply, hextra] at hkey
      exact hn.isReserved_eq_false key hkey
    | some o =>
      simp only [Update.apply, hextra] at hkey
      rcases Json.Object.mem_keys_of_mem_extend hkey with hold | hnew
      · exact hn.isReserved_eq_false key hold
      · exact hu.extra o hextra key hnew

lemma Tidy.altered {n m : Node} (hn : n.Tidy) (h : n.Altered m) : m.Tidy := by
  cases h with
  | kept => exact hn
  | moved p => exact ⟨hn.description, hn.outputs, hn.extra⟩
  | updated h => exact hn.apply h

end Node

/-! ### Runs -/

namespace Session

lemma tidy_of_begun {s : Session} (hs : s.Begun) : ∀ n ∈ s.graph.nodes, n.Tidy := by
  cases hs with
  | new =>
    intro n hn
    simp only [new, ofGraph, Graph.starter, Graph.starterNodes, List.mem_cons, List.not_mem_nil,
      or_false] at hn
    obtain rfl | rfl := hn <;> exact Node.tidy_make _ _ _ _
  | opened h =>
    obtain ⟨g, hdecode, rfl⟩ := exists_of_openFlow h
    intro n hn
    obtain ⟨saved, -, hnode⟩ := (Graph.sources_of_decode hdecode).1 n hn
    exact (SavedNode.tidy_of_decode hnode).1

/-- Every node of a session is tidy, but for what its configuration may hold. -/
lemma tidy_run {s : Session} (hs : s.Begun) (ops : List Operation) :
    ∀ n ∈ (s.run ops).graph.nodes, n.Tidy :=
  nodes_run Node.tidy_make (fun _ _ hn halt => hn.altered halt) (tidy_of_begun hs) ops

end Session

end AgentFlow
