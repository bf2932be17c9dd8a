import AgentFlow.Proofs.Editor.Tidiness
import AgentFlow.Proofs.Saved.Acceptance

/-!
Loading what a session saves.

The values in the workflow of a session are those it began with and those that updates brought in.
Apart from coordinates that are not finite, only the depth to which these values nest decides
whether the saved text loads: a reader follows containers down to a limit, and a writer has none.
-/

namespace AgentFlow.Session

/-! ### Where free-form data comes from -/

/-- All values that an operation brings in are ones that some text could hold. -/
def Operation.WellFormed : Operation → Prop
  | .updateNode _ u => ∀ o ∈ u.extra, ∀ m ∈ o.entries, m.2.WellFormed
  | _ => True

/-- A node has the free-form data it had before, or none if it is new; only an update adds to it. -/
lemma extra_after {s : Session} {op : Operation} {m : Node}
    (hm : m ∈ (s.after op).graph.nodes) :
    m.extra = .empty ∨ ∃ n ∈ s.graph.nodes, m.extra = n.extra ∨
      ∃ id u o, op = .updateNode id u ∧ u.extra = some o ∧ m.extra = n.extra.extend o := by
  have heffect := s.effect_after op
  generalize (s.after op).graph = h at heffect hm
  cases heffect with
  | unchanged => exact .inr ⟨m, hm, .inl rfl⟩
  | passed => exact .inr ⟨m, hm, .inl rfl⟩
  | inserted hins =>
    rw [(Graph.nodes_of_insert? hins).1, List.mem_append, List.mem_singleton] at hm
    rcases hm with hm | rfl
    · exact .inr ⟨m, hm, .inl rfl⟩
    · exact .inl rfl
  | removed hrem =>
    rw [(Graph.parts_of_remove? hrem).2.2.1] at hm
    exact .inr ⟨m, List.mem_of_mem_filter hm, .inl rfl⟩
  | moved hmod =>
    rw [(Graph.parts_of_modify? hmod).1] at hm
    obtain ⟨n, hn, rfl⟩ := List.mem_map.1 hm
    refine .inr ⟨n, hn, .inl ?_⟩
    split <;> rfl
  | connected hcon =>
    obtain ⟨-, -, ⟨_, -, -, rfl⟩ | ⟨-, -, hnodes, -⟩⟩ := Graph.parts_of_connect? hcon
    · exact .inr ⟨m, hm, .inl rfl⟩
    · exact .inr ⟨m, hnodes ▸ hm, .inl rfl⟩
  | disconnected hrem => exact .inr ⟨m, (Graph.parts_of_removeEdge? hrem).2.1 ▸ hm, .inl rfl⟩
  | @updated id u _ hup =>
    rw [(Graph.parts_of_modify? (Graph.accepted_of_update? hup).2).1] at hm
    obtain ⟨n, hn, rfl⟩ := List.mem_map.1 hm
    refine .inr ⟨n, hn, ?_⟩
    split
    · cases hextra : u.extra with
      | none => exact .inl (by simp only [Update.apply, hextra])
      | some o => exact .inr ⟨id, u, o, rfl, hextra, by simp only [Update.apply, hextra]⟩
    · exact .inl rfl

lemma wellFormed_after {s : Session} {op : Operation} (hs : s.graph.WellFormed)
    (hop : op.WellFormed) : (s.after op).graph.WellFormed where
  extra m hm v hv := by
    rcases extra_after hm with hempty | ⟨n, hn, hold | ⟨id, u, o, rfl, ho, hnew⟩⟩
    · rw [hempty] at hv
      cases hv
    · exact hs.extra n hn v (hold ▸ hv)
    · rw [hnew] at hv
      rcases Json.mem_of_mem_foldl_insert hv with hv | hv
      · exact hs.extra n hn v hv
      · exact hop o ho v hv
  data e he v hv := by
    obtain ⟨_, hchange, -⟩ := s.change_after op
    rcases hchange.edge_source he with hold | ⟨c, rfl⟩
    · exact hs.data e hold v hv
    · cases hv

lemma wellFormed_run {s : Session} (hs : s.graph.WellFormed) {ops : List Operation}
    (hops : ∀ op ∈ ops, op.WellFormed) : (s.run ops).graph.WellFormed := by
  induction ops generalizing s with
  | nil => exact hs
  | cons op ops ih =>
    exact ih (wellFormed_after hs (hops op List.mem_cons_self)) fun op' h =>
      hops op' (List.mem_cons_of_mem _ h)

/-! ### Loading again -/

/-- **What a session saves is loaded again** exactly if its free-form values nest no deeper than a
reader follows them: 123 containers for a member of a node's data, 124 for the data of an edge. The
coordinates have to be finite. -/
theorem loads_run {s : Session} (hs : s.Begun) (hvalues : s.graph.WellFormed)
    {ops : List Operation} (hops : ∀ op ∈ ops, op.WellFormed)
    (hposition : ∀ n ∈ (s.run ops).graph.nodes, n.position.IsFinite) :
    (∃ g, FlowFile.parse (s.run ops).graph.toText = .ok g) ↔
      (∀ n ∈ (s.run ops).graph.nodes, ∀ m ∈ n.extra.entries, m.2.nesting ≤ 123) ∧
        ∀ e ∈ (s.run ops).graph.edges, ∀ v ∈ e.data, v.nesting ≤ 124 :=
  FlowFile.exists_parse_toText_iff (tidy_run hs ops) (wellFormed_run hvalues hops) hposition

/-! ### Sessions that are loaded again, and that are not -/

def boxed (v : Json) : ℕ → Json
  | 0 => v
  | n + 1 => .array [boxed v n]

lemma canonical_boxed {depth : ℕ} {v : Json} (h : Json.Canonical depth v) (n : ℕ) :
    Json.Canonical (depth + n) (boxed v n) := by
  induction n with
  | zero => exact h
  | succ n ih => exact .array (by simpa using ih)

/-- A node at a place that is not read back exactly, with a number in so many arrays. -/
def boxing (n : ℕ) : List Operation :=
  [.addNode .llm "" ⟨.ofRatio false 1 11, 0⟩,
    .updateNode "node_0" { Update.empty with
      extra := some (.ofMembers [("note", boxed (.number (.real (.ofRatio true 1 3))) n)]) }]

lemma wellFormed_new : new.graph.WellFormed where
  extra n hn := by
    have hnone : ∀ n ∈ new.graph.nodes, n.extra.entries = [] := by decide
    simp [hnone n hn]
  data e he := by cases he

lemma wellFormed_boxing (n : ℕ) : ∀ op ∈ boxing n, op.WellFormed := by
  intro op hop
  simp only [boxing, List.mem_cons, List.not_mem_nil, or_false] at hop
  rcases hop with rfl | rfl
  · trivial
  · rintro o ⟨⟩ m hm
    have hmem := Json.mem_of_mem_ofMembers hm
    rw [List.mem_singleton] at hmem
    subst hmem
    have hrange : (Json.Number.real (.ofRatio true 1 3)).InRange :=
      show (Binary64.ofRatio true 1 3).isFinite = true by decide
    exact ⟨_, canonical_boxed (.number 0 hrange) n⟩

/-- As many arrays as a reader follows; the place comes back rounded. -/
theorem loads_run_boxing :
    new.Begun ∧ new.graph.WellFormed ∧ (∀ op ∈ boxing 123, op.WellFormed) ∧
      (∀ n ∈ (new.run (boxing 123)).graph.nodes, n.position.IsFinite) ∧
      ∃ g, FlowFile.parse (new.run (boxing 123)).graph.toText = .ok g := by
  have hposition : ∀ n ∈ (new.run (boxing 123)).graph.nodes, n.position.IsFinite := by
    decide +kernel
  have hnesting : ∀ n ∈ (new.run (boxing 123)).graph.nodes, ∀ m ∈ n.extra.entries,
      m.2.nesting ≤ 123 := by
    decide +kernel
  have hdata : ∀ e ∈ (new.run (boxing 123)).graph.edges, ∀ v ∈ e.data, v.nesting ≤ 124 := by
    have hnone : (new.run (boxing 123)).graph.edges = [] := by decide +kernel
    simp [hnone]
  exact ⟨.new, wellFormed_new, wellFormed_boxing 123, hposition,
    (loads_run .new wellFormed_new (wellFormed_boxing 123) hposition).2 ⟨hnesting, hdata⟩⟩

/-- One array more, and the text is refused; so it is where a coordinate is no number. -/
theorem not_loads_boxing :
    (¬∃ g, FlowFile.parse (new.run (boxing 124)).graph.toText = .ok g) ∧
      ¬∃ g, FlowFile.parse (new.run [.addNode .llm "" ⟨.nan false, 0⟩]).graph.toText = .ok g := by
  constructor
  · intro hloads
    have hposition : ∀ n ∈ (new.run (boxing 124)).graph.nodes, n.position.IsFinite := by
      decide +kernel
    have hdeep : ∃ n ∈ (new.run (boxing 124)).graph.nodes, ∃ m ∈ n.extra.entries,
        123 < m.2.nesting := by
      decide +kernel
    obtain ⟨n, hn, m, hm, hlt⟩ := hdeep
    have hshallow := (FlowFile.exists_parse_toText_iff (tidy_run .new (boxing 124))
      (wellFormed_run wellFormed_new (wellFormed_boxing 124)) hposition).1 hloads
    exact absurd (hshallow.1 n hn m hm) (Nat.not_le.2 hlt)
  · rintro ⟨g, hparse⟩
    have hrefused : (FlowFile.parse
        (new.run [.addNode .llm "" ⟨.nan false, 0⟩]).graph.toText).toOption.isNone = true := by
      rw [FlowFile.parse, Graph.toText, SavedFlow.ofText?_toText]
      decide +kernel
    rw [hparse] at hrefused
    cases hrefused

end AgentFlow.Session
