import AgentFlow.Proofs.Editor.Tidiness

/-!
Saving a session and opening it again.

The operations keep every part of a node in the form in which it is loaded, except the
configuration, which an update takes as it is. An empty text or a temperature that is not finite
stands there for a value that is not set, and is read back as such.
-/

namespace AgentFlow

namespace Config

/-- Whether the configuration holds no value that stands for one that is not set. -/
def isFilled : Config → Bool
  | .start text | .finish text | .knowledge text | .tool text | .mcp text => text ≠ some ""
  | .llm settings =>
    settings.model ≠ "" && settings.temperature.isFinite && settings.systemPrompt ≠ some ""
  | .docParser _ | .vision | .intent => true

lemma filled_eq_self_iff {text : Option String} : filled text = text ↔ text ≠ some "" := by
  cases text with
  | none => simp [filled]
  | some t => by_cases ht : t = "" <;> simp [filled, Option.filter, ht]

lemma normalized_eq_self_iff {c : Config} : c.normalized = c ↔ c.isFilled = true := by
  cases c with
  | llm settings =>
    obtain ⟨model, temperature, prompt⟩ := settings
    have hmodel : (if model = "" then "gpt-4" else model) = model ↔ model ≠ "" := by
      by_cases h : model = "" <;> simp [h]
    have htemp : (if temperature.isFinite then temperature else .ofRatio false 7 10) =
        temperature ↔ temperature.isFinite = true := by
      split
      · next h => simp [h]
      · next h =>
        have hdefault : (Binary64.ofRatio false 7 10).isFinite = true := by decide
        exact ⟨fun heq => heq ▸ hdefault, fun hfinite => absurd hfinite h⟩
    simp only [normalized, isFilled, llm.injEq, LlmConfig.mk.injEq, hmodel, htemp,
      filled_eq_self_iff, Bool.and_eq_true, decide_eq_true_eq, and_assoc]
  | docParser mode | vision | intent => simp [normalized, isFilled]
  | _ => simp [normalized, isFilled, filled_eq_self_iff]

end Config

lemma Edge.normalized_ofConnection (c : Connection) :
    (ofConnection c).normalized = ofConnection c := by
  have hid : ¬(ofConnection c).id = "" := c.edgeId_ne_empty
  simp only [normalized, if_neg hid]

namespace Session

lemma normalized_edges_run {s : Session} (hs : s.Begun) (ops : List Operation) :
    ∀ e ∈ (s.run ops).graph.edges, e.normalized = e := by
  refine edges_run Edge.normalized_ofConnection ?_ ops
  cases hs with
  | new => simp [new, ofGraph, Graph.starter]
  | opened h =>
    obtain ⟨g, hdecode, rfl⟩ := exists_of_openFlow h
    intro e he
    rw [ofGraph, (Graph.sources_of_decode hdecode).2] at he
    obtain ⟨saved, -, rfl⟩ := List.mem_map.1 he
    exact saved.normalized_decode

/-- **Saving and reopening a session loses nothing that is set**: it succeeds after every run, with
the same edges and the same nodes in the same order, in whose configurations alone a value that
stands for one that is not set is read as such. If there is none, nothing changes at all. -/
theorem reopen_run {s : Session} (hs : s.Begun) (ops : List Operation) (agent : String) :
    ∃ t, (s.run ops).reopen agent = .ok t ∧
      t.agent = some agent ∧ t.selected = none ∧ t.epoch = 0 ∧
      t.graph.edges = (s.run ops).graph.edges ∧
      t.graph.nodes =
        (s.run ops).graph.nodes.map (fun n => { n with config := n.config.normalized }) ∧
      (t.graph.nodes = (s.run ops).graph.nodes ↔
        ∀ n ∈ (s.run ops).graph.nodes, n.config.isFilled = true) := by
  obtain ⟨g, hdecode, hnodes, hedges⟩ := (s.run ops).graph.exists_decode_encode
  have hopen : (s.run ops).reopen agent = .ok (ofGraph (some agent) g) := by
    rw [reopen, openFlow, flow, hdecode]
    rfl
  have hconfig : g.nodes =
      (s.run ops).graph.nodes.map (fun n => { n with config := n.config.normalized }) := by
    rw [hnodes]
    exact List.map_congr_left fun n hn => (tidy_run hs ops n hn).normalized_eq
  have hsame : g.edges = (s.run ops).graph.edges := by
    rw [hedges, List.map_congr_left (normalized_edges_run hs ops)]
    exact List.map_id' _
  refine ⟨_, hopen, rfl, rfl, rfl, hsame, hconfig, ?_⟩
  -- a map that leaves the list as it is leaves every node as it is
  change g.nodes = (s.run ops).graph.nodes ↔ _
  rw [hconfig]
  conv_lhs => rhs; rw [← List.map_id' (s.run ops).graph.nodes]
  rw [List.map_inj_left]
  refine forall₂_congr fun n _ => ?_
  rw [← Config.normalized_eq_self_iff]
  exact ⟨congrArg Node.config, fun h => by rw [h]⟩

/-- An update that sets every part of a configuration, and an edge. -/
def filledOperations : List Operation :=
  [.addNode .llm "Summary" .origin, .connect ⟨Graph.startId, "node_0", none, none⟩,
    .updateNode "node_0" { Update.empty with
      description := some "shortens", config := some (.llm ⟨"gpt-4o", 1, some "Be brief."⟩) }]

theorem reopen_filledOperations :
    (new.run filledOperations).graph.edges.length = 1 ∧
    ∃ t, (new.run filledOperations).reopen "a" = .ok t ∧
      t.graph.nodes = (new.run filledOperations).graph.nodes ∧
      t.graph.edges = (new.run filledOperations).graph.edges := by
  obtain ⟨t, hopen, -, -, -, hedges, -, hnodes⟩ := reopen_run .new filledOperations "a"
  exact ⟨by decide +kernel, t, hopen, hnodes.2 (by decide +kernel), hedges⟩

/-- An update with an empty model, a temperature that is no number and an empty prompt. -/
def unsetOperations : List Operation :=
  [.addNode .llm "" .origin,
    .updateNode "node_0" { Update.empty with config := some (.llm ⟨"", .nan false, some ""⟩) }]

/-- What stands for values that are not set does not survive. -/
theorem reopen_unsetOperations : ¬∃ t, (new.run unsetOperations).reopen "a" = .ok t ∧
    t.graph.nodes = (new.run unsetOperations).graph.nodes ∧
    t.graph.edges = (new.run unsetOperations).graph.edges := by
  have hchanged : ((new.run unsetOperations).reopen "a").toOption.all (fun t =>
      t.graph.nodes ≠ (new.run unsetOperations).graph.nodes) = true := by
    decide +kernel
  rintro ⟨t, hopen, hnodes, -⟩
  simp [hopen, Except.toOption, hnodes] at hchanged

end Session

end AgentFlow
