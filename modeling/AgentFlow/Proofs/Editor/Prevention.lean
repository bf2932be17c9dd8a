import AgentFlow.Proofs.Editor.Runs
import AgentFlow.Proofs.Workflow.Gate
import AgentFlow.Proofs.Workflow.Passes
import AgentFlow.Proofs.Workflow.Wiring

/-!
Problems that the operations of a session do not bring about.

Inputs at a start, outputs at an end, dangling edges and repeated connections come from saved
workflows only. A graph whose edges are wired stays so under every change.
-/

namespace AgentFlow

/-! ### Wired graphs -/

lemma Graph.Change.rewires {g h : Graph} {gone : Option String} (hchange : g.Change gone h) :
    g.Rewires h := by
  have hids : gone = none → ∀ id, (∃ n ∈ g.nodes, n.id = id) → ∃ n ∈ h.nodes, n.id = id := by
    rintro rfl id
    exact hchange.exists_id (by simp)
  cases hchange with
  | altered _ edges | added _ _ _ _ _ _ edges => exact .of_ids (hids rfl) (edges ▸ .refl _)
  | removed id nodes edges => exact .of_removed nodes edges
  | connected c source target new nodes edges =>
    exact .joined (.ofConnection c) (Edge.not_dangles_iff.2 ⟨source, target⟩) new nodes edges
  | disconnected id _ edges => exact .of_ids (hids rfl) (edges ▸ List.eraseP_sublist)

lemma Graph.Wired.change {g h : Graph} {gone : Option String} (hg : g.Wired)
    (hchange : g.Change gone h) : h.Wired :=
  hchange.rewires.noWorse.wired hg

lemma Session.wired_run_new (ops : List Operation) : (new.run ops).graph.Wired :=
  graph_run (fun _ _ _ hg hchange => hg.change hchange)
    ⟨by simp [new, ofGraph, Graph.starter], List.nodup_nil⟩ ops

/-! ### Reports -/

/-- The problems that the operations refuse to bring about. -/
inductive Problem.Prevented : Problem → Prop where
  | inputsOnStart : Prevented .inputsOnStart
  | outputsOnEnd : Prevented .outputsOnEnd
  | danglingEdge (edge missing : String) : Prevented (.danglingEdge edge missing)
  | duplicateEdge (edge : String) : Prevented (.duplicateEdge edge)

lemma Problem.notPrevented_of_pass {p : Problem} (hedges : p.pass ≠ .edges)
    (hparams : p.pass ≠ .params) : ¬p.Prevented := by
  rintro ⟨⟩
  · exact hparams rfl
  · exact hparams rfl
  · exact hedges rfl
  · exact hedges rfl

namespace Diagnosis

lemma notPrevented_of_mem_edges {g : Graph} {seen : List Connection} {es : List Edge}
    (hends : ∀ e ∈ es, missingEndpoints g e = []) (hnd : (es.map Edge.toConnection).Nodup)
    (hnew : ∀ e ∈ es, e.toConnection ∉ seen) : ∀ i ∈ edges g seen es, ¬i.problem.Prevented := by
  induction es generalizing seen with
  | nil => simp [edges]
  | cons e es ih =>
    rw [List.map_cons, List.nodup_cons] at hnd
    intro i hi
    rw [edges, List.mem_append] at hi
    rcases hi with hi | hi
    · have hseen : ¬seen.contains e.toConnection = true := by
        simpa using hnew e List.mem_cons_self
      simp only [edge, hends e List.mem_cons_self, List.map_nil, List.nil_append, if_neg hseen,
        List.append_nil] at hi
      split at hi
      · obtain rfl := List.mem_singleton.1 hi
        rintro ⟨⟩
      · cases hi
    · refine ih (fun e' he' => hends e' (List.mem_cons_of_mem _ he')) hnd.2 (fun e' he' => ?_) i hi
      rw [List.mem_cons, not_or]
      exact ⟨fun heq => hnd.1 (List.mem_map.2 ⟨e', he', heq⟩),
        hnew e' (List.mem_cons_of_mem _ he')⟩

lemma notPrevented_of_mem_params {n : Node} (hstart : n.kind = .start → n.inputs = [])
    (hfinish : n.kind = .finish → n.outputs = []) : ∀ p ∈ params n, ¬p.Prevented := by
  have hins : ¬(!n.kind.acceptsInputs && !n.inputs.isEmpty) = true := by
    simpa [Kind.acceptsInputs] using hstart
  have houts : ¬(decide (n.kind = .finish) && !n.outputs.isEmpty) = true := by simpa using hfinish
  intro p hp
  rw [params, if_neg hins, if_neg houts] at hp
  obtain ⟨name, -, rfl⟩ := List.mem_map.1 hp
  rintro ⟨⟩

/-- A wired graph with no inputs at its start and no outputs at its end is spared the problems. -/
lemma notPrevented_of_wired {g : Graph} (hg : g.Wired)
    (hstart : ∀ n ∈ g.nodes, n.kind = .start → n.inputs = [])
    (hfinish : ∀ n ∈ g.nodes, n.kind = .finish → n.outputs = []) :
    ∀ i ∈ g.diagnose.issues, ¬i.problem.Prevented := by
  intro i hi
  simp only [Graph.diagnose, List.mem_append] at hi
  rcases hi with (hi | hi) | hi
  · obtain ⟨p, hp, rfl⟩ := List.mem_map.1 hi
    have hpass := pass_of_mem_terminals hp
    exact Problem.notPrevented_of_pass (by simp [hpass]) (by simp [hpass])
  · refine notPrevented_of_mem_edges (fun e he => ?_) hg.distinct (by simp) i hi
    exact missingEndpoints_eq_nil_iff.2 (hg.endpoints e he)
  · obtain ⟨n, hn, hi⟩ := List.mem_flatMap.1 hi
    obtain ⟨p, hp, rfl⟩ := List.mem_map.1 hi
    rw [List.mem_append, List.mem_append] at hp
    rcases hp with (hp | hp) | hp
    · exact notPrevented_of_mem_params (hstart n hn) (hfinish n hn) p hp
    · have hpass := pass_of_mem_config hp
      exact Problem.notPrevented_of_pass (by simp [hpass]) (by simp [hpass])
    · have hpass := pass_of_mem_bindings hp
      exact Problem.notPrevented_of_pass (by simp [hpass]) (by simp [hpass])

end Diagnosis

end AgentFlow
