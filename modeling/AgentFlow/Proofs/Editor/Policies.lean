import AgentFlow.Proofs.Editor.Prevention
import AgentFlow.Proofs.Editor.Tidiness

/-!
What the kind of a node lets a user change, over whole runs.

A node is compared with its origin, the node as it was loaded or added. One operation keeps what the
kind protects, and the relation is transitive, so a run keeps it too. A workflow that is new stays
free of the problems that the operations refuse to bring about.
-/

namespace AgentFlow

/-! ### What a node keeps -/

/-- What a node keeps of an earlier self. -/
structure Node.Keeps (n m : Node) : Prop where
  id : m.id = n.id
  kind : m.kind = n.kind
  fixedOutputs : n.kind ∈ [.start, .llm, .knowledge, .tool, .docParser, .finish] →
    m.outputs = n.outputs
  editableOutputs : n.kind ∈ [.mcp, .vision, .intent] → m.outputs = n.outputs ∨
    ∀ p ∈ m.outputs, p.type = .string ∨ p.type = .number ∨ p.type = .boolean
  startInputs : n.kind = .start → m.inputs = n.inputs ∨ m.inputs = []
  header : n.kind ∈ [.start, .finish] → m.label = n.label ∧ m.description = n.description

namespace Node.Keeps

lemma refl (n : Node) : n.Keeps n where
  id := rfl
  kind := rfl
  fixedOutputs _ := rfl
  editableOutputs _ := .inl rfl
  startInputs _ := .inl rfl
  header _ := ⟨rfl, rfl⟩

lemma trans {n m k : Node} (h : n.Keeps m) (h' : m.Keeps k) : n.Keeps k where
  id := h'.id.trans h.id
  kind := h'.kind.trans h.kind
  fixedOutputs hk := (h'.fixedOutputs (h.kind ▸ hk)).trans (h.fixedOutputs hk)
  editableOutputs hk := by
    rcases h'.editableOutputs (h.kind ▸ hk) with heq | hsel
    · rw [heq]
      exact h.editableOutputs hk
    · exact .inr hsel
  startInputs hk := by
    rcases h'.startInputs (h.kind ▸ hk) with heq | hnil
    · rw [heq]
      exact h.startInputs hk
    · exact .inr hnil
  header hk :=
    have hm := h'.header (h.kind ▸ hk)
    have hn := h.header hk
    ⟨hm.1.trans hn.1, hm.2.trans hn.2⟩

end Node.Keeps

lemma Update.Accepted.keeps {u : Update} {n : Node} (h : u.Accepted n) : n.Keeps (u.apply n) where
  id := rfl
  kind := h.kind_apply
  fixedOutputs hk := by
    have hpolicy : n.kind.outputPolicy ≠ .editable := by
      revert hk
      cases n.kind <;> decide
    cases houts : u.outputs with
    | none => simp only [apply, houts, Option.getD_none]
    | some ps =>
      rcases h.outputs ps houts with ⟨hedit, -⟩ | ⟨-, rfl⟩
      · exact absurd hedit hpolicy
      · simp only [apply, houts, Option.getD_some]
  editableOutputs hk := by
    have hpolicy : n.kind.outputPolicy ≠ .fixed := by
      revert hk
      cases n.kind <;> decide
    cases houts : u.outputs with
    | none => exact .inl (by simp only [apply, houts, Option.getD_none])
    | some ps =>
      rcases h.outputs ps houts with ⟨-, hsel⟩ | ⟨hfixed, -⟩
      · refine .inr fun p hp => ?_
        simp only [apply, houts, Option.getD_some] at hp
        have htype := hsel p hp
        cases hp : p.type <;> simp_all [ParamType.isSelectable]
      · exact absurd hfixed hpolicy
  startInputs hk := by
    cases hins : u.inputs with
    | none => exact .inl (by simp only [apply, hins, Option.getD_none])
    | some ps =>
      have hnil : ps = [] := h.inputs ps hins (by rw [hk]; rfl)
      exact .inr (by simp only [apply, hins, Option.getD_some, hnil])
  header hk := by
    have hfixed : ¬ n.kind.headerEditable = true := by
      revert hk
      cases n.kind <;> decide
    obtain ⟨hlabel, hdesc⟩ := not_or.1 (mt h.header hfixed)
    simp only [Option.isSome_iff_ne_none, ne_eq, not_not] at hlabel hdesc
    simp [apply, hlabel, hdesc]

lemma Node.Altered.keeps {n m : Node} (h : n.Altered m) : n.Keeps m := by
  cases h with
  | kept => exact .refl n
  | moved p => exact { Keeps.refl n with }
  | updated h => exact h.keeps

namespace Session

/-! ### Origins -/

/-- Where a node comes from that a run leaves in the graph: it was there at the beginning, or an
operation added it, as new nodes of its kind are. It has not been taken out since. -/
inductive Origin (s : Session) (ops : List Operation) (n : Node) : Prop where
  | loaded (mem : n ∈ s.graph.nodes) (stays : .removeNode n.id ∉ ops)
  | added {early late : List Operation} {op : Operation} {label : String}
      (split : ops = early ++ op :: late) (free : ∀ k ∈ (s.run early).graph.nodes, k.id ≠ n.id)
      (mem : n ∈ ((s.run early).after op).graph.nodes)
      (template : n = .make n.id n.kind label n.position) (stays : .removeNode n.id ∉ late)

lemma Origin.snoc {s : Session} {ops : List Operation} {n : Node} (h : s.Origin ops n)
    {op : Operation} (hop : op ≠ .removeNode n.id) : s.Origin (ops ++ [op]) n := by
  have hsnoc : ∀ {late : List Operation}, .removeNode n.id ∉ late →
      .removeNode n.id ∉ late ++ [op] := by
    intro late hlate
    simp [hlate, Ne.symm hop]
  cases h with
  | loaded mem stays => exact .loaded mem (hsnoc stays)
  | added split free mem template stays =>
    exact .added (by rw [split, List.append_assoc, List.cons_append]) free mem template
      (hsnoc stays)

/-- A node that is not taken out is there after the run, and keeps what its kind protects. -/
lemma exists_keeps_run {s : Session} {ops : List Operation} {n : Node} (hn : n ∈ s.graph.nodes)
    (hops : .removeNode n.id ∉ ops) : ∃ m ∈ (s.run ops).graph.nodes, n.Keeps m := by
  induction ops generalizing s n with
  | nil => exact ⟨n, hn, .refl n⟩
  | cons op ops ih =>
    rw [List.mem_cons, not_or] at hops
    obtain ⟨gone, hchange, hgone⟩ := s.change_after op
    obtain ⟨k, hk, halt⟩ := hchange.exists_altered hn fun hmem => hops.1 (hgone _ hmem).symm
    obtain ⟨m, hm, hkeeps⟩ := ih hk (halt.id_eq ▸ hops.2)
    exact ⟨m, hm, halt.keeps.trans hkeeps⟩

lemma Origin.exists_keeps {s : Session} {ops : List Operation} {n : Node} (h : s.Origin ops n) :
    ∃ m ∈ (s.run ops).graph.nodes, n.Keeps m := by
  cases h with
  | loaded mem stays => exact exists_keeps_run mem stays
  | added split _ mem _ stays =>
    rw [split, run_append, run_cons]
    exact exists_keeps_run mem stays

lemma exists_origin (s : Session) (ops : List Operation) :
    ∀ m ∈ (s.run ops).graph.nodes, ∃ n, s.Origin ops n ∧ n.Keeps m := by
  -- on the last operation, since what counts is whether the id was free just before it
  induction ops using List.reverseRecOn with
  | nil => exact fun m hm => ⟨m, .loaded hm List.not_mem_nil, .refl m⟩
  | append_singleton ops op ih =>
    intro m hm
    rw [run_append] at hm
    obtain ⟨gone, hchange, -⟩ := (s.run ops).change_after op
    rcases hchange.source hm with ⟨k, hk, halt⟩ | ⟨hfree, label, hmake⟩
    · obtain ⟨n, horigin, hkeeps⟩ := ih k hk
      -- had the operation taken the id out, the node would not be here
      have hop : op ≠ .removeNode n.id := by
        rintro rfl
        exact id_ne_of_mem_removeNode m hm (halt.id_eq.trans hkeeps.id)
      exact ⟨n, horigin.snoc hop, hkeeps.trans halt.keeps⟩
    · exact ⟨m, .added rfl hfree hm hmake List.not_mem_nil, .refl m⟩

/-! ### New workflows -/

lemma notPrevented_run_new (ops : List Operation) :
    ∀ i ∈ (new.run ops).diagnose.issues, ¬i.problem.Prevented := by
  have hbare : ∀ n ∈ (new.run ops).graph.nodes,
      (n.kind = .start → n.inputs = []) ∧ (n.kind = .finish → n.outputs = []) := by
    refine nodes_run (P := fun n => (n.kind = .start → n.inputs = []) ∧
      (n.kind = .finish → n.outputs = [])) (fun _ kind _ _ => ⟨fun _ => rfl, ?_⟩) ?_ ?_ ops
    · rw [Node.kind_make]
      rintro rfl
      rfl
    · rintro n m ⟨hins, houts⟩ halt
      have hkeeps := halt.keeps
      refine ⟨fun hk => ?_, fun hk => ?_⟩ <;> rw [hkeeps.kind] at hk
      · exact (hkeeps.startInputs hk).elim (·.trans (hins hk)) id
      · exact (hkeeps.fixedOutputs (by simp [hk])).trans (houts hk)
    · decide
  exact Diagnosis.notPrevented_of_wired (wired_run_new ops) (fun n hn => (hbare n hn).1)
    fun n hn => (hbare n hn).2

/-! ### Policies over whole runs -/

/-- What the kinds of nodes protect, after a run. -/
structure PoliciesHold (s : Session) (ops : List Operation) : Prop where
  /-- A node that is not taken out is still there. -/
  survives : ∀ n, s.Origin ops n → ∃ m ∈ (s.run ops).graph.nodes, n.Keeps m
  /-- No node comes from elsewhere. -/
  origin : ∀ m ∈ (s.run ops).graph.nodes, ∃ n, s.Origin ops n ∧ n.Keeps m
  /-- Outputs that a user may declare were loaded, or have the types that are on offer. -/
  editableOutputs : ∀ m ∈ (s.run ops).graph.nodes, m.kind ∈ [.mcp, .vision, .intent] →
    (∃ n ∈ s.graph.nodes, n.id = m.id ∧ m.outputs = n.outputs) ∨
      ∀ p ∈ m.outputs, p.type = .string ∨ p.type = .number ∨ p.type = .boolean
  /-- Inputs of a start node were loaded. -/
  startInputs : ∀ m ∈ (s.run ops).graph.nodes, m.kind = .start →
    (∃ n ∈ s.graph.nodes, n.id = m.id ∧ m.inputs = n.inputs) ∨ m.inputs = []
  /-- Free-form data does not use the names of typed members. -/
  unreserved : ∀ m ∈ (s.run ops).graph.nodes, ∀ key ∈ m.extra.keys, m.kind.isReserved key = false

lemma policiesHold_of_begun {s : Session} (hs : s.Begun) (ops : List Operation) :
    s.PoliciesHold ops where
  survives _ horigin := horigin.exists_keeps
  origin := s.exists_origin ops
  editableOutputs m hm hk := by
    obtain ⟨n, horigin, hkeeps⟩ := s.exists_origin ops m hm
    rw [hkeeps.kind] at hk
    rcases hkeeps.editableOutputs hk with heq | hsel
    · cases horigin with
      | loaded mem _ => exact .inl ⟨n, mem, hkeeps.id.symm, heq⟩
      | added _ _ _ template _ =>
        have hnone : n.outputs = n.kind.defaultOutputs := congrArg Node.outputs template
        have hdefault : n.kind.defaultOutputs = [] := by
          revert hk
          cases n.kind <;> decide
        rw [heq, hnone, hdefault]
        exact .inr (by simp)
    · exact .inr hsel
  startInputs m hm hk := by
    obtain ⟨n, horigin, hkeeps⟩ := s.exists_origin ops m hm
    rw [hkeeps.kind] at hk
    rcases hkeeps.startInputs hk with heq | hnil
    · cases horigin with
      | loaded mem _ => exact .inl ⟨n, mem, hkeeps.id.symm, heq⟩
      | added _ _ _ template _ => exact .inr (heq.trans (congrArg Node.inputs template))
    · exact .inr hnil
  unreserved m hm := (tidy_run hs ops m hm).isReserved_eq_false

/-- **The policies of the kinds hold over whole runs**, whatever the operations and whether they
succeed; over a new workflow, the problems that they guard against are never reported. -/
theorem policiesHold_run {s : Session} (hs : s.Begun) (ops : List Operation) :
    s.PoliciesHold ops ∧ ∀ i ∈ (new.run ops).diagnose.issues, ¬i.problem.Prevented :=
  ⟨policiesHold_of_begun hs ops, notPrevented_run_new ops⟩

/-- A saved start node with an input, and a node whose declared output has a type not on offer. -/
def sampleFlow : SavedFlow where
  nodes :=
    [⟨"s", "start", none, .ofMembers
        [("label", .string "S"), ("input_params", .array [.object [("name", .string "q")]])]⟩,
      ⟨"m", "common", none, .ofMembers
        [("originalType", .string "mcp"),
          ("output_params", .array [.object [("name", .string "r"), ("type", .string "object")]])]⟩]
  edges := []

/-- The label of the start node is refused; its inputs may be dropped, and the output replaced. -/
def sampleOperations : List Operation :=
  [.updateNode "s" { Update.empty with label := some "T" },
    .updateNode "s" { Update.empty with inputs := some [] },
    .updateNode "m" { Update.empty with outputs := some [.make "r" .boolean "flag"] }]

theorem policiesHold_sampleOperations :
    ∃ s, openFlow "a" sampleFlow = .ok s ∧
      (s.graph.nodes.map fun n => (n.label, n.inputs.length)) = [("S", 1), ("", 0)] ∧
      ((s.run sampleOperations).graph.nodes.map fun n => (n.label, n.inputs.length)) =
        [("S", 0), ("", 0)] ∧
      s.PoliciesHold sampleOperations ∧
      ∀ i ∈ (new.run sampleOperations).diagnose.issues, ¬i.problem.Prevented := by
  obtain ⟨s, hopen, hbefore, hafter⟩ := exists_openFlow "a" sampleFlow
    (P := fun s => (s.graph.nodes.map fun n => (n.label, n.inputs.length)) = [("S", 1), ("", 0)] ∧
      ((s.run sampleOperations).graph.nodes.map fun n => (n.label, n.inputs.length)) =
        [("S", 0), ("", 0)])
    (by decide +kernel)
  obtain ⟨hpolicies, hprevented⟩ := policiesHold_run (.opened hopen) sampleOperations
  exact ⟨s, hopen, hbefore, hafter, hpolicies, hprevented⟩

end Session

end AgentFlow
