import Mathlib.Data.List.Nodup
import AgentFlow.Workflow.Diagnosis

/-!
The passes of a diagnosis.

Each pass reports problems of its own. The report is the passes one after the other, so that what
one of them found of a node can be read off the report again.
-/

namespace AgentFlow

namespace Problem

/-- The parts of a workflow that are looked at one after the other. -/
inductive Pass where
  | terminals
  | edges
  | params
  | config
  | bindings
deriving DecidableEq

def pass : Problem → Pass
  | .missingStart | .multipleStarts _ | .missingEnd => .terminals
  | .danglingEdge _ _ | .selfLoop _ | .duplicateEdge _ => .edges
  | .inputsOnStart | .outputsOnEnd | .duplicateOutput _ => .params
  | .temperatureOutOfRange _ | .missingKnowledgeBase | .missingTool => .config
  | .unboundInput _ | .malformedBinding _ _ | .unreachableBinding _ _ => .bindings

/-- Problems of one pass are kept or dropped together. -/
lemma filter_pass {ps : List Problem} {pass : Pass} (h : ∀ p ∈ ps, p.pass = pass)
    (wanted : Pass) : ps.filter (·.pass = wanted) = if pass = wanted then ps else [] := by
  split
  · next heq => exact List.filter_eq_self.2 fun p hp => decide_eq_true ((h p hp).trans heq)
  · next hne =>
    exact List.filter_eq_nil_iff.2 fun p hp => by simpa [h p hp] using hne

end Problem

namespace Diagnosis

open Problem (Pass)

variable {g : Graph} {n : Node} {p : Problem}

lemma pass_of_mem_terminals {nodes : List Node} (h : p ∈ terminals nodes) :
    p.pass = .terminals := by
  rcases List.mem_append.1 h with h | h
  · split at h
    · obtain rfl := List.mem_singleton.1 h
      rfl
    · obtain ⟨-, h⟩ := List.mem_ite_nil_left.1 h
      obtain rfl := List.mem_singleton.1 h
      rfl
  · obtain ⟨-, h⟩ := List.mem_ite_nil_left.1 h
    obtain rfl := List.mem_singleton.1 h
    rfl

lemma pass_of_mem_edges {seen : List Connection} {es : List Edge} {i : Issue}
    (h : i ∈ edges g seen es) : i.problem.pass = .edges := by
  induction es generalizing seen with
  | nil => cases h
  | cons e es ih =>
    simp only [edges, edge, List.mem_append, List.mem_map, List.mem_ite_nil_right,
      List.mem_singleton] at h
    rcases h with ((⟨id, -, rfl⟩ | ⟨-, rfl⟩) | ⟨-, rfl⟩) | h
    · rfl
    · rfl
    · rfl
    · exact ih h

lemma pass_of_mem_params (h : p ∈ params n) : p.pass = .params := by
  simp only [params, List.mem_append, List.mem_map, List.mem_ite_nil_right,
    List.mem_singleton] at h
  rcases h with (⟨-, rfl⟩ | ⟨-, rfl⟩) | ⟨name, -, rfl⟩
  · rfl
  · rfl
  · rfl

lemma pass_of_mem_config {c : Config} (h : p ∈ config c) : p.pass = .config := by
  unfold config at h
  split at h
  · obtain ⟨-, h⟩ := List.mem_ite_nil_left.1 h
    obtain rfl := List.mem_singleton.1 h
    rfl
  · obtain rfl := List.mem_singleton.1 h
    rfl
  · obtain rfl := List.mem_singleton.1 h
    rfl
  · cases h

lemma pass_of_mem_bindings (h : p ∈ bindings g n) : p.pass = .bindings := by
  obtain ⟨input, -, hp⟩ := List.mem_filterMap.1 h
  unfold binding at hp
  split at hp
  · cases hp; rfl
  · cases hp; rfl
  · split at hp
    · cases hp
    · cases hp; rfl

end Diagnosis

/-! ### Reading a pass off the report -/

/-- What a pass reports of a node, in the order of the report. -/
def Report.ofNode (r : Report) (pass : Problem.Pass) (id : String) : List Problem :=
  ((r.forNode id).map Issue.problem).filter (·.pass = pass)

lemma Report.mem_ofNode_iff {r : Report} {pass : Problem.Pass} {id : String} {p : Problem} :
    p ∈ r.ofNode pass id ↔ ⟨some id, p⟩ ∈ r.issues ∧ p.pass = pass := by
  simp only [ofNode, forNode, List.mem_filter, List.mem_map, decide_eq_true_eq]
  refine and_congr_left fun _ => ⟨?_, fun h => ⟨_, ⟨h, rfl⟩, rfl⟩⟩
  rintro ⟨⟨owner, q⟩, ⟨hmem, rfl⟩, rfl⟩
  exact hmem

/-- A pass reports a problem of a node as often as the report has it. -/
lemma Report.count_ofNode {r : Report} {pass : Problem.Pass} {id : String} {p : Problem}
    (hp : p.pass = pass) : (r.ofNode pass id).count p = r.issues.count ⟨some id, p⟩ := by
  rw [ofNode, forNode, List.count_filter (by simpa using hp), List.count, List.count,
    List.countP_map, List.countP_filter]
  refine List.countP_congr fun i _ => ?_
  obtain ⟨owner, q⟩ := i
  simp [and_comm]

lemma flatMap_eq_of_nodup {α β : Type} {l : List α} {f : α → List β} {a : α} (hnd : l.Nodup)
    (ha : a ∈ l) (hf : ∀ b ∈ l, b ≠ a → f b = []) : l.flatMap f = f a := by
  obtain ⟨front, back, rfl⟩ := List.append_of_mem ha
  have hnot : a ∉ front ∧ a ∉ back := by
    rw [List.nodup_middle, List.nodup_cons, List.mem_append, not_or] at hnd
    exact hnd.1
  have hfront : front.flatMap f = [] := List.flatMap_eq_nil_iff.2 fun b hb =>
    hf b (by simp [hb]) fun h => hnot.1 (h ▸ hb)
  have hback : back.flatMap f = [] := List.flatMap_eq_nil_iff.2 fun b hb =>
    hf b (by simp [hb]) fun h => hnot.2 (h ▸ hb)
  rw [List.flatMap_append, List.flatMap_cons, hfront, hback, List.nil_append, List.append_nil]

namespace Graph

variable {g : Graph} {n : Node}

/-- What is reported of the nodes is what is found of each of them. -/
lemma mem_issues_iff {owner : Option String} {p : Problem} (hterminals : p.pass ≠ .terminals)
    (hedges : p.pass ≠ .edges) :
    ⟨owner, p⟩ ∈ g.diagnose.issues ↔ ∃ n ∈ g.nodes, owner = some n.id ∧
      p ∈ Diagnosis.params n ++ Diagnosis.config n.config ++ Diagnosis.bindings g n := by
  have hterminal : ⟨owner, p⟩ ∉ (Diagnosis.terminals g.nodes).map (Issue.mk none) := by
    intro h
    obtain ⟨q, hq, hqp⟩ := List.mem_map.1 h
    obtain rfl : q = p := congrArg Issue.problem hqp
    exact hterminals (Diagnosis.pass_of_mem_terminals hq)
  have hedge : ⟨owner, p⟩ ∉ Diagnosis.edges g [] g.edges := fun h =>
    hedges (Diagnosis.pass_of_mem_edges h)
  have hnode : ∀ n, ⟨owner, p⟩ ∈ Diagnosis.node g n ↔ owner = some n.id ∧
      p ∈ Diagnosis.params n ++ Diagnosis.config n.config ++ Diagnosis.bindings g n := by
    intro n
    rw [Diagnosis.node, List.mem_map]
    constructor
    · rintro ⟨q, hq, heq⟩
      cases heq
      exact ⟨rfl, hq⟩
    · rintro ⟨rfl, hp⟩
      exact ⟨p, hp, rfl⟩
  rw [diagnose, List.mem_append, List.mem_append, List.mem_flatMap]
  simp only [hterminal, hedge, false_or, hnode]

lemma mem_issues_config_iff {owner : Option String} {p : Problem} (hp : p.pass = .config) :
    ⟨owner, p⟩ ∈ g.diagnose.issues ↔
      ∃ n ∈ g.nodes, owner = some n.id ∧ p ∈ Diagnosis.config n.config := by
  rw [mem_issues_iff (by simp [hp]) (by simp [hp])]
  refine exists_congr fun n => and_congr_right fun _ => and_congr_right fun _ => ?_
  have hparams : p ∉ Diagnosis.params n := fun h => by
    cases (Diagnosis.pass_of_mem_params h).symm.trans hp
  have hbindings : p ∉ Diagnosis.bindings g n := fun h => by
    cases (Diagnosis.pass_of_mem_bindings h).symm.trans hp
  simp only [List.mem_append, hparams, hbindings, false_or, or_false]

/-- What is reported of the edges is what is found of them one after the other. -/
lemma filter_edges_diagnose (g : Graph) :
    g.diagnose.issues.filter (·.problem.pass = .edges) = Diagnosis.edges g [] g.edges := by
  have hother : ∀ (owner : Option String) (ps : List Problem), (∀ p ∈ ps, p.pass ≠ .edges) →
      (ps.map (Issue.mk owner)).filter (·.problem.pass = .edges) = [] := by
    intro owner ps h
    refine List.filter_eq_nil_iff.2 fun i hi => ?_
    obtain ⟨p, hp, rfl⟩ := List.mem_map.1 hi
    simpa using h p hp
  have hterminals := hother none (Diagnosis.terminals g.nodes) fun p hp => by
    simp [Diagnosis.pass_of_mem_terminals hp]
  have hedges : (Diagnosis.edges g [] g.edges).filter (·.problem.pass = .edges) =
      Diagnosis.edges g [] g.edges :=
    List.filter_eq_self.2 fun i hi => decide_eq_true (Diagnosis.pass_of_mem_edges hi)
  have hnode : ∀ n, (Diagnosis.node g n).filter (·.problem.pass = .edges) = [] := by
    intro n
    refine hother _ _ fun p hp => ?_
    rw [List.mem_append, List.mem_append] at hp
    rcases hp with (hp | hp) | hp
    · simp [Diagnosis.pass_of_mem_params hp]
    · simp [Diagnosis.pass_of_mem_config hp]
    · simp [Diagnosis.pass_of_mem_bindings hp]
  have hnodes : (g.nodes.flatMap (Diagnosis.node g)).filter (·.problem.pass = .edges) = [] := by
    rw [List.filter_flatMap, List.flatMap_eq_nil_iff]
    exact fun n _ => hnode n
  rw [diagnose, List.filter_append, List.filter_append, hterminals, hedges, hnodes,
    List.nil_append, List.append_nil]

/-- The issues that a node heads are those of its own passes, but for those of the edges. -/
lemma forNode_diagnose (hn : n ∈ g.nodes) :
    g.diagnose.forNode n.id =
      (Diagnosis.edges g [] g.edges).filter (·.node = some n.id) ++ Diagnosis.node g n := by
  have hterminals : ((Diagnosis.terminals g.nodes).map (Issue.mk none)).filter
      (·.node = some n.id) = [] := by
    rw [List.filter_eq_nil_iff]
    intro i hi
    obtain ⟨p, -, rfl⟩ := List.mem_map.1 hi
    simp
  have hown : ∀ m, (Diagnosis.node g m).filter (·.node = some n.id) =
      if m.id = n.id then Diagnosis.node g m else [] := by
    intro m
    split
    · next hid =>
      refine List.filter_eq_self.2 fun i hi => ?_
      obtain ⟨p, -, rfl⟩ := List.mem_map.1 hi
      simpa using hid
    · next hid =>
      refine List.filter_eq_nil_iff.2 fun i hi => ?_
      obtain ⟨p, -, rfl⟩ := List.mem_map.1 hi
      simpa using hid
  have hnodes : (g.nodes.flatMap (Diagnosis.node g)).filter (·.node = some n.id) =
      Diagnosis.node g n := by
    rw [List.filter_flatMap, flatMap_eq_of_nodup g.nodup_nodes hn, hown, if_pos rfl]
    intro m hm hne
    rw [hown, if_neg]
    exact fun hid => hne (List.inj_on_of_nodup_map g.nodup_ids hm hn hid)
  rw [Report.forNode, diagnose, List.filter_append, List.filter_append, hterminals, hnodes,
    List.nil_append]

/-- What a pass over the nodes reports of a node is what it finds of it. -/
lemma ofNode_diagnose (hn : n ∈ g.nodes) {pass : Problem.Pass} (hpass : pass ≠ .edges) :
    g.diagnose.ofNode pass n.id =
      (Diagnosis.params n).filter (·.pass = pass) ++
        (Diagnosis.config n.config).filter (·.pass = pass) ++
          (Diagnosis.bindings g n).filter (·.pass = pass) := by
  have hedges : (((Diagnosis.edges g [] g.edges).filter (·.node = some n.id)).map
      Issue.problem).filter (·.pass = pass) = [] := by
    rw [List.filter_eq_nil_iff]
    intro p hp
    obtain ⟨i, hi, rfl⟩ := List.mem_map.1 hp
    simpa [Diagnosis.pass_of_mem_edges (List.mem_of_mem_filter hi)] using hpass.symm
  have hproblems : (Diagnosis.node g n).map Issue.problem =
      Diagnosis.params n ++ Diagnosis.config n.config ++ Diagnosis.bindings g n := by
    rw [Diagnosis.node, List.map_map]
    exact List.map_id' _
  rw [Report.ofNode, forNode_diagnose hn, List.map_append, List.filter_append, hedges, hproblems,
    List.nil_append, List.filter_append, List.filter_append]

lemma ofNode_params_diagnose (hn : n ∈ g.nodes) :
    g.diagnose.ofNode .params n.id = Diagnosis.params n := by
  rw [ofNode_diagnose hn (by decide),
    Problem.filter_pass fun _ => Diagnosis.pass_of_mem_params,
    Problem.filter_pass fun _ => Diagnosis.pass_of_mem_config,
    Problem.filter_pass fun _ => Diagnosis.pass_of_mem_bindings]
  simp

lemma ofNode_bindings_diagnose (hn : n ∈ g.nodes) :
    g.diagnose.ofNode .bindings n.id = Diagnosis.bindings g n := by
  rw [ofNode_diagnose hn (by decide),
    Problem.filter_pass fun _ => Diagnosis.pass_of_mem_params,
    Problem.filter_pass fun _ => Diagnosis.pass_of_mem_config,
    Problem.filter_pass fun _ => Diagnosis.pass_of_mem_bindings]
  simp

lemma mem_issues_bindings_iff (hn : n ∈ g.nodes) {p : Problem} (hp : p.pass = .bindings) :
    ⟨some n.id, p⟩ ∈ g.diagnose.issues ↔ p ∈ Diagnosis.bindings g n := by
  rw [← ofNode_bindings_diagnose hn, Report.mem_ofNode_iff, and_iff_left hp]

end Graph

end AgentFlow
