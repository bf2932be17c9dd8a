import AgentFlow.Proofs.Saved.Stability
import AgentFlow.Proofs.Workflow.Gate
import AgentFlow.Proofs.Workflow.Offering
import AgentFlow.Proofs.Workflow.Passes

/-!
Diagnoses of workflows that were saved again.

A loaded workflow is saved and loaded without a change but for temperatures that are not finite. A
text such as `inf` is read as one, and none can be saved: it comes back as the default. What was
reported of it is gone with it, and all else is reported as before.
-/

namespace AgentFlow

/-- The problem is one of a temperature that cannot be saved. -/
def Problem.isForgotten : Problem → Bool
  | .temperatureOutOfRange t => !t.isFinite
  | _ => false

lemma Problem.pass_of_isForgotten {p : Problem} (h : p.isForgotten = true) : p.pass = .config := by
  cases p <;> first | rfl | cases h

namespace Diagnosis

lemma filter_isForgotten_of_pass {ps : List Problem} (h : ∀ p ∈ ps, p.pass ≠ .config) :
    ps.filter (fun p => !p.isForgotten) = ps := by
  refine List.filter_eq_self.2 fun p hp => ?_
  rw [Bool.not_eq_true', ← Bool.not_eq_true]
  exact fun hforgotten => h p hp (Problem.pass_of_isForgotten hforgotten)

lemma exists_isForgotten_iff {c : Config} :
    (∃ p ∈ config c, p.isForgotten = true) ↔ c.hasFiniteTemperature = false := by
  cases c with
  | llm settings =>
    rw [config, Config.hasFiniteTemperature]
    split
    · next hrange => simp [(temperatureInRange_iff.1 hrange).1]
    · next hrange => simp [Problem.isForgotten]
  | knowledge base => cases base <;> simp [config, Config.hasFiniteTemperature, Problem.isForgotten]
  | tool name => cases name <;> simp [config, Config.hasFiniteTemperature, Problem.isForgotten]
  | _ => simp [config, Config.hasFiniteTemperature]

/-- Normalising a configuration that was loaded loses what cannot be saved, and nothing else. -/
lemma config_normalized {s : SavedNode} {k : Kind} {c : Config} (h : s.config? k = .ok c) :
    config c.normalized = (config c).filter fun p => !p.isForgotten := by
  cases htemp : c.hasFiniteTemperature with
  | true =>
    rw [SavedNode.normalized_of_config? h htemp]
    refine (List.filter_eq_self.2 fun p hp => ?_).symm
    rw [Bool.not_eq_true', ← Bool.not_eq_true]
    intro hforgotten
    have hnot := exists_isForgotten_iff.1 ⟨p, hp, hforgotten⟩
    rw [htemp] at hnot
    cases hnot
  | false =>
    cases c with
    | llm settings =>
      have hinfinite : ¬settings.temperature.isFinite = true := by
        simpa [Config.hasFiniteTemperature] using htemp
      have hdefault : temperatureInRange (.ofRatio false 7 10) = true := by decide
      have hold : ¬temperatureInRange settings.temperature = true := fun hrange =>
        hinfinite (temperatureInRange_iff.1 hrange).1
      simp only [Config.normalized, config, if_neg hinfinite, if_pos hdefault, if_neg hold]
      simp [Problem.isForgotten, hinfinite]
    | _ => cases htemp

end Diagnosis

lemma Config.kind_normalized (c : Config) : c.normalized.kind = c.kind := by
  cases c <;> rfl

namespace Graph

open Diagnosis hiding edges node

/-- The workflow `h` is reported as `g` is, but for temperatures that cannot be saved. -/
structure ReportsAsSaved (g h : Graph) : Prop where
  issues : h.diagnose.issues = g.diagnose.issues.filter fun i => !i.problem.isForgotten
  same : h.diagnose = g.diagnose ↔ ∀ n ∈ g.nodes, n.config.hasFiniteTemperature = true

lemma filter_isForgotten_map {owner : Option String} {ps : List Problem} :
    (ps.map (Issue.mk owner)).filter (fun i => !i.problem.isForgotten) =
      (ps.filter fun p => !p.isForgotten).map (Issue.mk owner) := List.filter_map

lemma filter_isForgotten_diagnose (g : Graph) :
    (g.diagnose.issues.filter fun i => !i.problem.isForgotten) =
      (terminals g.nodes).map (⟨none, ·⟩) ++ Diagnosis.edges g [] g.edges ++
        g.nodes.flatMap fun n =>
          (params n ++ (config n.config).filter (fun p => !p.isForgotten) ++ bindings g n).map
            (⟨some n.id, ·⟩) := by
  have hterminals : (terminals g.nodes).filter (fun p => !p.isForgotten) = terminals g.nodes :=
    filter_isForgotten_of_pass fun p hp => by simp [pass_of_mem_terminals hp]
  have hedges : (Diagnosis.edges g [] g.edges).filter (fun i => !i.problem.isForgotten) =
      Diagnosis.edges g [] g.edges := by
    refine List.filter_eq_self.2 fun i hi => ?_
    rw [Bool.not_eq_true', ← Bool.not_eq_true]
    intro hforgotten
    cases (pass_of_mem_edges hi).symm.trans (Problem.pass_of_isForgotten hforgotten)
  have hnode : ∀ n ∈ g.nodes, (Diagnosis.node g n).filter (fun i => !i.problem.isForgotten) =
      (params n ++ (config n.config).filter (fun p => !p.isForgotten) ++ bindings g n).map
        (⟨some n.id, ·⟩) := by
    intro n hn
    have hparams : (params n).filter (fun p => !p.isForgotten) = params n :=
      filter_isForgotten_of_pass fun p hp => by simp [pass_of_mem_params hp]
    have hbindings : (bindings g n).filter (fun p => !p.isForgotten) = bindings g n :=
      filter_isForgotten_of_pass fun p hp => by simp [pass_of_mem_bindings hp]
    rw [Diagnosis.node, filter_isForgotten_map, List.filter_append, List.filter_append, hparams,
      hbindings]
  simp only [diagnose, List.filter_append, filter_isForgotten_map, hterminals, hedges,
    List.filter_flatMap, List.flatMap_congr hnode]

lemma exists_isForgotten_diagnose_iff (g : Graph) :
    (∃ i ∈ g.diagnose.issues, i.problem.isForgotten = true) ↔
      ∃ n ∈ g.nodes, n.config.hasFiniteTemperature = false := by
  constructor
  · rintro ⟨⟨owner, p⟩, hi, hforgotten⟩
    obtain ⟨n, hn, -, hp⟩ := (mem_issues_config_iff (Problem.pass_of_isForgotten hforgotten)).1 hi
    exact ⟨n, hn, exists_isForgotten_iff.1 ⟨p, hp, hforgotten⟩⟩
  · rintro ⟨n, hn, htemp⟩
    obtain ⟨p, hp, hforgotten⟩ := exists_isForgotten_iff.2 htemp
    have hi := (mem_issues_config_iff (Problem.pass_of_isForgotten hforgotten)).2 ⟨n, hn, rfl, hp⟩
    exact ⟨⟨some n.id, p⟩, hi, hforgotten⟩

lemma offersAlike_of_decode {f : SavedFlow} {g h : Graph} (hf : f.decode = .ok g)
    (hnodes : h.nodes = g.nodes.map Node.normalized)
    (hedges : h.edges = g.edges.map Edge.normalized) : OffersAlike Node.normalized g h := by
  obtain ⟨hsaved, hloaded⟩ := sources_of_decode hf
  refine ⟨hnodes, ?_, fun _ _ => rfl, fun n hn => ?_⟩
  · rw [hedges, hloaded, List.map_map]
    exact List.map_congr_left fun e _ => e.normalized_decode
  · obtain ⟨s, -, hs⟩ := hsaved n hn
    exact (SavedNode.tidy_of_decode hs).1.outputs

/-- **Saving a loaded workflow again keeps its report** but for the temperatures that are not
finite: these come back as the default, and what was reported of them is reported no more. -/
theorem reportsAsSaved_of_decode {f : SavedFlow} {g : Graph} (hf : f.decode = .ok g) :
    ∃ h, g.encode.decode = .ok h ∧ g.ReportsAsSaved h := by
  obtain ⟨h, hload, hnodes, hedges⟩ := g.exists_decode_encode
  have hissues : h.diagnose.issues = g.diagnose.issues.filter fun i => !i.problem.isForgotten := by
    have hconfig : ∀ n ∈ g.nodes, config n.normalized.config =
        (config n.config).filter fun p => !p.isForgotten := by
      intro n hn
      obtain ⟨s, -, hs⟩ := (sources_of_decode hf).1 n hn
      exact config_normalized (SavedNode.tidy_of_decode hs).2
    rw [(offersAlike_of_decode hf hnodes hedges).issues_eq (fun n _ => n.config.kind_normalized)
      (fun _ _ => rfl), filter_isForgotten_diagnose]
    refine congrArg (_ ++ ·) (List.flatMap_congr fun n hn => ?_)
    rw [hconfig n hn]
  refine ⟨h, hload, hissues, ?_⟩
  have hsame : h.diagnose = g.diagnose ↔ h.diagnose.issues = g.diagnose.issues :=
    ⟨congrArg Report.issues, congrArg Report.mk⟩
  rw [hsame, hissues, List.filter_eq_self]
  have hforgotten := not_congr g.exists_isForgotten_diagnose_iff
  simpa using hforgotten

/-- A saved flow whose temperature is entered as a text. -/
def infiniteFlow : SavedFlow where
  nodes :=
    [⟨"s", "start", none, .empty⟩,
      ⟨"l", "llm", none, .ofMembers [("temperature", .string "inf")]⟩,
      ⟨"e", "end", none, .empty⟩]
  edges := []

/-- The temperature is reported before the workflow is saved, and not afterwards. -/
theorem reportsAsSaved_infiniteFlow :
    ∃ g h, infiniteFlow.decode = .ok g ∧ g.encode.decode = .ok h ∧ g.ReportsAsSaved h ∧
      g.diagnose.isOk = false ∧ h.diagnose.issues = [] ∧ h.diagnose ≠ g.diagnose := by
  obtain ⟨g, hf, hreported, hfiltered⟩ := exists_ok_of_any (x := infiniteFlow.decode)
    (P := fun g => g.diagnose.isOk = false ∧
      (g.diagnose.issues.filter fun i => !i.problem.isForgotten) = [])
    (by decide +kernel)
  obtain ⟨h, hload, hreports⟩ := reportsAsSaved_of_decode hf
  have hnone : h.diagnose.issues = [] := hreports.issues.trans hfiltered
  refine ⟨g, h, hf, hload, hreports, hreported, hnone, fun hsame => ?_⟩
  have hok : h.diagnose.isOk = true := by simp [Report.isOk, Report.errors, hnone]
  rw [hsame, hreported] at hok
  cases hok

/-- A report need not stay as it was. -/
theorem not_same_infiniteFlow :
    ¬∀ (f : SavedFlow) (g h : Graph), f.decode = .ok g → g.encode.decode = .ok h →
      h.diagnose.issues = g.diagnose.issues := by
  intro hsame
  obtain ⟨g, hf, hagain⟩ := exists_ok_of_any (x := infiniteFlow.decode)
    (P := fun g => g.encode.decode.toOption.any fun h =>
      h.diagnose.issues ≠ g.diagnose.issues)
    (by decide +kernel)
  obtain ⟨h, hload, hne⟩ := exists_ok_of_any hagain
  exact hne (hsame infiniteFlow g h hf hload)

end Graph

end AgentFlow
