import AgentFlow.Proofs.Editor.Numbering
import AgentFlow.Proofs.Workflow.Verdicts

/-!
References to nodes that were taken out.

An input keeps the text of its source when the node that it names is taken out. The text stays
flagged until it names an output upstream again. No node that an operation adds brings this about by
its id, but for one: the numbers skip only ids in use, so that a numbered id that was loaded is
handed out again when its node is gone. Apart from that, a reference is read up to the first
separator, and a loaded id may hold a separator itself.
-/

namespace AgentFlow

open Text

/-! ### Reports of bindings -/

/-- The source of the input reads as a reference to an output of the node of this id. -/
def InputParam.RefersTo (input : InputParam) (id : String) : Prop :=
  (input.source.bind Reference.parse?).map Reference.node = some id

instance (input : InputParam) (id : String) : Decidable (input.RefersTo id) :=
  inferInstanceAs (Decidable (_ = _))

lemma InputParam.refersTo_iff {input : InputParam} {id : String} : input.RefersTo id ↔
    ∃ text r, input.source = some text ∧ Reference.parse? text = some r ∧ r.node = id := by
  simp [RefersTo, Option.bind_eq_some_iff]

/-- The report says that no node upstream produces what the input of the node is bound to. -/
def Report.Flags (r : Report) (n : Node) (input : InputParam) : Prop :=
  ⟨some n.id, .unreachableBinding input.name (input.source.getD "")⟩ ∈ r.issues

instance (r : Report) (n : Node) (input : InputParam) : Decidable (r.Flags n input) :=
  inferInstanceAs (Decidable (_ ∈ _))

namespace Graph

/-- A reference is flagged unless its text names an output of a node upstream. -/
lemma flags_or_produces {g : Graph} {n : Node} {input : InputParam} {text : String} {r : Reference}
    (hn : n ∈ g.nodes) (hinput : input ∈ n.inputs) (hsource : input.source = some text)
    (hparse : Reference.parse? text = some r) :
    g.diagnose.Flags n input ∨ ∃ a, g.Produces a n text := by
  rw [or_iff_not_imp_right]
  intro hnone
  have hfinding : g.finding n input = some (.unreachableBinding input.name text) :=
    finding_of_verdict (.unreachable hsource (isShape_iff.2 ⟨r, hparse⟩) fun a ha =>
      hnone ⟨a, ha⟩)
  have hfound : Problem.unreachableBinding input.name text ∈ Diagnosis.bindings g n :=
    List.mem_filterMap.2 ⟨input, hinput, hfinding⟩
  rw [Report.Flags, hsource]
  exact (mem_issues_bindings_iff hn rfl).2 hfound

end Graph

/-! ### Numbered ids -/

lemma Graph.dot_notMem_numberedId {k : ℕ} : '.' ∉ (numberedId k).toList := by
  intro h
  rcases isDigit_of_mem_numberedId h with h | h <;> revert h <;> decide

lemma Graph.hyphen_notMem_numberedId {k : ℕ} : '-' ∉ (numberedId k).toList := by
  intro h
  rcases isDigit_of_mem_numberedId h with h | h <;> revert h <;> decide

/-! ### Nodes that pass for others -/

namespace Session

/-- How a node can pass for the node `x` that was taken out: it has the id of `x`, which was loaded
and is the id of a number, or it was loaded with an id that goes on behind `x` with a separator. -/
inductive PassesFor (s : Session) (x : String) : String → Prop where
  | handedOut (k : ℕ) (number : x = Graph.numberedId k) (loaded : ∃ n ∈ s.graph.nodes, n.id = x) :
    s.PassesFor x x
  | longer (rest : String) (loaded : ∃ n ∈ s.graph.nodes, n.id = x ++ ".output" ++ rest) :
    s.PassesFor x (x ++ ".output" ++ rest)

/-- A node that is taken out is out of use for good, unless it was loaded with a numbered id. -/
lemma retired_after_removeNode {s : Session} {early : List Operation} {x : String}
    (hx : ∃ n ∈ (s.run early).graph.nodes, n.id = x)
    (hfresh : ∀ k, x = Graph.numberedId k → ∀ n ∈ s.graph.nodes, n.id ≠ x) :
    ((s.run early).after (.removeNode x)).graph.Retired x where
  unused := id_ne_of_mem_removeNode
  passed k hk := by
    obtain ⟨n, hn, rfl⟩ := hx
    rcases s.id_source_run early n hn with ⟨m, hm, hmn⟩ | ⟨j, hj, hid⟩
    · exact absurd hmn (hfresh k hk m hm)
    · cases Graph.numberedId_injective (hk.symm.trans hid)
      exact Nat.lt_of_lt_of_le hj ((s.run early).renumbers_after _).nextNumber_le

lemma not_passesFor_new {x id : String} : ¬new.PassesFor x id := by
  have hids : ∀ n ∈ new.graph.nodes, '-' ∈ n.id.toList ∧ '.' ∉ n.id.toList := by decide
  rintro (⟨k, rfl, n, hn, hid⟩ | ⟨rest, n, hn, hid⟩)
  · exact Graph.hyphen_notMem_numberedId (hid ▸ (hids n hn).1)
  · refine (hids n hn).2 ?_
    rw [hid]
    simp

/-- The ids that are handed out hold no dots. -/
lemma exists_loaded_of_dot {s : Session} {ops : List Operation} {n : Node}
    (hn : n ∈ (s.run ops).graph.nodes) (hdot : '.' ∈ n.id.toList) :
    ∃ m ∈ s.graph.nodes, m.id = n.id := by
  refine (s.id_source_run ops n hn).resolve_right ?_
  rintro ⟨k, -, hk⟩
  exact Graph.dot_notMem_numberedId (hk ▸ hdot)

lemma passesFor_of_produces {s : Session} {early late : List Operation} {x text : String}
    {r : Reference} {a n : Node} (hx : ∃ n ∈ (s.run early).graph.nodes, n.id = x)
    (hparse : Reference.parse? text = some r) (hnode : r.node = x)
    (ha : (s.run (early ++ .removeNode x :: late)).graph.Produces a n text) :
    s.PassesFor x a.id := by
  obtain ⟨p, -, htext⟩ := ha.output
  have hread : Reference.parse? (Reference.mk a.id p.name).toString = some r := by
    rw [← hparse, htext]
    rfl
  rcases Reference.parse?_toString_eq hread with rfl | ⟨rest, hlonger, -⟩
  · have hid : a.id = x := hnode
    rw [hid]
    by_contra hnot
    have hretired := retired_after_removeNode hx fun k hk m hm hmx =>
      hnot (.handedOut k hk ⟨m, hm, hmx⟩)
    have hlate := retired_run hretired late
    rw [← run_cons, ← run_append] at hlate
    exact hlate.unused a ha.node hid
  · have hid : a.id = x ++ ".output" ++ rest := by rw [← hnode]; exact hlonger
    obtain ⟨m, hm, hma⟩ := exists_loaded_of_dot ha.node (by rw [hid]; simp)
    exact hid ▸ .longer _ ⟨m, hm, hma.trans hid⟩

lemma flags_or_passesFor {s : Session} {early late : List Operation} {x : String}
    (hx : ∃ n ∈ (s.run early).graph.nodes, n.id = x) {n : Node} {input : InputParam}
    (hn : n ∈ (s.run (early ++ .removeNode x :: late)).graph.nodes) (hinput : input ∈ n.inputs)
    (hrefers : input.RefersTo x) :
    (s.run (early ++ .removeNode x :: late)).diagnose.Flags n input ∨ ∃ a text,
      (s.run (early ++ .removeNode x :: late)).graph.Produces a n text ∧
        input.source = some text ∧ s.PassesFor x a.id := by
  obtain ⟨text, r, hsource, hparse, hnode⟩ := InputParam.refersTo_iff.1 hrefers
  refine (Graph.flags_or_produces hn hinput hsource hparse).imp_right ?_
  rintro ⟨a, ha⟩
  exact ⟨a, text, ha, hsource, passesFor_of_produces hx hparse hnode ha⟩

/-- For a node that was added in a run, only a node that was loaded before can pass. -/
lemma loaded_of_passesFor {s : Session} {before : List Operation} {x id : String}
    (hfree : (s.run before).graph.IsFree x) (h : (s.run before).PassesFor x id) :
    ∃ rest, id = x ++ ".output" ++ rest ∧ ∃ m ∈ s.graph.nodes, m.id = id := by
  cases h with
  | handedOut k number loaded =>
    obtain ⟨n, hn, hid⟩ := loaded
    exact absurd hid (hfree n hn)
  | longer rest loaded =>
    obtain ⟨n, hn, hid⟩ := loaded
    obtain ⟨m, hm, hmn⟩ := exists_loaded_of_dot hn (by rw [hid]; simp)
    exact ⟨rest, rfl, m, hm, hmn.trans hid⟩

/-- After a run from `s` to `t` in which the node `x` was there after the operations `early` and was
then taken out, what still refers to `x` is flagged, unless its text names an output upstream of a
node that passes for `x`. If the run itself had added `x`, this is a node that was loaded, and none
that was added. Over a new workflow there is none. -/
structure KeepsFlagged (s t : Session) (early : List Operation) (x : String) : Prop where
  flagged : ∀ n ∈ t.graph.nodes, ∀ input ∈ n.inputs, input.RefersTo x →
    t.diagnose.Flags n input ∨ ∃ a text,
      t.graph.Produces a n text ∧ input.source = some text ∧ s.PassesFor x a.id
  added : ∀ before between kind label position,
    early = before ++ .addNode kind label position :: between →
      ((s.run before).addNode kind label position).1 = x →
        ∀ n ∈ t.graph.nodes, ∀ input ∈ n.inputs, input.RefersTo x →
          t.diagnose.Flags n input ∨ ∃ a text, t.graph.Produces a n text ∧
            input.source = some text ∧
              ∃ rest, a.id = x ++ ".output" ++ rest ∧ ∃ m ∈ s.graph.nodes, m.id = a.id
  new : s = new → ∀ n ∈ t.graph.nodes, ∀ input ∈ n.inputs, input.RefersTo x →
    t.diagnose.Flags n input

/-- **References to nodes that were taken out stay flagged**, whatever the operations before and
after, unless another node passes for the one that was taken out. -/
theorem keepsFlagged_run (s : Session) (early late : List Operation) {x : String}
    (hx : ∃ n ∈ (s.run early).graph.nodes, n.id = x) :
    s.KeepsFlagged (s.run (early ++ .removeNode x :: late)) early x where
  flagged _ hn _ hinput hrefers := flags_or_passesFor hx hn hinput hrefers
  added before between kind label position hearly hadd n hn input hinput hrefers := by
    -- the run is taken from where the node was added
    have hcut : s.run (early ++ .removeNode x :: late) =
        (s.run before).run (.addNode kind label position :: between ++ .removeNode x :: late) := by
      rw [hearly, ← run_append, List.append_assoc]
    rw [hearly, run_append] at hx
    rw [hcut] at hn ⊢
    refine (flags_or_passesFor hx hn hinput hrefers).imp_right ?_
    rintro ⟨a, text, ha, hsource, hpasses⟩
    have hfree : (s.run before).graph.IsFree x := hadd ▸ ((s.run before).addsAtEnd _ _ _).free
    exact ⟨a, text, ha, hsource, loaded_of_passesFor hfree hpasses⟩
  new := by
    rintro rfl n hn input hinput hrefers
    refine (flags_or_passesFor hx hn hinput hrefers).resolve_right ?_
    rintro ⟨a, text, -, -, hpasses⟩
    exact not_passesFor_new hpasses

/-- A saved node with a numbered id, to which an input of the end refers. -/
def numberedFlow : SavedFlow where
  nodes :=
    [⟨"node_0", "llm", none, .empty⟩,
      ⟨"e", "end", none, .ofMembers [("input_params", .array [.object
        [("name", .string "q"), ("value_source", .string "node_0.output.text")]])]⟩]
  edges := []

/-- The operations behind the removal of the node give out its id and join its successor. -/
def handingOut : List Operation :=
  [.addNode .llm "" .origin, .connect ⟨"node_0", "e", none, none⟩]

/-- The source is flagged as long as no node has the id again. -/
theorem keepsFlagged_numberedFlow :
    ∃ s, openFlow "a" numberedFlow = .ok s ∧ (∃ n ∈ (s.run []).graph.nodes, n.id = "node_0") ∧
      s.KeepsFlagged (s.run ([] ++ .removeNode "node_0" :: [])) [] "node_0" ∧
      ∃ n ∈ (s.run [.removeNode "node_0"]).graph.nodes, ∃ input ∈ n.inputs,
        input.RefersTo "node_0" ∧ (s.run [.removeNode "node_0"]).diagnose.Flags n input := by
  obtain ⟨s, hopen, hthere, hflagged⟩ := exists_openFlow "a" numberedFlow
    (P := fun s => (∃ n ∈ (s.run []).graph.nodes, n.id = "node_0") ∧
      ∃ n ∈ (s.run [.removeNode "node_0"]).graph.nodes, ∃ input ∈ n.inputs,
        input.RefersTo "node_0" ∧ (s.run [.removeNode "node_0"]).diagnose.Flags n input)
    (by decide +kernel)
  exact ⟨s, hopen, hthere, keepsFlagged_run s [] [] hthere, hflagged⟩

/-- A node that is added later takes the id that was loaded, and what was entered for the node that
is gone is flagged no more. -/
theorem not_flagged_handingOut : ¬∀ (s : Session) (early late : List Operation) (x : String),
    s.Begun → (∃ n ∈ (s.run early).graph.nodes, n.id = x) →
      ∀ n ∈ (s.run (early ++ .removeNode x :: late)).graph.nodes, ∀ input ∈ n.inputs,
        input.RefersTo x → (s.run (early ++ .removeNode x :: late)).diagnose.Flags n input := by
  intro h
  obtain ⟨s, hopen, hthere, hpasses⟩ := exists_openFlow "a" numberedFlow
    (P := fun s => (∃ n ∈ (s.run []).graph.nodes, n.id = "node_0") ∧
      ∃ n ∈ (s.run (.removeNode "node_0" :: handingOut)).graph.nodes, ∃ input ∈ n.inputs,
        input.RefersTo "node_0" ∧
          ¬(s.run (.removeNode "node_0" :: handingOut)).diagnose.Flags n input)
    (by decide +kernel)
  obtain ⟨n, hn, input, hinput, hrefers, hnot⟩ := hpasses
  exact hnot (h s [] handingOut "node_0" (.opened hopen) hthere n hn input hinput hrefers)

/-- A saved node whose id holds most of a separator. -/
def nestedFlow : SavedFlow where
  nodes :=
    [⟨"x", "llm", none, .empty⟩,
      ⟨"x.output", "mcp", none, .ofMembers [("output_params", .array [.object
        [("name", .string "r"), ("type", .string "string")]])]⟩,
      ⟨"e", "end", none, .ofMembers [("input_params", .array [.object
        [("name", .string "q"), ("value_source", .string "x.output.output.r")]])]⟩]
  edges := [⟨⟨"x.output", "e", none, none⟩, none, none, none⟩]

example : (openFlow "a" nestedFlow).toOption.any (fun s =>
    ∃ n ∈ (s.run [.removeNode "x"]).graph.nodes, ∃ input ∈ n.inputs,
      input.RefersTo "x" ∧ ¬(s.run [.removeNode "x"]).diagnose.Flags n input) = true := by
  decide +kernel

end Session

end AgentFlow
