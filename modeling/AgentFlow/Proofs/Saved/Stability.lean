import AgentFlow.Proofs.Saved.NormalForm
import AgentFlow.Proofs.Saved.Text
import AgentFlow.Proofs.Success
import AgentFlow.Saved.FlowFile

/-!
Loading, saving and loading again.

What is loaded is in normal form already, and its saved form is writable, so that the second loading
brings back the same nodes and edges.
-/

namespace AgentFlow

open Json (Canonical)

/-- Whether the temperature is finite, if the configuration has one. -/
def Config.hasFiniteTemperature : Config → Bool
  | .llm settings => settings.temperature.isFinite
  | _ => true

/-- The node has the shape in which nodes are loaded, but for its configuration. -/
structure Node.Tidy (n : Node) : Prop where
  description : filled n.description = n.description
  outputs : n.outputs.map OutputParam.normalized = n.outputs
  extra : (n.extra.filterKeys fun key => !n.kind.isReserved key) = n.extra

lemma Node.Tidy.normalized_eq {n : Node} (h : n.Tidy) :
    n.normalized = { n with config := n.config.normalized } := by
  rw [Node.normalized, h.description, h.outputs, h.extra]

/-! ### What loading gives -/

lemma ParamType.normalized_ofName (name : String) : (ofName name).normalized = ofName name := by
  rw [← ofName_name, name_ofName]

lemma OutputParam.normalized_of_ofJson {v : Json} {p : OutputParam} (h : ofJson v = .ok p) :
    p.normalized = p := by
  suffices htype : ∃ name, p.type = .ofName name by
    obtain ⟨name, hname⟩ := htype
    obtain ⟨_, type, _⟩ := p
    subst hname
    rw [normalized, ParamType.normalized_ofName]
  unfold ofJson at h
  split at h
  · obtain ⟨_, -, h⟩ := exists_of_bind_ok h
    obtain ⟨_, -, h⟩ := exists_of_bind_ok h
    obtain ⟨_, -, h⟩ := exists_of_bind_ok h
    obtain ⟨_, -, h⟩ := exists_of_bind_ok h
    obtain ⟨type, -, h⟩ := exists_of_bind_ok h
    cases h
    exact ⟨type, rfl⟩
  · split at h
    · cases h
    · obtain ⟨_, -, h⟩ := exists_of_bind_ok h
      cases h
    · obtain ⟨_, -, h⟩ := exists_of_bind_ok h
      obtain ⟨type, -, h⟩ := exists_of_bind_ok h
      cases h
      exact ⟨type, rfl⟩
    · obtain ⟨_, -, h⟩ := exists_of_bind_ok h
      obtain ⟨type, -, h⟩ := exists_of_bind_ok h
      obtain ⟨_, -, h⟩ := exists_of_bind_ok h
      dsimp only at h
      split at h
      · cases h
        exact ⟨type, rfl⟩
      · cases h
  · cases h

namespace SavedNode

variable {s : SavedNode} {field : String}

lemma filled_of_text? {text : Option String} (h : s.text? field = .ok text) :
    filled text = text := by
  unfold text? at h
  split at h
  · cases h; rfl
  · cases h; rfl
  · next t _ =>
    cases h
    by_cases ht : t = "" <;> simp [filled, Option.filter, ht]
  · cases h

lemma exists_of_mem_params? {α : Type} {read : Json → Except ParamError α} {as : List α}
    (h : s.params? field read = .ok as) : ∀ a ∈ as, ∃ v, read v = .ok a := by
  unfold params? at h
  split at h
  · cases h; simp
  · cases h; simp
  · have hlist := ok_of_mapError h
    unfold Json.expectList at hlist
    split at hlist
    · intro a ha
      obtain ⟨v, -, hv⟩ := exists_of_mem_mapM hlist a ha
      exact ⟨v, hv⟩
    · cases hlist

lemma normalized_of_params? {outputs : List OutputParam}
    (h : s.params? field OutputParam.ofJson = .ok outputs) :
    outputs.map OutputParam.normalized = outputs := by
  have hread : ∀ p ∈ outputs, p.normalized = p := by
    intro p hp
    obtain ⟨v, hv⟩ := exists_of_mem_params? h p hp
    exact OutputParam.normalized_of_ofJson hv
  rw [List.map_congr_left hread, List.map_id']

lemma kind_of_config? {k : Kind} {c : Config} (h : s.config? k = .ok c) : c.kind = k := by
  cases k <;> simp only [config?, Access.config] at h
  case vision | intent => cases h; rfl
  case llm =>
    obtain ⟨_, -, h⟩ := exists_of_bind_ok h
    obtain ⟨_, -, h⟩ := exists_of_bind_ok h
    obtain ⟨_, -, h⟩ := exists_of_bind_ok h
    cases h
    rfl
  all_goals
    obtain ⟨_, -, h⟩ := exists_of_bind_ok h
    cases h
    rfl

/-- A configuration that is read is in normal form, if its temperature is finite. -/
lemma normalized_of_config? {k : Kind} {c : Config} (h : s.config? k = .ok c)
    (htemp : c.hasFiniteTemperature = true) : c.normalized = c := by
  cases k <;> simp only [config?, Access.config] at h
  case vision | intent => cases h; rfl
  case docParser =>
    obtain ⟨_, -, h⟩ := exists_of_bind_ok h
    cases h
    rfl
  case llm =>
    obtain ⟨model, hmodel, h⟩ := exists_of_bind_ok h
    obtain ⟨temperature, -, h⟩ := exists_of_bind_ok h
    obtain ⟨prompt, hprompt, h⟩ := exists_of_bind_ok h
    cases h
    have hne : model.getD LlmConfig.defaultModel ≠ "" := by
      have hfilled := filled_of_text? hmodel
      cases model with
      | none => decide
      | some name =>
        rintro rfl
        cases hfilled
    have hfinite : (temperature.getD LlmConfig.defaultTemperature).isFinite = true := htemp
    simp only [Config.normalized, if_neg hne, if_pos hfinite, filled_of_text? hprompt]
  all_goals
    obtain ⟨_, htext, h⟩ := exists_of_bind_ok h
    cases h
    simp only [Config.normalized, filled_of_text? htext]

/-- What loading a node makes of each part of the saved one. -/
structure ReadAs (s : SavedNode) (n : Node) : Prop where
  kind : s.kind? = .ok n.kind
  label : ∃ label, s.text? "label" = .ok label ∧ n.label = label.getD ""
  description : s.text? "description" = .ok n.description
  outputs : s.params? "output_params" OutputParam.ofJson = .ok n.outputs
  inputs : s.params? "input_params" InputParam.ofJson = .ok n.inputs
  config : s.config? n.kind = .ok n.config
  id : n.id = s.id
  position : n.position = s.position.getD .origin
  extra : n.extra = s.data.filterKeys fun key => !n.kind.isReserved key

lemma readAs_of_decode {n : Node} (h : s.decode = .ok n) : s.ReadAs n := by
  rw [decode_eq] at h
  obtain ⟨kind, hkind, h⟩ := exists_of_bind_ok h
  obtain ⟨node, hnode, h⟩ := exists_of_bind_ok h
  obtain ⟨label, hlabel, hnode⟩ := exists_of_bind_ok hnode
  obtain ⟨description, hdesc, hnode⟩ := exists_of_bind_ok hnode
  obtain ⟨outputs, houts, hnode⟩ := exists_of_bind_ok hnode
  obtain ⟨inputs, hins, hnode⟩ := exists_of_bind_ok hnode
  obtain ⟨config, hconfig, hnode⟩ := exists_of_bind_ok hnode
  cases hnode
  cases h
  obtain rfl : config.kind = kind := kind_of_config? hconfig
  exact ⟨hkind, ⟨label, hlabel, rfl⟩, hdesc, houts, hins, hconfig, rfl, rfl, rfl⟩

/-- A node that is loaded is tidy, and its configuration was read for its kind. -/
lemma tidy_of_decode {n : Node} (h : s.decode = .ok n) :
    n.Tidy ∧ s.config? n.kind = .ok n.config := by
  have hread := readAs_of_decode h
  refine ⟨⟨filled_of_text? hread.description, normalized_of_params? hread.outputs, ?_⟩,
    hread.config⟩
  rw [hread.extra, Json.Object.filterKeys_self]

/-- A node that is loaded is in normal form, if its temperature is finite. -/
lemma normalized_of_decode {n : Node} (h : s.decode = .ok n)
    (htemp : n.config.hasFiniteTemperature = true) : n.normalized = n := by
  obtain ⟨htidy, hconfig⟩ := tidy_of_decode h
  rw [htidy.normalized_eq, normalized_of_config? hconfig htemp]

lemma origin_of_decode {n : Node} (h : s.decode = .ok n) :
    n.position = s.position.getD .origin ∧ ∀ m ∈ n.extra.entries, m ∈ s.data.entries := by
  have hread := readAs_of_decode h
  refine ⟨hread.position, fun m hm => ?_⟩
  rw [hread.extra] at hm
  exact List.mem_of_mem_filter hm

end SavedNode

lemma Connection.edgeId_ne_empty (c : Connection) : ¬c.edgeId = "" := by
  unfold edgeId
  simp only [String.append_eq_empty_iff]
  simp

lemma SavedEdge.normalized_decode (e : SavedEdge) : e.decode.normalized = e.decode := by
  have hid : ¬e.decode.id = "" := by
    unfold decode
    dsimp only
    split
    · split
      · exact e.edgeId_ne_empty
      · next hne => simpa using hne
    · exact e.edgeId_ne_empty
  simp only [Edge.normalized, if_neg hid]

/-! ### Saved forms are writable -/

lemma canonical_ofBinary64 (depth : ℕ) (x : Binary64) : Canonical depth (.ofBinary64 x) := by
  unfold Json.ofBinary64
  split
  · next h => exact .number depth h
  · exact .null depth

lemma OutputParam.canonical_toJson (depth : ℕ) (p : OutputParam) :
    Canonical (depth + 1) p.toJson := by
  obtain ⟨name, type, desc⟩ := p
  cases desc with
  | none =>
    have hkeys : ["name", "type"].Pairwise (· < ·) := by decide
    exact .object (Json.sorted_of_keys hkeys) (by simp [Canonical.string])
  | some desc =>
    have hkeys : ["desc", "name", "type"].Pairwise (· < ·) := by decide
    exact .object (Json.sorted_of_keys hkeys) (by simp [Canonical.string])

lemma InputParam.canonical_toJson (depth : ℕ) (p : InputParam) :
    Canonical (depth + 1) p.toJson := by
  obtain ⟨name, source⟩ := p
  cases source with
  | none =>
    have hkeys : ["name"].Pairwise (· < ·) := by decide
    exact .object (Json.sorted_of_keys hkeys) (by simp [Canonical.string])
  | some source =>
    have hkeys : ["name", "value_source"].Pairwise (· < ·) := by decide
    exact .object (Json.sorted_of_keys hkeys) (by simp [Canonical.string])

lemma canonical_of_mem_presentMembers {depth : ℕ} {ms : List (String × Option Json)}
    (h : ∀ m ∈ ms, ∀ v ∈ m.2, Canonical depth v) :
    ∀ m ∈ presentMembers ms, Canonical depth m.2 := by
  intro m hm
  obtain ⟨⟨k, v⟩, hmem, hv⟩ := List.mem_filterMap.1 hm
  obtain ⟨w, rfl, rfl⟩ := Option.map_eq_some_iff.1 hv
  exact h _ hmem w rfl

lemma canonical_string (depth : ℕ) (text : Option String) :
    ∀ v ∈ text.map Json.string, Canonical depth v := by
  intro v hv
  obtain ⟨s, -, rfl⟩ := Option.map_eq_some_iff.1 hv
  exact .string depth s

lemma canonical_listed {depth : ℕ} {α : Type} {write : α → Json}
    (h : ∀ a, Canonical depth (write a)) (as : List α) :
    ∀ v ∈ Node.listed write as, Canonical (depth + 1) v := by
  intro v hv
  unfold Node.listed at hv
  split at hv
  · cases hv
  · cases hv
    refine .array fun w hw => ?_
    obtain ⟨a, -, rfl⟩ := List.mem_map.1 hw
    exact h a

namespace Config

lemma canonical_members (depth : ℕ) (c : Config) : ∀ m ∈ c.members, Canonical depth m.2 := by
  cases c with
  | llm settings =>
    refine canonical_of_mem_presentMembers ?_
    simp [Canonical.string, canonical_ofBinary64]
  | docParser mode => simp [members, Canonical.string]
  | vision | intent => simp [members]
  | _ =>
    refine canonical_of_mem_presentMembers ?_
    simp only [List.mem_cons, List.not_mem_nil, or_false, forall_eq]
    exact canonical_string depth _

end Config

namespace Node

lemma canonical_typedMembers (depth : ℕ) (n : Node) :
    ∀ m ∈ n.typedMembers, Canonical (depth + 2) m.2 := by
  intro m hm
  simp only [typedMembers, List.append_assoc, List.mem_append] at hm
  rcases hm with hm | hm | hm
  · refine canonical_of_mem_presentMembers ?_ m hm
    simp [Canonical.string]
  · exact n.config.canonical_members _ m hm
  · refine canonical_of_mem_presentMembers ?_ m hm
    simp only [List.mem_cons, List.not_mem_nil, or_false, forall_eq_or_imp, forall_eq]
    exact ⟨canonical_listed (OutputParam.canonical_toJson depth) _,
      canonical_listed (InputParam.canonical_toJson depth) _⟩

/-- A node with a finite place and canonical free-form data has a writable saved form. -/
lemma writable_encode {depth : ℕ} {n : Node} (hposition : n.position.IsFinite)
    (hextra : ∀ m ∈ n.extra.entries, Canonical (depth + 2) m.2) :
    n.encode.Writable (depth + 2) := by
  refine ⟨fun p hp => ?_, fun m hm => ?_⟩
  · cases hp
    exact hposition
  · rcases Json.mem_of_mem_foldl_insert hm with hm | hm
    · exact hextra m (List.mem_of_mem_filter hm)
    · exact n.canonical_typedMembers depth m hm

end Node

/-! ### Whole workflows -/

lemma SavedFlow.decode_eq_ok_iff {f : SavedFlow} {g : Graph} :
    f.decode = .ok g ↔ ∃ ns, f.nodes.mapM SavedNode.decode = .ok ns ∧
      Graph.ofParts? ns (f.edges.map SavedEdge.decode) = .ok g := by
  rw [decode, bind_eq_ok_iff]
  refine exists_congr fun ns => and_congr_right fun _ => ?_
  split
  · next hparts => simp [hparts, pure, Except.pure]
  · next hparts => simp [hparts]
  · next hparts => simp [hparts]

namespace Graph

/-- The nodes and edges of a loaded workflow, each with the saved one it comes from. -/
lemma sources_of_decode {f : SavedFlow} {g : Graph} (h : f.decode = .ok g) :
    (∀ n ∈ g.nodes, ∃ s ∈ f.nodes, s.decode = .ok n) ∧ g.edges = f.edges.map SavedEdge.decode := by
  obtain ⟨nodes, hnodes, hparts⟩ := SavedFlow.decode_eq_ok_iff.1 h
  obtain ⟨hn, he⟩ := parts_of_ofParts? hparts
  exact ⟨hn ▸ exists_of_mem_mapM hnodes, he⟩

lemma writable_encode {f : SavedFlow} {g : Graph} (hf : f.Writable) (h : f.decode = .ok g) :
    g.encode.Writable := by
  obtain ⟨hnodes, hedges⟩ := sources_of_decode h
  have horigin : Position.origin.IsFinite := ⟨by decide, by decide⟩
  refine ⟨fun n hn => ?_, fun e he => ?_⟩
  · obtain ⟨n, hnode, rfl⟩ := List.mem_map.1 hn
    obtain ⟨s, hs, hdecode⟩ := hnodes n hnode
    obtain ⟨hposition, hextra⟩ := SavedNode.origin_of_decode hdecode
    have hwritable := hf.nodes s hs
    refine Node.writable_encode ?_ fun m hm => hwritable.data m (hextra m hm)
    rw [hposition]
    cases hp : s.position with
    | none => exact horigin
    | some p => exact hwritable.position p hp
  · obtain ⟨e, hedge, rfl⟩ := List.mem_map.1 he
    rw [hedges] at hedge
    obtain ⟨s, hs, rfl⟩ := List.mem_map.1 hedge
    exact ⟨(hf.edges s hs).data⟩

lemma normalized_of_decode {f : SavedFlow} {g : Graph} (h : f.decode = .ok g)
    (htemp : ∀ n ∈ g.nodes, n.config.hasFiniteTemperature = true) :
    g.nodes.map Node.normalized = g.nodes ∧ g.edges.map Edge.normalized = g.edges := by
  obtain ⟨hnodes, hedges⟩ := sources_of_decode h
  have hnode : ∀ n ∈ g.nodes, n.normalized = n := by
    intro n hn
    obtain ⟨s, -, hdecode⟩ := hnodes n hn
    exact SavedNode.normalized_of_decode hdecode (htemp n hn)
  have hedge : ∀ e ∈ g.edges, e.normalized = e := by
    intro e he
    rw [hedges] at he
    obtain ⟨s, -, rfl⟩ := List.mem_map.1 he
    exact s.normalized_decode
  rw [List.map_congr_left hnode, List.map_congr_left hedge]
  exact ⟨List.map_id' _, List.map_id' _⟩

end Graph

namespace FlowFile

lemma exists_of_parse {text : String} {g : Graph} (h : parse text = .ok g) :
    ∃ f, SavedFlow.ofText? text = some f ∧ f.decode = .ok g := by
  unfold parse at h
  split at h
  · next f hf => exact ⟨f, hf, h⟩
  · cases h

/-- **Saving a loaded workflow loses nothing**: the text of a workflow that was loaded loads again,
with the same nodes and edges in the same order. Every finite number that the text holds has to be
one that its literal denotes, since literals are rounded more than once when they are read. -/
theorem parse_toText_of_parse {text : String} {g : Graph} (hparse : parse text = .ok g)
    (htemp : ∀ n ∈ g.nodes, n.config.hasFiniteTemperature = true)
    (hreads : ∀ x : Binary64, .real x ∈ g.encode.toJson.numbers → x.isFinite = true →
      (Json.Number.real x).ReadsBack) :
    ∃ h, parse g.toText = .ok h ∧ h.nodes = g.nodes ∧ h.edges = g.edges := by
  obtain ⟨f, hf, hdecode⟩ := exists_of_parse hparse
  have hwritable := Graph.writable_encode (SavedFlow.writable_of_ofText? hf) hdecode
  have hlegible : g.encode.toJson.Legible := by
    intro n hn
    have hrange := hwritable.inRange hn
    cases n with
    | int i => exact Json.Number.readsBack_int hrange
    | real x => exact hreads x hn hrange
  obtain ⟨h, hload, hnodes, hedges⟩ := g.exists_decode_encode
  obtain ⟨hn, he⟩ := Graph.normalized_of_decode hdecode htemp
  refine ⟨h, ?_, hnodes.trans hn, hedges.trans he⟩
  rw [parse, Graph.toText, SavedFlow.ofText?_toPrettyText hwritable hlegible]
  exact hload

/-- A text of a language model node, saved under the placeholder type, and an edge without id. -/
def sampleText : String :=
  Json.toText <| .object
    [("nodes", .array
      [.object
        [("id", .string "a"), ("type", .string "common"),
          ("position", .object [("x", .number (.real (.ofRatio true 3 2))), ("y", .ofNat 2)]),
          ("data", .object
            [("originalType", .string "llm"), ("label", .string "A"),
              ("temperature", .string "0.5"),
              ("output_params", .array
                [.object [("name", .string "text"), ("type", .string "string")]]),
              ("note", .array [.ofNat 1, .null])])]]),
      ("edges", .array
        [.object
          [("source", .string "a"), ("target", .string "b"), ("sourceHandle", .string "s")]])]

theorem parse_toText_sampleText :
    ∃ g h, parse sampleText = .ok g ∧ g.nodes.length = 1 ∧ g.edges.length = 1 ∧
      parse g.toText = .ok h ∧ h.nodes = g.nodes ∧ h.edges = g.edges := by
  have hchecked : (parse sampleText).toOption.any (fun g =>
      g.nodes.length = 1 && g.edges.length = 1 &&
        g.nodes.all (fun n => n.config.hasFiniteTemperature) &&
        g.encode.toJson.numbers.all (fun n => n.ReadsBack)) = true := by
    rw [parse, sampleText, SavedFlow.ofText?, Json.Reader.ofText?, Json.toText,
      String.toList_ofList]
    decide +kernel
  cases hparse : parse sampleText with
  | error e =>
    rw [hparse] at hchecked
    cases hchecked
  | ok g =>
    rw [hparse] at hchecked
    simp only [Except.toOption, Option.any_some, Bool.and_eq_true, decide_eq_true_eq,
      List.all_eq_true] at hchecked
    obtain ⟨⟨⟨hnodes, hedges⟩, htemp⟩, hreads⟩ := hchecked
    obtain ⟨h, hload, hn, he⟩ :=
      parse_toText_of_parse hparse htemp fun x hx _ => hreads (.real x) hx
    exact ⟨g, h, rfl, hnodes, hedges, hload, hn, he⟩

end FlowFile

end AgentFlow
