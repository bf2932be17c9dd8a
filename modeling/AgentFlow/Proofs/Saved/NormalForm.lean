import Mathlib.Data.List.Forall2
import AgentFlow.Proofs.Saved.Members
import AgentFlow.Proofs.Saved.Taking

/-!
Saving a workflow and loading it again.

What comes back is the workflow in normal form: an empty text where none may stand for it becomes
none, a model or temperature that cannot be saved becomes the default, a type with a meaning loses
its spelling as a foreign one, free-form data gives up the reserved names, and an edge without an id
gets the id of a new edge. All else stays.
-/

namespace AgentFlow

open Json (Object)

/-! ### Normal forms -/

/-- A text, unless it is empty. -/
def filled (s : Option String) : Option String := s.filter (· ≠ "")

namespace ParamType

def normalized : ParamType → ParamType
  | .other name => .ofName name
  | t => t

lemma ofName_name (t : ParamType) : ofName t.name = t.normalized := by
  cases t <;> rfl

end ParamType

def OutputParam.normalized (p : OutputParam) : OutputParam := { p with type := p.type.normalized }

namespace Config

def normalized : Config → Config
  | .start template => .start (filled template)
  | .finish template => .finish (filled template)
  | .llm settings => .llm {
      model := if settings.model = "" then "gpt-4" else settings.model
      temperature :=
        if settings.temperature.isFinite then settings.temperature else .ofRatio false 7 10
      systemPrompt := filled settings.systemPrompt }
  | .knowledge base => .knowledge (filled base)
  | .tool name => .tool (filled name)
  | .mcp server => .mcp (filled server)
  | .docParser mode => .docParser mode
  | .vision => .vision
  | .intent => .intent

end Config

def Node.normalized (n : Node) : Node :=
  { n with
    description := filled n.description
    config := n.config.normalized
    outputs := n.outputs.map OutputParam.normalized
    extra := n.extra.filterKeys fun key => !n.kind.isReserved key }

def Edge.normalized (e : Edge) : Edge := { e with id := if e.id = "" then e.edgeId else e.id }

/-! ### Reading what was written -/

lemma mapM_map_ok {α β γ ε : Type} {f : β → Except ε γ} {write : α → β} {back : α → γ}
    {as : List α} (h : ∀ a ∈ as, f (write a) = .ok (back a)) :
    (as.map write).mapM f = .ok (as.map back) := by
  induction as with
  | nil => rfl
  | cons a as ih =>
    rw [List.map_cons, List.mapM_cons, h a List.mem_cons_self,
      ih fun b hb => h b (List.mem_cons_of_mem _ hb)]
    rfl

lemma OutputParam.ofJson_toJson (p : OutputParam) : ofJson p.toJson = .ok p.normalized := by
  obtain ⟨name, type, desc⟩ := p
  cases desc <;>
    simp [toJson, ofJson, Json.member?, Json.expectString, Json.expectOptional, Json.given,
      normalized, ParamType.ofName_name, bind, Except.bind, pure, Except.pure, Except.map,
      List.lookup_cons]

lemma InputParam.ofJson_toJson (p : InputParam) : ofJson p.toJson = .ok p := by
  obtain ⟨name, source⟩ := p
  cases source <;>
    simp [toJson, ofJson, Json.member?, Json.expectString, Json.expectOptional, bind, Except.bind,
      pure, Except.pure, Except.map, List.lookup_cons]

namespace SavedNode

variable {s : SavedNode} {field : String}

lemma text?_of_get? {text : Option String} (h : s.data.get? field = text.map .string) :
    s.text? field = .ok (filled text) := by
  unfold text?
  rw [h]
  cases text with
  | none => rfl
  | some text => by_cases ht : text = "" <;> simp [filled, Option.filter, ht]

lemma number?_of_get? {x : Binary64} (h : s.data.get? field = some (.ofBinary64 x)) :
    s.number? field = .ok (if x.isFinite then some x else none) := by
  unfold number?
  rw [h, Json.ofBinary64]
  by_cases hx : x.isFinite
  · simp [hx, Json.Number.toBinary64]
  · simp [hx]

lemma params?_of_get? {α : Type} {write : α → Json} {read : Json → Except ParamError α}
    (back : α → α) (hread : ∀ a, read (write a) = .ok (back a)) {as : List α}
    (h : s.data.get? field = if as = [] then none else some (.array (as.map write))) :
    s.params? field read = .ok (as.map back) := by
  unfold params?
  rw [h]
  by_cases has : as = []
  · simp [has]
  · simp only [if_neg has, Json.expectList, mapM_map_ok fun a _ => hread a]
    rfl

lemma mode?_of_get? {mode : ParseMode} (h : s.data.get? field = some (.string mode.name)) :
    s.mode? field = .ok mode := by
  have htext : s.text? field = .ok (filled (some mode.name)) := text?_of_get? h
  unfold mode?
  rw [htext]
  cases mode <;> rfl

end SavedNode

namespace Node

lemma get?_encode_of_isReserved {n : Node} {key : String} (h : n.kind.isReserved key = true) :
    n.encode.data.get? key = n.member? key := by
  rw [get?_encode, if_pos h]

lemma name_ne_placeholder (k : Kind) : k.name ≠ SavedNode.placeholderType := by
  cases k <;> decide

lemma kind?_encode (n : Node) : n.encode.kind? = .ok n.kind := by
  have htype : n.encode.type = n.kind.name := rfl
  have hname : Kind.ofName? n.kind.name = some n.kind := by cases n.kind <;> decide
  simp [SavedNode.kind?, SavedNode.typeName?, htype, name_ne_placeholder, hname, bind, Except.bind,
    pure, Except.pure]

/-- A saved node that holds what the node holds, under the names that belong to it. -/
structure SavedAs (n : Node) (s : SavedNode) : Prop where
  id : s.id = n.id
  position : s.position = some n.position
  type : s.type = n.kind.name
  ownType : s.type ≠ "common"
  noOriginalType : s.data.get? "originalType" = none
  typed : ∀ key, n.kind.isReserved key = true → s.data.get? key = n.member? key
  free : ∀ key, n.kind.isReserved key = false → s.data.get? key = n.extra.get? key

lemma savedAs_encode (n : Node) : n.SavedAs n.encode where
  id := rfl
  position := rfl
  type := rfl
  ownType := name_ne_placeholder n.kind
  noOriginalType := by
    have hres : n.kind.isReserved "originalType" = true := by
      simp [Kind.isReserved, Kind.sharedFields]
    rw [get?_encode, member?_eq_none (.inr rfl), if_pos hres]
  typed := fun _ => get?_encode_of_isReserved
  free := fun key h => by rw [get?_encode, h]; rfl

/-- A configuration is read back in normal form. -/
lemma config?_encode (n : Node) : n.encode.config? n.kind = .ok n.config.normalized := by
  have hget : ∀ key ∈ n.kind.configFields, n.encode.data.get? key = n.config.member? key := by
    intro key hkey
    have hres : n.kind.isReserved key = true := by simp [Kind.isReserved, hkey]
    rw [get?_encode_of_isReserved hres]
    have hshared : key ∉ ["label", "description", "output_params", "input_params"] := by
      revert key
      cases n.kind <;> decide
    simp only [List.mem_cons, List.not_mem_nil, or_false, not_or] at hshared
    obtain ⟨hl, hd, ho, hi⟩ := hshared
    simp [member?, hl, hd, ho, hi]
  unfold kind at hget ⊢
  cases hc : n.config <;> rw [hc] at hget <;>
    simp only [Config.kind, Kind.configFields, List.mem_cons, List.not_mem_nil, or_false,
      forall_eq_or_imp, forall_eq, Config.member?] at hget ⊢
  case start template | finish template | knowledge base | tool name | mcp server =>
    simp [SavedNode.config?, SavedNode.Access.config, SavedNode.looking, Config.normalized,
      SavedNode.text?_of_get? hget, bind, Except.bind, pure, Except.pure]
  case docParser mode =>
    simp [SavedNode.config?, SavedNode.Access.config, SavedNode.looking, Config.normalized,
      SavedNode.mode?_of_get? hget, bind, Except.bind, pure, Except.pure]
  case llm settings =>
    simp at hget
    obtain ⟨hmodel, htemp, hprompt⟩ := hget
    have hmodel' : n.encode.text? "model" = .ok (filled (some settings.model)) :=
      SavedNode.text?_of_get? hmodel
    have hname : (filled (some settings.model)).getD "gpt-4" =
        if settings.model = "" then "gpt-4" else settings.model := by
      by_cases h : settings.model = "" <;> simp [filled, Option.filter, h]
    have hdegree : (if settings.temperature.isFinite then some settings.temperature
        else none).getD (.ofRatio false 7 10) =
        if settings.temperature.isFinite then settings.temperature else .ofRatio false 7 10 := by
      split <;> rfl
    simp only [SavedNode.config?, SavedNode.Access.config, SavedNode.looking, Config.normalized,
      hmodel', SavedNode.number?_of_get? htemp, SavedNode.text?_of_get? hprompt, bind, Except.bind,
      pure, Except.pure, LlmConfig.defaultModel, LlmConfig.defaultTemperature, hname, hdegree]
  case vision | intent => rfl

/-- A node is read back in normal form. -/
lemma decode_encode (n : Node) : n.encode.decode = .ok n.normalized := by
  have hget : ∀ key ∈ Kind.sharedFields, n.encode.data.get? key = n.member? key := by
    intro key hkey
    exact get?_encode_of_isReserved (by simp [Kind.isReserved, hkey])
  have hlabel : n.encode.text? "label" = .ok (filled (some n.label)) :=
    SavedNode.text?_of_get? (by rw [hget _ (by decide)]; rfl)
  have hdesc : n.encode.text? "description" = .ok (filled n.description) :=
    SavedNode.text?_of_get? (by rw [hget _ (by decide)]; rfl)
  have houts : n.encode.params? "output_params" OutputParam.ofJson =
      .ok (n.outputs.map OutputParam.normalized) :=
    SavedNode.params?_of_get? _ OutputParam.ofJson_toJson (by rw [hget _ (by decide)]; rfl)
  have hins : n.encode.params? "input_params" InputParam.ofJson = .ok (n.inputs.map fun p => p) :=
    SavedNode.params?_of_get? _ InputParam.ofJson_toJson (by rw [hget _ (by decide)]; rfl)
  have hextra := filterKeys_encode n
  have hlab : (filled (some n.label)).getD "" = n.label := by
    by_cases h : n.label = "" <;> simp [filled, Option.filter, h]
  have hconfig : n.encode.looking.config n.kind = .ok n.config.normalized := n.config?_encode
  simp only [SavedNode.decode_eq, SavedNode.Access.node, SavedNode.looking, kind?_encode, hlabel,
    hdesc, houts, hins, hextra, hlab, bind, Except.bind, pure, Except.pure, List.map_id']
  simp only [SavedNode.looking] at hconfig
  rw [hconfig]
  rfl

end Node

lemma Edge.decode_encode (e : Edge) : e.encode.decode = e.normalized := by
  by_cases h : e.id = ""
  · simp [Edge.encode, SavedEdge.decode, Edge.normalized, h]
  · simp [Edge.encode, SavedEdge.decode, Edge.normalized, h]

/-! ### Whole workflows -/

namespace Graph

/-- Nodes with different ids are loaded from their saved forms in normal form. -/
lemma exists_decode_map_encode {nodes : List Node} (hnd : (nodes.map Node.id).Nodup)
    (edges : List SavedEdge) :
    ∃ h, SavedFlow.decode ⟨nodes.map Node.encode, edges⟩ = .ok h ∧
      h.nodes = nodes.map Node.normalized ∧ h.edges = edges.map SavedEdge.decode := by
  have hnodes : (nodes.map Node.encode).mapM SavedNode.decode = .ok (nodes.map Node.normalized) :=
    mapM_map_ok fun n _ => n.decode_encode
  have hids : ((nodes.map Node.normalized).map Node.id).Nodup := by
    rw [List.map_map]
    exact hnd
  obtain ⟨h, hparts⟩ := exists_ofParts? (edges.map SavedEdge.decode) hids
  refine ⟨h, ?_, parts_of_ofParts? hparts⟩
  simp only [SavedFlow.decode, hnodes, hparts, bind, Except.bind]
  rfl

/-- Saving and loading succeeds and brings the graph back in normal form. -/
lemma exists_decode_encode (g : Graph) :
    ∃ h, g.encode.decode = .ok h ∧ h.nodes = g.nodes.map Node.normalized ∧
      h.edges = g.edges.map Edge.normalized := by
  have hedges : (g.edges.map Edge.encode).map SavedEdge.decode = g.edges.map Edge.normalized := by
    simp [Edge.decode_encode, Function.comp_def]
  obtain ⟨h, hdecode, hn, he⟩ := exists_decode_map_encode g.nodup_ids (g.edges.map Edge.encode)
  exact ⟨h, hdecode, hn, he.trans hedges⟩

/-- **Saving and loading again is normalisation**, for any graph: loading never refuses what was
saved, and in the saved form each node stands under its own type, with every reserved member written
from its typed place alone. -/
theorem decode_encode_normalized (g : Graph) :
    List.Forall₂ Node.SavedAs g.nodes g.encode.nodes ∧
    ∃ h, g.encode.decode = .ok h ∧ h.nodes = g.nodes.map Node.normalized ∧
      h.edges = g.edges.map Edge.normalized := by
  refine ⟨?_, exists_decode_encode g⟩
  rw [encode, List.forall₂_map_right_iff, List.forall₂_same]
  exact fun n _ => n.savedAs_encode

end Graph

end AgentFlow
