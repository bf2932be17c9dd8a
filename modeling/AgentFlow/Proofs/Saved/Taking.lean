import Mathlib.Tactic.Lemma
import Mathlib.Tactic.Tauto
import AgentFlow.Saved.Decode

/-!
Taking members out of data.

A node is read by taking its members out of its data one after the other. No member is taken twice,
so that each is found as it was saved; and as the members of a kind are the ones that are reserved
for it, what is left in the end are the members that are not.
-/

namespace AgentFlow

/-- The members that a node of a kind is read from, in the order in which they are read. -/
def Kind.fields (k : Kind) : List String :=
  ["label", "description", "output_params", "input_params"] ++ k.configFields

namespace Kind

lemma originalType_notMem_fields (k : Kind) : "originalType" ∉ k.fields := by
  cases k <;> decide

lemma isReserved_eq (k : Kind) (key : String) :
    k.isReserved key = (decide (key = "originalType") || k.fields.contains key) := by
  rw [Bool.eq_iff_iff]
  simp [isReserved, sharedFields, fields]
  tauto

end Kind

namespace SavedNode

variable {α β : Type} {n n' : SavedNode} {field : String}

/-! ### Looking at members -/

/-- The members are looked at and left where they are. -/
def looking (n : SavedNode) : Access (Except LoadError) where
  text := n.text?
  number := n.number?
  mode := n.mode?
  outputs field := n.params? field OutputParam.ofJson
  inputs field := n.params? field InputParam.ofJson

def config? (n : SavedNode) : Kind → Except LoadError Config := n.looking.config

lemma text?_congr (hid : n.id = n'.id) (h : n.data.get? field = n'.data.get? field) :
    n.text? field = n'.text? field := by
  rw [text?, text?, hid, h]

lemma number?_congr (hid : n.id = n'.id) (h : n.data.get? field = n'.data.get? field) :
    n.number? field = n'.number? field := by
  rw [number?, number?, hid, h]

lemma mode?_congr (hid : n.id = n'.id) (h : n.data.get? field = n'.data.get? field) :
    n.mode? field = n'.mode? field := by
  rw [mode?, mode?, text?_congr hid h, hid]

lemma params?_congr {read : Json → Except ParamError α} (hid : n.id = n'.id)
    (h : n.data.get? field = n'.data.get? field) :
    n.params? field read = n'.params? field read := by
  rw [params?, params?, hid, h]

lemma config?_congr {k : Kind} (hid : n.id = n'.id)
    (h : ∀ field ∈ k.configFields, n.data.get? field = n'.data.get? field) :
    n.config? k = n'.config? k := by
  cases k <;>
    simp only [Kind.configFields, List.forall_mem_cons] at h <;>
    simp only [config?, Access.config, looking, mode?, text?, number?, hid, h]

/-- What a node is read as depends on its id and the members of its kind. -/
lemma node_congr {k : Kind} (hid : n.id = n'.id)
    (h : ∀ field ∈ k.fields, n.data.get? field = n'.data.get? field) :
    n.looking.node n.id k = n'.looking.node n'.id k := by
  have hshared : ∀ field ∈ ["label", "description", "output_params", "input_params"],
      n.data.get? field = n'.data.get? field :=
    fun field hfield => h field (List.mem_append_left _ hfield)
  have hconfig : n.config? k = n'.config? k :=
    config?_congr hid fun field hfield => h field (List.mem_append_right _ hfield)
  unfold config? at hconfig
  simp only [Access.node, hconfig, hid]
  simp only [looking, text?_congr hid (hshared "label" (by simp)),
    text?_congr hid (hshared "description" (by simp)),
    params?_congr hid (hshared "output_params" (by simp)),
    params?_congr hid (hshared "input_params" (by simp))]

/-! ### Taking members out -/

/-- Wherever the data still have the members `fields` of the node, the computation `t` comes to what
`x` does, and takes these members out. -/
def TakesOut (n : SavedNode) (fields : List String) (x : Except LoadError α) (t : Taking α) :
    Prop :=
  ∀ rest : Json.Object, (∀ field ∈ fields, rest.get? field = n.data.get? field) →
    t.run rest = x.map fun a => (a, rest.filterKeys fun key => !fields.contains key)

namespace TakesOut

lemma of_ok (a : α) : TakesOut n [] (.ok a) (pure a) := by
  intro rest _
  rw [StateT.run_pure]
  simp [Except.map, pure, Except.pure]

lemma member {x : Except LoadError α} {read : SavedNode → Except LoadError α}
    (hread : ∀ n' : SavedNode, n'.id = n.id → n'.data.get? field = n.data.get? field →
      read n' = x) : TakesOut n [field] x (n.take field read) := by
  intro rest hrest
  have hx : read { n with data := rest } = x := hread _ rfl (hrest field List.mem_cons_self)
  have herase : rest.erase field = rest.filterKeys fun key => !List.contains [field] key := by
    rw [Json.Object.erase]
    congr 1
    funext key
    simp
  simp only [SavedNode.take, StateT.run, hx, herase]
  cases x <;> rfl

/-- What is taken out second is still there after the first. -/
lemma bind {fs gs : List String} {x : Except LoadError α} {t : Taking α}
    {f : α → Except LoadError β} {u : α → Taking β} (hx : TakesOut n fs x t)
    (hf : ∀ a, TakesOut n gs (f a) (u a)) (hdisjoint : ∀ g ∈ gs, g ∉ fs) :
    TakesOut n (fs ++ gs) (x >>= f) (t >>= u) := by
  intro rest hrest
  have hfirst := hx rest fun field hfield => hrest field (List.mem_append_left _ hfield)
  rw [StateT.run_bind, hfirst]
  cases x with
  | error e => rfl
  | ok a =>
    have hsecond := hf a (rest.filterKeys fun key => !fs.contains key) fun field hfield => by
      rw [Json.Object.get?_filterKeys, if_pos (by simpa using hdisjoint field hfield)]
      exact hrest field (List.mem_append_right _ hfield)
    rw [Json.Object.filterKeys_filterKeys] at hsecond
    refine hsecond.trans ?_
    simp only [List.contains_append, Bool.not_or]
    rfl

end TakesOut

lemma takesOut_text (n : SavedNode) (field : String) :
    TakesOut n [field] (n.text? field) (n.taking.text field) :=
  .member fun _ hid h => text?_congr hid h

lemma takesOut_params (n : SavedNode) (field : String) (read : Json → Except ParamError α) :
    TakesOut n [field] (n.params? field read) (n.take field (·.params? field read)) :=
  .member fun _ hid h => params?_congr hid h

lemma takesOut_config (n : SavedNode) (k : Kind) :
    TakesOut n k.configFields (n.config? k) (n.taking.config k) := by
  have htext := n.takesOut_text
  cases k with
  | llm =>
    have htemperature : TakesOut n ["temperature"] _ (n.taking.number "temperature") :=
      .member fun _ hid h => number?_congr hid h
    refine (htext "model").bind (fun _ => htemperature.bind (fun _ =>
      (htext "system_prompt").bind (fun _ => .of_ok _) ?_) ?_) ?_ <;> decide
  | docParser =>
    have hmode : TakesOut n ["parse_mode"] _ (n.taking.mode "parse_mode") :=
      .member fun _ hid h => mode?_congr hid h
    exact hmode.bind (fun _ => .of_ok _) (by decide)
  | vision | intent => exact .of_ok _
  | _ => exact (htext _).bind (fun _ => .of_ok _) (by simp)

lemma takesOut_node (n : SavedNode) (k : Kind) :
    TakesOut n k.fields (n.looking.node n.id k) (n.taking.node n.id k) := by
  have houtputs : TakesOut n ["output_params"] (n.looking.outputs "output_params")
      (n.taking.outputs "output_params") := n.takesOut_params "output_params" OutputParam.ofJson
  have hinputs : TakesOut n ["input_params"] (n.looking.inputs "input_params")
      (n.taking.inputs "input_params") := n.takesOut_params "input_params" InputParam.ofJson
  have hfields : k.fields = ["label"] ++ (["description"] ++ (["output_params"] ++
      (["input_params"] ++ (k.configFields ++ [])))) := by simp [Kind.fields]
  rw [hfields]
  refine (n.takesOut_text "label").bind (fun _ => (n.takesOut_text "description").bind (fun _ =>
    houtputs.bind (fun _ => hinputs.bind (fun _ => (n.takesOut_config k).bind (fun _ =>
      .of_ok _) ?_) ?_) ?_) ?_) ?_ <;> cases k <;> decide

/-- **Loading keeps what is not reserved**: a node is what its members say where they stand in the
data, and its free-form data are the members that are not reserved for its kind. -/
theorem decode_eq (n : SavedNode) : n.decode = do
    let kind ← n.kind?
    let node ← n.looking.node n.id kind
    return { node with
      position := n.position.getD .origin
      extra := n.data.filterKeys fun key => !kind.isReserved key } := by
  rw [decode]
  congr 1
  funext kind
  have hkept : ∀ field ∈ kind.fields,
      (n.data.erase "originalType").get? field = n.data.get? field := by
    intro field hfield
    have hne : field ≠ "originalType" := fun h => kind.originalType_notMem_fields (h ▸ hfield)
    simp [Json.Object.erase, hne]
  have hrest : ((n.data.erase "originalType").filterKeys fun key => !kind.fields.contains key) =
      n.data.filterKeys fun key => !kind.isReserved key := by
    rw [Json.Object.erase, Json.Object.filterKeys_filterKeys]
    congr 1
    funext key
    simp [Kind.isReserved_eq]
  rw [n.takesOut_node kind _ hkept, hrest]
  cases n.looking.node n.id kind <;> rfl

end SavedNode

end AgentFlow
