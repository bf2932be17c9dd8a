import Mathlib.Data.List.Nodup
import AgentFlow.Saved.Encode

/-!
The data of a saved node, member by member.

A reserved member holds what the typed place holds, and nothing if that has no value; any other
member is taken over from the free-form data.
-/

namespace AgentFlow

open Json (Object)

/-! ### Lists of members -/

lemma lookup_presentMembers_cons (key name : String) (v : Option Json)
    (ms : List (String × Option Json)) :
    (presentMembers ((name, v) :: ms)).lookup key =
      if key = name then v.or ((presentMembers ms).lookup key)
      else (presentMembers ms).lookup key := by
  cases v with
  | none =>
    have hstep : presentMembers ((name, none) :: ms) = presentMembers ms := rfl
    simp [hstep]
  | some v =>
    have hstep : presentMembers ((name, some v) :: ms) = (name, v) :: presentMembers ms := rfl
    rw [hstep, List.lookup_cons]
    split
    · next h => rw [if_pos (eq_of_beq h), Option.some_or]
    · next h => rw [if_neg (ne_of_beq_false h)]

lemma lookup_presentMembers_nil (key : String) : (presentMembers []).lookup key = none := rfl

lemma keys_presentMembers_sublist (ms : List (String × Option Json)) :
    ((presentMembers ms).map Prod.fst).Sublist (ms.map Prod.fst) := by
  induction ms with
  | nil => exact .slnil
  | cons m ms ih =>
    obtain ⟨name, v⟩ := m
    cases v with
    | none => exact ih.cons name
    | some v => exact ih.cons_cons name

/-- The value of a member after members with different names were inserted. -/
lemma get?_foldl_insert {ms : List (String × Json)} (hnd : (ms.map Prod.fst).Nodup) (o : Object)
    (key : String) :
    (ms.foldl (fun o (k, v) => o.insert k v) o).get? key = (ms.lookup key).or (o.get? key) := by
  induction ms generalizing o with
  | nil => simp
  | cons m ms ih =>
    obtain ⟨name, v⟩ := m
    rw [List.map_cons, List.nodup_cons] at hnd
    rw [List.foldl_cons, ih hnd.2, Object.get?_insert, List.lookup_cons]
    split
    · next h =>
      have hnone : ms.lookup key = none := by
        rw [List.lookup_eq_none_iff]
        intro m hm
        rw [bne_iff_ne]
        rintro rfl
        exact hnd.1 (List.mem_map.2 ⟨m, hm, h⟩)
      rw [hnone, ← h]
      simp
    · next h => simp [beq_false_of_ne h]

lemma filterKeys_foldl_insert {ms : List (String × Json)} {p : String → Bool}
    (hp : ∀ m ∈ ms, p m.1 = false) (o : Object) :
    (ms.foldl (fun o (k, v) => o.insert k v) o).filterKeys p = o.filterKeys p := by
  induction ms generalizing o with
  | nil => rfl
  | cons m ms ih =>
    rw [List.foldl_cons, ih fun m hm => hp m (List.mem_cons_of_mem _ hm)]
    exact Object.filterKeys_insert o m.2 (hp m List.mem_cons_self)

/-! ### Typed members -/

/-- What a configuration holds for a reserved name. -/
def Config.member? (c : Config) (key : String) : Option Json :=
  match c with
  | .start template | .finish template =>
    if key = "reply_template" then template.map .string else none
  | .llm settings =>
    if key = "model" then some (.string settings.model)
    else if key = "temperature" then some (.ofBinary64 settings.temperature)
    else if key = "system_prompt" then settings.systemPrompt.map .string
    else none
  | .knowledge base => if key = "knowledge_base_id" then base.map .string else none
  | .tool name => if key = "tool_name" then name.map .string else none
  | .mcp server => if key = "mcp_server" then server.map .string else none
  | .docParser mode => if key = "parse_mode" then some (.string mode.name) else none
  | .vision | .intent => none

/-- What the typed places hold for a reserved name. -/
def Node.member? (n : Node) (key : String) : Option Json :=
  if key = "label" then some (.string n.label)
  else if key = "description" then n.description.map .string
  else if key = "output_params" then
    if n.outputs = [] then none else some (.array (n.outputs.map OutputParam.toJson))
  else if key = "input_params" then
    if n.inputs = [] then none else some (.array (n.inputs.map InputParam.toJson))
  else n.config.member? key

lemma keys_config_sublist (c : Config) :
    (c.members.map Prod.fst).Sublist c.kind.configFields := by
  cases c with
  | docParser mode => exact .refl _
  | vision => exact .slnil
  | intent => exact .slnil
  | _ => exact keys_presentMembers_sublist _

lemma keys_typedMembers_sublist (n : Node) :
    (n.typedMembers.map Prod.fst).Sublist
      (["label", "description"] ++ n.kind.configFields ++ ["output_params", "input_params"]) := by
  rw [Node.typedMembers, List.map_append, List.map_append]
  exact ((keys_presentMembers_sublist _).append (keys_config_sublist n.config)).append
    (keys_presentMembers_sublist _)

lemma nodup_typedMembers (n : Node) : (n.typedMembers.map Prod.fst).Nodup := by
  refine List.Nodup.sublist (keys_typedMembers_sublist n) ?_
  cases n.kind <;> decide

/-- Every typed member has a reserved name, and none is the name of the original type. -/
lemma isReserved_of_mem_typedMembers {n : Node} {m : String × Json} (hm : m ∈ n.typedMembers) :
    n.kind.isReserved m.1 = true ∧ m.1 ≠ "originalType" := by
  have hmem := (keys_typedMembers_sublist n).subset (List.mem_map_of_mem hm)
  generalize m.1 = key at hmem
  revert key
  cases n.kind <;> decide

lemma lookup_config_members (c : Config) (key : String) :
    c.members.lookup key = c.member? key := by
  cases c <;>
    simp only [Config.members, Config.member?, lookup_presentMembers_cons,
      lookup_presentMembers_nil, Option.or_none, Option.some_or]
  case docParser mode =>
    rw [List.lookup_cons]
    split <;> simp_all
  all_goals rfl

lemma listed_eq {α : Type} (f : α → Json) (as : List α) :
    Node.listed f as = if as = [] then none else some (.array (as.map f)) := by
  cases as <;> rfl

lemma lookup_typedMembers (n : Node) (key : String) :
    n.typedMembers.lookup key = n.member? key := by
  simp only [Node.typedMembers, Node.member?, List.lookup_append, lookup_config_members,
    lookup_presentMembers_cons, lookup_presentMembers_nil, Option.or_none, listed_eq]
  -- no configuration holds a member with one of the four shared names
  have hshared : ∀ name ∈ ["label", "description", "output_params", "input_params"],
      n.config.member? name = none := by
    cases n.config <;> simp [Config.member?]
  by_cases hl : key = "label"
  · simp [hl]
  by_cases hd : key = "description"
  · simp [hd, hshared]
  by_cases ho : key = "output_params"
  · simp [ho, hshared]
  by_cases hi : key = "input_params"
  · simp [hi, hshared]
  simp [hl, hd, ho, hi]

lemma member?_eq_none {n : Node} {key : String}
    (h : n.kind.isReserved key = false ∨ key = "originalType") : n.member? key = none := by
  rw [← lookup_typedMembers, List.lookup_eq_none_iff]
  intro m hm
  obtain ⟨hres, hne⟩ := isReserved_of_mem_typedMembers hm
  rw [bne_iff_ne]
  rintro rfl
  rcases h with h | h
  · rw [h] at hres; cases hres
  · exact hne h

/-- A saved node's data: typed places under the reserved names, free-form data under the others. -/
lemma get?_encode (n : Node) (key : String) :
    n.encode.data.get? key =
      if n.kind.isReserved key then n.member? key else n.extra.get? key := by
  rw [Node.encode, get?_foldl_insert (nodup_typedMembers n), lookup_typedMembers,
    Object.get?_filterKeys]
  by_cases h : n.kind.isReserved key
  · simp [h]
  · rw [Bool.not_eq_true] at h
    simp [h, member?_eq_none (.inl h)]

/-- The free-form part of a saved node's data. -/
lemma filterKeys_encode (n : Node) :
    (n.encode.data.filterKeys fun key => !n.kind.isReserved key) =
      n.extra.filterKeys fun key => !n.kind.isReserved key := by
  rw [Node.encode, filterKeys_foldl_insert, Object.filterKeys_self]
  intro m hm
  simp [(isReserved_of_mem_typedMembers hm).1]

end AgentFlow
