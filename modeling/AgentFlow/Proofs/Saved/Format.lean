import AgentFlow.Proofs.Checking
import AgentFlow.Proofs.Saved.ParamRecords
import AgentFlow.Proofs.Saved.Stability
import AgentFlow.Proofs.Workflow.Listing

/-!
The format of saved flows.

What a node has to look like is said member by member: which form each member has to have, and what
is wrong with one that does not have it. Loading accepts the flows whose nodes have that form and
different ids, and no others, and it names the first offence: the nodes are looked at in their
order, of a node its type before its members, and the ids when all nodes are well formed.
-/

namespace AgentFlow

/-! ### Forms of members -/

/-- What a member of a node's data is read as. -/
inductive Form where
  | text
  | number
  | mode
  | outputs
  | inputs
deriving DecidableEq

namespace Form

def ofField (field : String) : Form :=
  if field = "temperature" then .number
  else if field = "parse_mode" then .mode
  else if field = "output_params" then .outputs
  else if field = "input_params" then .inputs
  else .text

/-- The values that a member of a form may have. -/
inductive Fits : Form → Option Json → Prop where
  | absent (form : Form) : Fits form none
  | null (form : Form) : Fits form (some .null)
  | text (s : String) : Fits .text (some (.string s))
  | number (x : Json.Number) : Fits .number (some (.number x))
  | blank {s : String} (h : Text.trim s.toList = []) : Fits .number (some (.string s))
  | numeric {s : String} (h : (Binary64.parse? (Text.trim s.toList)).isSome = true) :
    Fits .number (some (.string s))
  | mode {s : String} (h : s = "" ∨ s = "fast" ∨ s = "accurate") : Fits .mode (some (.string s))
  | outputs {vs : List Json} (h : ∀ v ∈ vs, OutputParam.IsRecord v) :
    Fits .outputs (some (.array vs))
  | inputs {vs : List Json} (h : ∀ v ∈ vs, InputParam.IsRecord v) :
    Fits .inputs (some (.array vs))

/-- What is wrong with a member that does not have its form. -/
inductive Fault : Form → Option Json → FieldProblem → Prop where
  | notString {form : Form} {v : Json} (hform : form = .text ∨ form = .mode) (hnull : v ≠ .null)
      (hstring : ∀ s, v ≠ .string s) : Fault form (some v) (.notString v)
  | notNumber {v : Json} (hnull : v ≠ .null) (hnumber : ∀ x, v ≠ .number x)
      (hstring : ∀ s, v ≠ .string s) : Fault .number (some v) (.notNumber v)
  | notNumeric {s : String} (hblank : Text.trim s.toList ≠ [])
      (hnone : Binary64.parse? (Text.trim s.toList) = none) :
    Fault .number (some (.string s)) (.notNumeric s)
  | unknownMode {s : String} (h : ¬(s = "" ∨ s = "fast" ∨ s = "accurate")) :
    Fault .mode (some (.string s)) (.unknownMode s)
  | notList {form : Form} {v : Json} (hform : form = .outputs ∨ form = .inputs) (hnull : v ≠ .null)
      (harray : ∀ vs, v ≠ .array vs) :
    Fault form (some v) (.badParams (.wrongType v "a sequence"))
  | badOutput {vs : List Json} {cause : ParamError}
      (h : FirstBad OutputParam.IsRecord (fun v cause => OutputParam.ofJson v = .error cause) vs
        cause) : Fault .outputs (some (.array vs)) (.badParams cause)
  | badInput {vs : List Json} {cause : ParamError}
      (h : FirstBad InputParam.IsRecord (fun v cause => InputParam.ofJson v = .error cause) vs
        cause) : Fault .inputs (some (.array vs)) (.badParams cause)

end Form

/-! ### Forms of nodes -/

namespace SavedNode

/-- The name of the node's type: its own type, or the original one under the placeholder. -/
inductive TypeName (n : SavedNode) : String → Prop where
  | own (h : n.type ≠ "common") : n.TypeName n.type
  | original {name : String} (h : n.type = "common")
      (hname : n.data.get? "originalType" = some (.string name)) : n.TypeName name

def OfKind (n : SavedNode) (k : Kind) : Prop := n.TypeName k.name

def Fits (n : SavedNode) (field : String) : Prop := (Form.ofField field).Fits (n.data.get? field)

def WellFormed (n : SavedNode) : Prop := ∃ k, n.OfKind k ∧ ∀ field ∈ k.fields, n.Fits field

/-- What is reported of a member. -/
def Faults (n : SavedNode) (field : String) (e : LoadError) : Prop :=
  ∃ problem, (Form.ofField field).Fault (n.data.get? field) problem ∧
    e = .invalidField n.id field problem

/-- What is reported of a node whose kind cannot be told. -/
inductive NoKind (n : SavedNode) : LoadError → Prop where
  | noName (h : n.type = "common")
      (hnone : ∀ name, n.data.get? "originalType" ≠ some (.string name)) :
    n.NoKind (.unknownType n.id n.type)
  | unknownName {name : String} (hname : n.TypeName name) (hnone : ∀ k : Kind, k.name ≠ name) :
    n.NoKind (.unknownType n.id name)

/-- What is reported of a node that is not well formed: that its kind cannot be told, or else the
first fault among its members. -/
inductive Offends (n : SavedNode) : LoadError → Prop where
  | kind {e : LoadError} (h : n.NoKind e) : n.Offends e
  | field {k : Kind} {e : LoadError} (hkind : n.OfKind k)
      (h : FirstBad n.Fits n.Faults k.fields e) : n.Offends e

end SavedNode

namespace SavedFlow

structure WellFormed (f : SavedFlow) : Prop where
  nodes : ∀ n ∈ f.nodes, n.WellFormed
  nodup_ids : (f.nodes.map SavedNode.id).Nodup

/-- What is reported of a flow that is not well formed. -/
inductive FirstOffence (f : SavedFlow) : LoadError → Prop where
  | node {e : LoadError} (h : FirstBad SavedNode.WellFormed SavedNode.Offends f.nodes e) :
    f.FirstOffence e
  | repeatedId {id : String} (hnodes : ∀ n ∈ f.nodes, n.WellFormed)
      (h : FirstRepeat (f.nodes.map SavedNode.id) id) : f.FirstOffence (.duplicateNode id)

end SavedFlow

/-! ### Names of kinds and modes -/

lemma Kind.ofName?_eq_some_iff {name : String} {k : Kind} :
    ofName? name = some k ↔ k.name = name := by
  constructor
  · intro h
    simpa using List.find?_some h
  · rintro rfl
    cases k <;> decide

lemma Kind.ofName?_eq_none_iff {name : String} :
    ofName? name = none ↔ ∀ k : Kind, k.name ≠ name := by
  rw [Option.eq_none_iff_forall_ne_some]
  exact forall_congr' fun k => not_congr ofName?_eq_some_iff

lemma ParseMode.ofName?_eq_none_iff {name : String} :
    ofName? name = none ↔ ¬(name = "fast" ∨ name = "accurate") := by
  rw [ofName?, List.find?_eq_none, List.forall_mem_cons, List.forall_mem_singleton]
  simp [ParseMode.name, eq_comm]

/-! ### Reading members -/

namespace Form

lemma Fits.not_fault {form : Form} {v : Option Json} {problem : FieldProblem} (h : form.Fits v) :
    ¬form.Fault v problem := by
  intro hfault
  cases hfault with
  | notString hform hnull hstring =>
    cases h with
    | null => exact hnull rfl
    | text s | mode h => exact hstring _ rfl
    | _ => simp at hform
  | notNumber hnull hnumber hstring =>
    cases h with
    | null => exact hnull rfl
    | number x => exact hnumber x rfl
    | blank h | numeric h => exact hstring _ rfl
  | notNumeric hblank hnone =>
    cases h with
    | blank h => exact hblank h
    | numeric h => simp [hnone] at h
  | unknownMode hmode =>
    cases h with
    | mode h => exact hmode h
  | notList hform hnull harray =>
    cases h with
    | null => exact hnull rfl
    | outputs h | inputs h => exact harray _ rfl
    | _ => simp at hform
  | badOutput hbad =>
    cases h with
    | outputs h =>
      exact (Checks.of_reader (fun _ => OutputParam.exists_ofJson_iff) _).not_firstBad h hbad
  | badInput hbad =>
    cases h with
    | inputs h =>
      exact (Checks.of_reader (fun _ => InputParam.exists_ofJson_iff) _).not_firstBad h hbad

lemma Fault.unique {form : Form} {v : Option Json} {p q : FieldProblem} (hp : form.Fault v p)
    (hq : form.Fault v q) : p = q := by
  cases hp with
  | notString hform hnull hstring =>
    cases hq with
    | notString => rfl
    | notNumeric | unknownMode => exact absurd rfl (hstring _)
    | notList hform' => rcases hform with rfl | rfl <;> simp at hform'
    | _ => simp at hform
  | notNumber hnull hnumber hstring =>
    cases hq with
    | notNumber => rfl
    | notNumeric => exact absurd rfl (hstring _)
    | notString hform | notList hform => simp at hform
  | notNumeric hblank hnone =>
    cases hq with
    | notNumeric => rfl
    | notString hform | notList hform => simp at hform
    | notNumber hnull hnumber hstring => exact absurd rfl (hstring _)
  | unknownMode hmode =>
    cases hq with
    | unknownMode => rfl
    | notString hform hnull hstring => exact absurd rfl (hstring _)
    | notList hform => simp at hform
  | notList hform hnull harray =>
    cases hq with
    | notList => rfl
    | badOutput | badInput => exact absurd rfl (harray _)
    | notString hform' => rcases hform with rfl | rfl <;> simp at hform'
    | _ => simp at hform
  | badOutput hbad =>
    cases hq with
    | badOutput hbad' =>
      rw [(Checks.of_reader (fun _ => OutputParam.exists_ofJson_iff) _).firstBad_unique hbad hbad']
    | notString hform => simp at hform
    | notList hform hnull harray => exact absurd rfl (harray _)
  | badInput hbad =>
    cases hq with
    | badInput hbad' =>
      rw [(Checks.of_reader (fun _ => InputParam.exists_ofJson_iff) _).firstBad_unique hbad hbad']
    | notString hform => simp at hform
    | notList hform hnull harray => exact absurd rfl (harray _)

end Form

namespace SavedNode

variable {n : SavedNode} {field : String}

/-- A reader of a single member checks it, if it succeeds only on what has the form of the member
and otherwise reports the fault. -/
lemma checks_of_form {α : Type} {form : Form} (hform : Form.ofField field = form)
    {x : Except LoadError α} (hok : ∀ a, x = .ok a → form.Fits (n.data.get? field))
    (herror : ∀ e, x = .error e → ∃ problem, form.Fault (n.data.get? field) problem ∧
      e = .invalidField n.id field problem) : Checks n.Fits n.Faults [field] x := by
  subst hform
  refine .single ?_ ?_ hok herror
  · rintro e hfits ⟨problem, hfault, -⟩
    exact Form.Fits.not_fault hfits hfault
  · rintro _ _ ⟨p, hp, rfl⟩ ⟨q, hq, rfl⟩
    rw [hp.unique hq]

lemma checks_text? (hform : Form.ofField field = .text) :
    Checks n.Fits n.Faults [field] (n.text? field) := by
  unfold text?
  refine checks_of_form hform ?_ ?_ <;> generalize n.data.get? field = v
  · intro text h
    split at h
    · exact .absent _
    · exact .null _
    · exact .text _
    · cases h
  · intro e h
    split at h
    · cases h
    · cases h
    · cases h
    · next v hnull hstring =>
      cases h
      exact ⟨_, .notString (.inl rfl) hnull hstring, rfl⟩

lemma checks_number? (hform : Form.ofField field = .number) :
    Checks n.Fits n.Faults [field] (n.number? field) := by
  unfold number?
  refine checks_of_form hform ?_ ?_ <;> generalize n.data.get? field = v
  · intro x h
    split at h
    · exact .absent _
    · exact .null _
    · exact .number _
    · next s =>
      dsimp only at h
      split at h
      · next hblank => exact .blank (List.isEmpty_iff.1 hblank)
      · split at h
        · next hsome => exact .numeric (by rw [hsome]; rfl)
        · cases h
    · cases h
  · intro e h
    split at h
    · cases h
    · cases h
    · cases h
    · next s =>
      dsimp only at h
      split at h
      · cases h
      · next hblank =>
        split at h
        · cases h
        · next hnone =>
          cases h
          exact ⟨_, .notNumeric (mt List.isEmpty_iff.2 hblank) hnone, rfl⟩
    · next v hnull hnumber hstring =>
      cases h
      exact ⟨_, .notNumber hnull hnumber hstring, rfl⟩

lemma checks_mode? (hform : Form.ofField field = .mode) :
    Checks n.Fits n.Faults [field] (n.mode? field) := by
  unfold mode? text?
  refine checks_of_form hform ?_ ?_ <;> generalize n.data.get? field = v
  · intro mode h
    obtain ⟨name?, htext, h⟩ := exists_of_bind_ok h
    split at htext
    · exact .absent _
    · exact .null _
    · next s =>
      cases htext
      split at h
      · next hempty => exact .mode (.inl (by simpa using hempty))
      · next name hname =>
        obtain ⟨-, rfl⟩ : s ≠ "" ∧ s = name := by simpa using hname
        split at h
        · next hsome =>
          refine .mode (.inr (by_contra fun hnot => ?_))
          rw [ParseMode.ofName?_eq_none_iff.2 hnot] at hsome
          cases hsome
        · cases h
    · cases htext
  · intro e h
    rcases bind_eq_error_iff.1 h with htext | ⟨name?, htext, h⟩
    · split at htext
      · cases htext
      · cases htext
      · cases htext
      · next v hnull hstring =>
        cases htext
        exact ⟨_, .notString (.inr rfl) hnull hstring, rfl⟩
    · split at htext
      · cases htext; cases h
      · cases htext; cases h
      · next s =>
        cases htext
        split at h
        · cases h
        · next name hname =>
          obtain ⟨hempty, rfl⟩ : s ≠ "" ∧ s = name := by simpa using hname
          split at h
          · cases h
          · next hnone =>
            cases h
            have hname := ParseMode.ofName?_eq_none_iff.1 hnone
            exact ⟨_, .unknownMode (not_or.2 ⟨hempty, hname⟩), rfl⟩
      · cases htext

lemma checks_params? {α : Type} {form : Form} {read : Json → Except ParamError α}
    {IsRecord : Json → Prop} (hform : Form.ofField field = form)
    (hlist : form = .outputs ∨ form = .inputs) (hread : ∀ v, (∃ p, read v = .ok p) ↔ IsRecord v)
    (hfits : ∀ vs, (∀ v ∈ vs, IsRecord v) → form.Fits (some (.array vs)))
    (hfault : ∀ vs cause, FirstBad IsRecord (fun v cause => read v = .error cause) vs cause →
      form.Fault (some (.array vs)) (.badParams cause)) :
    Checks n.Fits n.Faults [field] (n.params? field read) := by
  unfold params?
  refine checks_of_form hform ?_ ?_ <;> generalize n.data.get? field = v
  · intro ps h
    split at h
    · exact .absent _
    · exact .null _
    · have hps := ok_of_mapError h
      unfold Json.expectList at hps
      split at hps
      · exact hfits _ ((Checks.of_reader hread _).ok_iff.1 ⟨ps, hps⟩)
      · cases hps
  · intro e h
    split at h
    · cases h
    · cases h
    · next v hnull =>
      obtain ⟨cause, hcause, rfl⟩ := error_of_mapError h
      unfold Json.expectList at hcause
      split at hcause
      · exact ⟨_, hfault _ _ (((Checks.of_reader hread _).error_iff _).1 hcause), rfl⟩
      · next harray =>
        cases hcause
        exact ⟨_, .notList hlist hnull harray, rfl⟩

lemma checks_config? (k : Kind) : Checks n.Fits n.Faults k.configFields (n.config? k) := by
  cases k with
  | llm =>
    exact (checks_text? (by decide)).bind fun _ _ => (checks_number? (by decide)).bind fun _ _ =>
      (checks_text? (by decide)).bind fun _ _ => .of_ok _
  | docParser => exact (checks_mode? (by decide)).bind fun _ _ => .of_ok _
  | vision | intent => exact .of_ok _
  | _ => exact (checks_text? (by decide)).bind fun _ _ => .of_ok _

/-! ### Reading nodes -/

lemma typeName?_eq_ok_iff {name : String} : n.typeName? = .ok name ↔ n.TypeName name := by
  unfold typeName? placeholderType
  constructor
  · intro h
    split at h
    · next hcommon =>
      split at h
      · next hname =>
        cases h
        exact .original hcommon hname
      · cases h
    · next hown =>
      cases h
      exact .own hown
  · rintro (hown | ⟨hcommon, hname⟩)
    · rw [if_neg hown]
    · rw [if_pos hcommon, hname]

lemma kind?_eq_ok_iff {k : Kind} : n.kind? = .ok k ↔ n.OfKind k := by
  rw [OfKind, ← typeName?_eq_ok_iff, kind?, bind_eq_ok_iff]
  constructor
  · rintro ⟨name, hname, h⟩
    split at h
    · next hsome =>
      cases h
      rwa [Kind.ofName?_eq_some_iff.1 hsome]
    · cases h
  · intro h
    refine ⟨k.name, h, ?_⟩
    rw [Kind.ofName?_eq_some_iff.2 rfl]
    rfl

lemma kind?_eq_error_iff {e : LoadError} : n.kind? = .error e ↔ n.NoKind e := by
  rw [kind?, bind_eq_error_iff]
  constructor
  · rintro (h | ⟨name, hname, h⟩)
    · unfold typeName? placeholderType at h
      split at h
      · next hcommon =>
        split at h
        · cases h
        · next hnone =>
          cases h
          exact .noName hcommon hnone
      · cases h
    · split at h
      · cases h
      · next hnone =>
        cases h
        exact .unknownName (typeName?_eq_ok_iff.1 hname) (Kind.ofName?_eq_none_iff.1 hnone)
  · rintro (⟨hcommon, hnone⟩ | ⟨hname, hnone⟩)
    · refine .inl ?_
      unfold typeName? placeholderType
      rw [if_pos hcommon]
      split
      · next name hname => exact absurd hname (hnone name)
      · rfl
    · refine .inr ⟨_, typeName?_eq_ok_iff.2 hname, ?_⟩
      rw [Kind.ofName?_eq_none_iff.2 hnone]

/-- Telling the kind and then checking the members of that kind is a check of the node. -/
lemma checks_kind?_bind {α : Type} {f : Kind → Except LoadError α}
    (hf : ∀ k, Checks n.Fits n.Faults k.fields (f k)) :
    Checks WellFormed Offends [n] (n.kind? >>= f) where
  ok_iff := by
    simp only [bind_eq_ok_iff, List.forall_mem_singleton, WellFormed]
    rw [exists_comm]
    exact exists_congr fun k => by
      rw [exists_and_left, kind?_eq_ok_iff, (hf k).ok_iff]
  error_iff e := by
    rw [bind_eq_error_iff, kind?_eq_error_iff, firstBad_cons_iff]
    simp only [not_firstBad_nil, and_false, or_false, kind?_eq_ok_iff, (hf _).error_iff]
    constructor
    · rintro (h | ⟨k, hk, h⟩)
      · exact .kind h
      · exact .field hk h
    · rintro (h | ⟨hk, h⟩)
      · exact .inl h
      · exact .inr ⟨_, hk, h⟩

lemma checks_node (n : SavedNode) (k : Kind) :
    Checks n.Fits n.Faults k.fields (n.looking.node n.id k) := by
  have houtputs : Checks n.Fits n.Faults ["output_params"] (n.params? _ OutputParam.ofJson) :=
    checks_params? (by decide) (.inl rfl) (fun _ => OutputParam.exists_ofJson_iff)
      (fun _ => .outputs) (fun _ _ => .badOutput)
  have hinputs : Checks n.Fits n.Faults ["input_params"] (n.params? _ InputParam.ofJson) :=
    checks_params? (by decide) (.inr rfl) (fun _ => InputParam.exists_ofJson_iff)
      (fun _ => .inputs) (fun _ _ => .badInput)
  have hfields : k.fields = ["label"] ++ (["description"] ++ (["output_params"] ++
      (["input_params"] ++ (k.configFields ++ [])))) := by simp [Kind.fields]
  rw [hfields]
  exact (checks_text? (by decide)).bind fun _ _ => (checks_text? (by decide)).bind fun _ _ =>
    houtputs.bind fun _ _ => hinputs.bind fun _ _ => (checks_config? k).bind fun _ _ => .of_ok _

/-- A node is checked for its kind, and then member by member. -/
lemma checks_decode (n : SavedNode) : Checks WellFormed Offends [n] n.decode := by
  rw [decode_eq]
  refine checks_kind?_bind fun k => ?_
  have hfields : k.fields = k.fields ++ [] := (List.append_nil _).symm
  rw [hfields]
  exact (checks_node n k).bind fun _ _ => .of_ok _

lemma ids_of_mapM_decode {ns : List SavedNode} {ms : List Node} (h : ns.mapM decode = .ok ms) :
    ms.map Node.id = ns.map id := by
  refine List.forall₂_eq_eq_eq ▸ List.forall₂_map_left_iff.2 (List.forall₂_map_right_iff.2 ?_)
  exact (forall₂_of_mapM h).flip.imp fun _ _ hread => (readAs_of_decode hread).id

end SavedNode

/-! ### Reading flows -/

namespace SavedFlow

variable {f : SavedFlow}

lemma decode_eq_error_iff {e : LoadError} :
    f.decode = .error e ↔ f.nodes.mapM SavedNode.decode = .error e ∨
      ∃ ns, f.nodes.mapM SavedNode.decode = .ok ns ∧
        ∃ id, FirstRepeat (ns.map Node.id) id ∧ e = .duplicateNode id := by
  rw [decode, bind_eq_error_iff]
  refine or_congr_right (exists_congr fun ns => and_congr_right fun _ => ?_)
  have hparts : ∀ e, Graph.ofParts? ns (f.edges.map SavedEdge.decode) = .error e ↔
      ∃ id, FirstRepeat (ns.map Node.id) id ∧ e = .duplicateNode id :=
    fun _ => Graph.ofParts?_eq_error_iff
  cases h : Graph.ofParts? ns (f.edges.map SavedEdge.decode) with
  | ok g =>
    refine iff_of_false (by simp [pure, Except.pure]) ?_
    rintro ⟨id, hid, -⟩
    cases h.symm.trans ((hparts _).2 ⟨id, hid, rfl⟩)
  | error e' =>
    obtain ⟨id, hid, rfl⟩ := (hparts _).1 h
    constructor
    · intro he
      cases he
      exact ⟨id, hid, rfl⟩
    · rintro ⟨id', hid', rfl⟩
      cases h.symm.trans ((hparts _).2 ⟨id', hid', rfl⟩)
      rfl

lemma exists_decode_iff : (∃ g, f.decode = .ok g) ↔ f.WellFormed := by
  have hchecks := Checks.mapM SavedNode.checks_decode f.nodes
  constructor
  · rintro ⟨g, hg⟩
    obtain ⟨ns, hns, hparts⟩ := decode_eq_ok_iff.1 hg
    refine ⟨hchecks.ok_iff.1 ⟨ns, hns⟩, ?_⟩
    rw [← SavedNode.ids_of_mapM_decode hns]
    exact Graph.exists_ofParts?_iff.1 ⟨g, hparts⟩
  · rintro ⟨hnodes, hids⟩
    obtain ⟨ns, hns⟩ := hchecks.ok_iff.2 hnodes
    rw [← SavedNode.ids_of_mapM_decode hns] at hids
    obtain ⟨g, hparts⟩ := Graph.exists_ofParts? (f.edges.map SavedEdge.decode) hids
    exact ⟨g, decode_eq_ok_iff.2 ⟨ns, hns, hparts⟩⟩

lemma decode_eq_error_iff_firstOffence {e : LoadError} :
    f.decode = .error e ↔ f.FirstOffence e := by
  have hchecks := Checks.mapM SavedNode.checks_decode f.nodes
  rw [decode_eq_error_iff, hchecks.error_iff]
  constructor
  · rintro (h | ⟨ns, hns, id, hid, rfl⟩)
    · exact .node h
    · rw [SavedNode.ids_of_mapM_decode hns] at hid
      exact .repeatedId (hchecks.ok_iff.1 ⟨ns, hns⟩) hid
  · rintro (h | ⟨hnodes, hid⟩)
    · exact .inl h
    · obtain ⟨ns, hns⟩ := hchecks.ok_iff.2 hnodes
      rw [← SavedNode.ids_of_mapM_decode hns] at hid
      exact .inr ⟨ns, hns, _, hid, rfl⟩

end SavedFlow

/-! ### What loading does not look at -/

/-- The node without the parts that are taken over as they are. -/
def Node.typedPart (n : Node) : Node := { n with position := .origin, extra := .empty }

namespace SavedNode

/-- Two saved nodes that differ at most in their positions and in members that do not belong to
their kind. -/
structure ReadsAlike (n n' : SavedNode) : Prop where
  id : n.id = n'.id
  type : n.type = n'.type
  originalType : n.type = "common" → n.data.get? "originalType" = n'.data.get? "originalType"
  fields : ∀ k, n.OfKind k → ∀ field ∈ k.fields, n.data.get? field = n'.data.get? field

variable {n n' : SavedNode} {field : String}

lemma ReadsAlike.kind?_eq (h : n.ReadsAlike n') : n.kind? = n'.kind? := by
  have hname : n.typeName? = n'.typeName? := by
    unfold typeName? placeholderType
    by_cases hcommon : n.type = "common"
    · rw [h.type, h.id, h.originalType hcommon]
    · rw [← h.type, if_neg hcommon, if_neg hcommon]
  rw [kind?, kind?, hname, h.id]

lemma ReadsAlike.map_decode_eq (h : n.ReadsAlike n') :
    n.decode.map Node.typedPart = n'.decode.map Node.typedPart := by
  rw [decode_eq, decode_eq, ← h.kind?_eq]
  cases hkind : n.kind? with
  | error e => rfl
  | ok k =>
    have hnode : n.looking.node n.id k = n'.looking.node n'.id k :=
      node_congr h.id (h.fields k (kind?_eq_ok_iff.1 hkind))
    change Except.map _ (n.looking.node n.id k >>= _) = Except.map _ (n'.looking.node n'.id k >>= _)
    rw [hnode]
    exact map_bind_congr fun node => rfl

lemma map_mapM_decode_eq {ns ns' : List SavedNode} (h : List.Forall₂ ReadsAlike ns ns') :
    (ns.mapM decode).map (List.map Node.typedPart) =
      (ns'.mapM decode).map (List.map Node.typedPart) := by
  rw [map_mapM, map_mapM]
  induction h with
  | nil => rfl
  | cons hn _ ih => rw [List.mapM_cons, List.mapM_cons, hn.map_decode_eq, ih]

end SavedNode

namespace SavedFlow

lemma ids_eq_of_typedPart {ns ns' : List Node}
    (h : ns.map Node.typedPart = ns'.map Node.typedPart) : ns.map Node.id = ns'.map Node.id := by
  have hid : Node.id ∘ Node.typedPart = Node.id := rfl
  rw [← hid, ← List.map_map, h, List.map_map]

lemma map_decode_eq {f f' : SavedFlow} (h : List.Forall₂ SavedNode.ReadsAlike f.nodes f'.nodes) :
    (f.decode.map fun g => g.nodes.map Node.typedPart) =
      f'.decode.map fun g => g.nodes.map Node.typedPart := by
  have hmap := SavedNode.map_mapM_decode_eq h
  cases hf : f.decode with
  | error e =>
    suffices hf' : f'.decode = .error e by rw [hf']
    rcases decode_eq_error_iff.1 hf with hns | ⟨ns, hns, id, hid, rfl⟩
    · exact decode_eq_error_iff.2 (.inl (error_of_map_eq hmap hns))
    · obtain ⟨ns', hns', htyped⟩ := exists_of_map_eq hmap hns
      rw [ids_eq_of_typedPart htyped] at hid
      exact decode_eq_error_iff.2 (.inr ⟨ns', hns', id, hid, rfl⟩)
  | ok g =>
    obtain ⟨ns, hns, hparts⟩ := decode_eq_ok_iff.1 hf
    obtain ⟨ns', hns', htyped⟩ := exists_of_map_eq hmap hns
    have hids : (ns'.map Node.id).Nodup := by
      rw [← ids_eq_of_typedPart htyped]
      exact Graph.exists_ofParts?_iff.1 ⟨g, hparts⟩
    obtain ⟨g', hparts'⟩ := Graph.exists_ofParts? (f'.edges.map SavedEdge.decode) hids
    rw [decode_eq_ok_iff.2 ⟨ns', hns', hparts'⟩]
    change Except.ok (g.nodes.map Node.typedPart) = .ok (g'.nodes.map Node.typedPart)
    rw [(Graph.parts_of_ofParts? hparts).1, (Graph.parts_of_ofParts? hparts').1, htyped]

/-- Loading a flow checks its format and looks at nothing else. -/
structure LoadsByFormat (f : SavedFlow) : Prop where
  accepts : (∃ g, f.decode = .ok g) ↔ f.WellFormed
  refuses : ∀ e, f.decode = .error e ↔ f.FirstOffence e
  ignores : ∀ f' : SavedFlow, List.Forall₂ SavedNode.ReadsAlike f.nodes f'.nodes →
    (f.decode.map fun g => g.nodes.map Node.typedPart) =
      f'.decode.map fun g => g.nodes.map Node.typedPart

/-- **What loading accepts and reports**: exactly the flows of the format load, any other is refused
for its first offence, and neither edges, positions nor members of no use to the kind matter. -/
theorem loadsByFormat (f : SavedFlow) : f.LoadsByFormat where
  accepts := exists_decode_iff
  refuses _ := decode_eq_error_iff_firstOffence
  ignores _ := map_decode_eq

end SavedFlow

end AgentFlow
