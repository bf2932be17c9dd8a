import Mathlib.Tactic.Lemma
import AgentFlow.Backend.Client
import AgentFlow.Proofs.Text.Splitting

/-!
What the address of a request tells.

Ids are put into paths as they are. The method and the path of a request about agents or knowledge
bases tell the operation and its ids, as long as the ids have no slashes of their own. With them an
id may spell out the path to a part of something else, and the path to a document may be cut into
the ids of its base and of itself in more than one way. These are the only ways in which two calls
are confused.
-/

namespace AgentFlow

/-- The requests go to one address, whatever they carry. -/
structure Request.SameAddress (r s : Request) : Prop where
  method : r.method = s.method
  url : r.url = s.url
  query : r.query = s.query

/-! ### Calls that are one, and calls that are confused -/

namespace Operation

/-- Whether the operation is about model resources. -/
def concernsResources : Operation → Bool
  | .listResources | .availableResources _ | .createResource _ | .updateResource _ _
  | .deleteResource _ | .testConnection _ | .setDefaultResource _ | .testResource _ _ => true
  | _ => false

def ids : Operation → List String
  | .listAgents | .createAgent _ | .generateFlow _ | .listResources | .availableResources _
  | .createResource _ | .listBases | .createBase _ => []
  | .getAgent id | .updateAgent id _ | .deleteAgent id | .exportAgent id | .agentFlow id
  | .runAgent id _ | .updateResource id _ | .deleteResource id | .testConnection id
  | .setDefaultResource id | .testResource id _ | .getBase id | .deleteBase id
  | .upload id _ _ | .search id _ | .publish id | .unpublish id => [id]
  | .process base document | .preview base document | .chunks base document => [base, document]

/-- One operation is called twice with the same ids; what the calls carry may differ. -/
structure SameCall (o p : Operation) : Prop where
  operation : o.ctorIdx = p.ctorIdx
  ids : o.ids = p.ids

/-- The ids run together so that two calls go to one address. -/
inductive Confused : Operation → Operation → Prop
  | exportAgent (id : String) : Confused (.getAgent (id ++ "/export")) (.exportAgent id)
  | agentFlow (id : String) : Confused (.getAgent (id ++ "/flow")) (.agentFlow id)
  | preview (base document : String) :
    Confused (.getBase (base ++ "/documents/" ++ document ++ "/preview")) (.preview base document)
  | chunks (base document : String) :
    Confused (.getBase (base ++ "/documents/" ++ document ++ "/chunks")) (.chunks base document)
  | processes {b d b' d' : String} (h : b ++ "/documents/" ++ d = b' ++ "/documents/" ++ d') :
    Confused (.process b d) (.process b' d')
  | previews {b d b' d' : String} (h : b ++ "/documents/" ++ d = b' ++ "/documents/" ++ d') :
    Confused (.preview b d) (.preview b' d')
  | chunksOfTwo {b d b' d' : String} (h : b ++ "/documents/" ++ d = b' ++ "/documents/" ++ d') :
    Confused (.chunks b d) (.chunks b' d')

end Operation

/-! ### Places -/

/-- Where a request goes, under the path of all agents or that of all knowledge bases. -/
inductive Place where
  | all
  | drafts
  | one (id : String)
  /-- A part that is called by a word. -/
  | part (whole word : String)

namespace Place

def text : Place → String
  | .all => ""
  | .drafts => "generate"
  | .one id => id
  | .part whole word => whole ++ "/" ++ word

/-- The id is not empty, and the word of a part has no slash. -/
def IsProper : Place → Prop
  | .all | .drafts => True
  | .one id => id ≠ ""
  | .part _ word => '/' ∉ word.toList

/-- An id spells out another place. -/
inductive Spells : Place → Place → Prop
  | drafts : Spells (.one "generate") .drafts
  | part (whole word : String) : Spells (.one (whole ++ "/" ++ word)) (.part whole word)

variable {x y : Place}

lemma text_eq_empty_iff (hx : x.IsProper) : x.text = "" ↔ x = .all := by
  cases x with
  | all => simp [text]
  | drafts => simp [text]
  | one id => simpa [text, IsProper] using hx
  | part whole word => simp [text]

lemma part_text_ne_drafts (whole word : String) : (part whole word).text ≠ drafts.text := by
  intro heq
  have hmem : '/' ∈ (part whole word).text.toList := by simp [text]
  rw [heq] at hmem
  simp [text] at hmem

/-- The text of a part is cut at its last slash. -/
lemma part_text_inj {whole word whole' word' : String} (hword : '/' ∉ word.toList)
    (hword' : '/' ∉ word'.toList) (h : (part whole word).text = (part whole' word').text) :
    whole = whole' ∧ word = word' := by
  have hreverse : word.toList.reverse ++ '/' :: whole.toList.reverse =
      word'.toList.reverse ++ '/' :: whole'.toList.reverse := by
    have htext := congrArg (List.reverse ∘ String.toList) h
    simpa [text] using htext
  obtain ⟨hw, hrest⟩ := append_inj_of_forall (p := (· ≠ '/'))
    (fun c hc => decide_eq_true fun e => hword (e ▸ List.mem_reverse.1 hc))
    (fun c hc => decide_eq_true fun e => hword' (e ▸ List.mem_reverse.1 hc)) (by simp) (by simp)
    hreverse
  refine ⟨String.toList_inj.1 ?_, String.toList_inj.1 (List.reverse_inj.1 hw)⟩
  exact List.reverse_inj.1 (List.cons.inj hrest).2

/-- Two places have one text only if an id spells one of them out. -/
lemma eq_or_spells_of_text_eq (hx : x.IsProper) (hy : y.IsProper) (h : x.text = y.text) :
    x = y ∨ x.Spells y ∨ y.Spells x := by
  by_cases hall : x = .all ∨ y = .all
  · left
    rcases hall with rfl | rfl
    · exact ((text_eq_empty_iff hy).1 h.symm).symm
    · exact (text_eq_empty_iff hx).1 h
  rw [not_or] at hall
  cases x with
  | all => exact absurd rfl hall.1
  | drafts =>
    cases y with
    | all => exact absurd rfl hall.2
    | drafts => exact .inl rfl
    | one id => exact .inr (.inr ((show "generate" = id from h) ▸ .drafts))
    | part whole word => exact absurd h.symm (part_text_ne_drafts whole word)
  | one id =>
    cases y with
    | all => exact absurd rfl hall.2
    | drafts => exact .inr (.inl ((show id = "generate" from h) ▸ .drafts))
    | one id' => exact .inl (congrArg one h)
    | part whole word => exact .inr (.inl ((show id = _ from h) ▸ .part whole word))
  | part whole word =>
    cases y with
    | all => exact absurd rfl hall.2
    | drafts => exact absurd h (part_text_ne_drafts whole word)
    | one id => exact .inr (.inr ((show _ = id from h) ▸ .part whole word))
    | part whole' word' =>
      obtain ⟨rfl, rfl⟩ := part_text_inj hx hy h
      exact .inl rfl

end Place

/-! ### The places of calls -/

inductive Root where
  | agents
  | bases

def Root.path : Root → String
  | .agents => Operation.agentsPath
  | .bases => Operation.basesPath

lemma Root.append_inj {a b : Root} {s t : String} (h : a.path ++ s = b.path ++ t) :
    a = b ∧ s = t := by
  have hlist := congrArg String.toList h
  cases a with
  | agents =>
    cases b with
    | agents => simpa using h
    | bases => simp [path, Operation.agentsPath, Operation.basesPath] at hlist
  | bases =>
    cases b with
    | agents => simp [path, Operation.agentsPath, Operation.basesPath] at hlist
    | bases => simpa using h

namespace Operation

/-- What the operation is about, and its place under the path to all of these. -/
def place? : Operation → Option (Root × Place)
  | .listAgents | .createAgent _ => some (.agents, .all)
  | .getAgent id | .updateAgent id _ | .deleteAgent id => some (.agents, .one id)
  | .exportAgent id => some (.agents, .part id "export")
  | .agentFlow id => some (.agents, .part id "flow")
  | .runAgent id _ => some (.agents, .part id "run")
  | .generateFlow _ => some (.agents, .drafts)
  | .listBases | .createBase _ => some (.bases, .all)
  | .getBase id | .deleteBase id => some (.bases, .one id)
  | .upload base _ _ => some (.bases, .part base "upload")
  | .process base document => some (.bases, .part (base ++ "/documents/" ++ document) "process")
  | .preview base document => some (.bases, .part (base ++ "/documents/" ++ document) "preview")
  | .chunks base document => some (.bases, .part (base ++ "/documents/" ++ document) "chunks")
  | .search base _ => some (.bases, .part base "search")
  | .publish id => some (.bases, .part id "publish")
  | .unpublish id => some (.bases, .part id "unpublish")
  | _ => none

variable {o p : Operation} {root : Root} {x y : Place}

lemma exists_place (h : o.concernsResources = false) : ∃ root x, o.place? = some (root, x) := by
  cases o <;> cases h <;> exact ⟨_, _, rfl⟩

lemma path_of_place? (h : o.place? = some (root, x)) : o.path = root.path ++ x.text := by
  cases o <;> cases h <;> simp [path, documentPath, Root.path, Place.text, String.append_assoc]

lemma isProper_of_place? (h : o.place? = some (root, x)) (hids : ∀ id ∈ o.ids, id ≠ "") :
    x.IsProper := by
  cases o <;> cases h <;> simp_all [Place.IsProper, ids]

lemma query_eq_nil (h : o.concernsResources = false) : o.query = [] := by
  cases o <;> cases h <;> rfl

/-- The method and the place tell the operation and its ids, except for the place where the id of a
base ends and that of a document begins. -/
lemma sameCall_or_confused (hm : o.method = p.method) (ho : o.place? = some (root, x))
    (hp : p.place? = some (root, x)) : o.SameCall p ∨ o.Confused p := by
  have hplace := ho.trans hp.symm
  -- two operations of one method are never about places of one kind with one word
  cases o with
  | listResources | availableResources | createResource | updateResource | deleteResource
  | testConnection | setDefaultResource | testResource => cases ho
  | process =>
    cases p <;> cases hm <;> simp [place?] at hplace
    exact .inr (.processes hplace)
  | preview =>
    cases p <;> cases hm <;> simp [place?] at hplace
    exact .inr (.previews hplace)
  | chunks =>
    cases p <;> cases hm <;> simp [place?] at hplace
    exact .inr (.chunksOfTwo hplace)
  | _ =>
    cases p <;> cases hm <;> simp [place?] at hplace
    all_goals exact .inl ⟨rfl, by simp only [ids, hplace]⟩

/-- Of the things that have an id of their own, only one that is asked for can be taken for something
else. -/
lemma confused_of_spells (hm : o.method = p.method) (ho : o.place? = some (root, x))
    (hp : p.place? = some (root, y)) (h : x.Spells y) : o.Confused p := by
  cases h with
  | drafts =>
    cases p <;> cases hp
    cases o <;> cases hm <;> cases ho
  | part whole word =>
    -- what has an id of its own is read, changed or deleted, and of the parts only these are read
    cases p <;> cases hp <;> cases o <;> cases hm <;> cases ho
    case exportAgent.refl.getAgent.refl.refl =>
      simpa [String.append_assoc] using Confused.exportAgent whole
    case agentFlow.refl.getAgent.refl.refl =>
      simpa [String.append_assoc] using Confused.agentFlow whole
    case preview.refl.getBase.refl.refl base document =>
      simpa [String.append_assoc] using Confused.preview base document
    case chunks.refl.getBase.refl.refl base document =>
      simpa [String.append_assoc] using Confused.chunks base document

/-! ### Addresses -/

lemma SameCall.method_eq (h : o.SameCall p) : o.method = p.method := by
  have hname := h.operation
  cases o <;> cases p <;> cases hname <;> rfl

lemma SameCall.path_eq (h : o.SameCall p) (ho : o.concernsResources = false) :
    o.path = p.path := by
  have hname := h.operation
  have hids := h.ids
  cases o <;> cases ho <;> cases p <;> cases hname <;> cases hids <;> rfl

lemma Confused.method_eq (h : o.Confused p) : o.method = p.method := by
  cases h <;> rfl

lemma Confused.path_eq (h : o.Confused p) : o.path = p.path := by
  cases h with
  | processes h | previews h | chunksOfTwo h => rw [path_of_place? rfl, h, path_of_place? rfl]
  | _ => simp [path, documentPath, String.append_assoc]

lemma sameAddress_request_iff {baseUrl : String} (ho : o.concernsResources = false)
    (hp : p.concernsResources = false) :
    (o.request baseUrl).SameAddress (p.request baseUrl) ↔ o.method = p.method ∧ o.path = p.path := by
  constructor
  · rintro ⟨hmethod, hurl, -⟩
    exact ⟨hmethod, by simpa [request] using hurl⟩
  · rintro ⟨hmethod, hpath⟩
    refine ⟨hmethod, congrArg (baseUrl ++ ·) hpath, ?_⟩
    exact (query_eq_nil ho).trans (query_eq_nil hp).symm

/-- Two calls go to one address only if they are one or their ids run together. -/
lemma method_path_eq_iff (ho : o.concernsResources = false) (hp : p.concernsResources = false)
    (hoids : ∀ id ∈ o.ids, id ≠ "") (hpids : ∀ id ∈ p.ids, id ≠ "") :
    o.method = p.method ∧ o.path = p.path ↔ o.SameCall p ∨ o.Confused p ∨ p.Confused o := by
  constructor
  · rintro ⟨hmethod, hpath⟩
    obtain ⟨a, x, hx⟩ := exists_place ho
    obtain ⟨b, y, hy⟩ := exists_place hp
    rw [path_of_place? hx, path_of_place? hy] at hpath
    obtain ⟨rfl, htext⟩ := Root.append_inj hpath
    rcases Place.eq_or_spells_of_text_eq (isProper_of_place? hx hoids)
        (isProper_of_place? hy hpids) htext with rfl | h | h
    · exact (sameCall_or_confused hmethod hx hy).imp_right .inl
    · exact .inr (.inl (confused_of_spells hmethod hx hy h))
    · exact .inr (.inr (confused_of_spells hmethod.symm hy hx h))
  · rintro (h | h | h)
    · exact ⟨h.method_eq, h.path_eq ho⟩
    · exact ⟨h.method_eq, h.path_eq⟩
    · exact ⟨h.method_eq.symm, h.path_eq.symm⟩

/-- The place of a document is cut in one way if the ids of bases have no slashes. -/
lemma documents_inj {b d b' d' : String} (hb : '/' ∉ b.toList) (hb' : '/' ∉ b'.toList)
    (h : b ++ "/documents/" ++ d = b' ++ "/documents/" ++ d') : b = b' ∧ d = d' := by
  have htext : b.toList ++ '/' :: ("documents/".toList ++ d.toList) =
      b'.toList ++ '/' :: ("documents/".toList ++ d'.toList) := by
    simpa using congrArg String.toList h
  obtain ⟨hbase, hrest⟩ := append_inj_of_forall (p := (· ≠ '/'))
    (fun c hc => decide_eq_true fun e => hb (e ▸ hc))
    (fun c hc => decide_eq_true fun e => hb' (e ▸ hc)) (by simp) (by simp) htext
  refine ⟨String.toList_inj.1 hbase, String.toList_inj.1 ?_⟩
  exact List.append_cancel_left (List.cons.inj hrest).2

lemma Confused.sameCall (h : o.Confused p) (hids : ∀ id ∈ o.ids ++ p.ids, '/' ∉ id.toList) :
    o.SameCall p := by
  cases h with
  | processes h | previews h | chunksOfTwo h =>
    obtain ⟨rfl, rfl⟩ := documents_inj (hids _ (by simp [ids])) (hids _ (by simp [ids])) h
    exact ⟨rfl, rfl⟩
  | _ => exact absurd (by simp) (hids _ List.mem_cons_self)

lemma SameCall.symm (h : o.SameCall p) : p.SameCall o := ⟨h.operation.symm, h.ids.symm⟩

/-- When the requests of two calls go to one address. -/
structure ToldApart (baseUrl : String) (o p : Operation) : Prop where
  sameAddress_iff : (o.request baseUrl).SameAddress (p.request baseUrl) ↔
    o.SameCall p ∨ o.Confused p ∨ p.Confused o
  apart : (∀ id ∈ o.ids ++ p.ids, '/' ∉ id.toList) → ¬o.SameCall p →
    ¬(o.request baseUrl).SameAddress (p.request baseUrl)

/-- **The address of a request tells the call**, unless ids run together: two calls about agents or
knowledge bases go to one address only if they are calls of one operation with the same ids, or an
id that holds a slash spells out the rest of a path. -/
theorem toldApart (baseUrl : String) (ho : o.concernsResources = false)
    (hp : p.concernsResources = false) (hoids : ∀ id ∈ o.ids, id ≠ "")
    (hpids : ∀ id ∈ p.ids, id ≠ "") : ToldApart baseUrl o p where
  sameAddress_iff :=
    (sameAddress_request_iff ho hp).trans (method_path_eq_iff ho hp hoids hpids)
  apart hids hdiffer hsame := by
    have hreach := (sameAddress_request_iff ho hp).1 hsame
    rcases (method_path_eq_iff ho hp hoids hpids).1 hreach with h | h | h
    · exact hdiffer h
    · exact hdiffer (h.sameCall hids)
    · have hswap : ∀ id ∈ p.ids ++ o.ids, '/' ∉ id.toList := fun id hid =>
        hids id (List.mem_append.2 (List.mem_append.1 hid).symm)
      exact hdiffer (h.sameCall hswap).symm

/-- A path to a document that is cut in two ways, and two calls that are told apart by their
methods. -/
theorem toldApart_cutTwice :
    ToldApart "http://studio.test" (.process "a" "b/documents/c") (.process "a/documents/b" "c") ∧
      ((process "a" "b/documents/c").request "http://studio.test").SameAddress
        ((process "a/documents/b" "c").request "http://studio.test") ∧
      ToldApart "http://studio.test" (.getBase "a/b") (.deleteBase "a/b") ∧
      ¬((getBase "a/b").request "http://studio.test").SameAddress
        ((deleteBase "a/b").request "http://studio.test") := by
  refine ⟨toldApart _ rfl rfl (by decide) (by decide), ⟨rfl, by decide, rfl⟩,
    toldApart _ rfl rfl (by decide) (by decide), fun h => ?_⟩
  cases h.method

/-- Different calls may go to one address. -/
theorem not_apart_exportSpelled :
    ¬∀ (baseUrl : String) (o p : Operation), o.concernsResources = false →
      p.concernsResources = false → (∀ id ∈ o.ids ++ p.ids, id ≠ "") → ¬o.SameCall p →
      ¬(o.request baseUrl).SameAddress (p.request baseUrl) := by
  intro h
  have hdiffer : ¬(getAgent "a/export").SameCall (exportAgent "a") := fun hsame => by
    cases hsame.operation
  exact h "http://studio.test" (.getAgent "a/export") (.exportAgent "a") rfl rfl (by decide) hdiffer
    ⟨rfl, by decide, rfl⟩

end Operation

end AgentFlow
