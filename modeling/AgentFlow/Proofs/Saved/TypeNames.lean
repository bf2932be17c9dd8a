import AgentFlow.Proofs.Saved.Format

/-!
The two ways to save the type of a node.

A node is saved under its own type, or under the placeholder with its own type in the data. The
member that holds it there serves to tell the kind and nothing else: it belongs to no kind, and it
is reserved under every kind, so that it neither changes what is read nor joins the free-form data.
-/

namespace AgentFlow

namespace Json.Object

variable {key : String} {p : String → Bool} {o o' : Object}

lemma filterKeys_erase (hp : p key = false) (o : Object) :
    (o.erase key).filterKeys p = o.filterKeys p := by
  rw [erase, filterKeys_filterKeys]
  congr 1
  funext name
  by_cases hname : name = key <;> simp [hname, hp]

@[simp] lemma erase_insert (o : Object) (key : String) (v : Json) :
    (o.insert key v).erase key = o.erase key := filterKeys_insert o v (by simp)

@[simp] lemma erase_erase (o : Object) (key : String) : (o.erase key).erase key = o.erase key :=
  filterKeys_self o _

@[simp] lemma erase_insert? (o : Object) (key : String) (v : Option Json) :
    (o.insert? key v).erase key = o.erase key := by
  cases v with
  | none => rfl
  | some v => exact erase_insert o key v

lemma get?_eq_of_erase_eq (h : o.erase key = o'.erase key) {name : String} (hname : name ≠ key) :
    o.get? name = o'.get? name := by
  have hget := congrArg (get? · name) h
  simpa [erase, hname] using hget

lemma filterKeys_eq_of_erase_eq (h : o.erase key = o'.erase key) (hp : p key = false) :
    o.filterKeys p = o'.filterKeys p := by
  rw [← filterKeys_erase hp o, h, filterKeys_erase hp o']

end Json.Object

namespace SavedNode

variable {n n' : SavedNode}

lemma isReserved_originalType (k : Kind) : k.isReserved "originalType" = true := by
  cases k <;> rfl

/-- Once the kind is told, the member with the original type is not looked at any more. -/
lemma decode_congr (hid : n.id = n'.id) (hposition : n.position = n'.position)
    (hkind : n.kind? = n'.kind?)
    (hdata : n.data.erase "originalType" = n'.data.erase "originalType") :
    n.decode = n'.decode := by
  have hnode : ∀ k, n.looking.node n.id k = n'.looking.node n'.id k := by
    refine fun k => node_congr hid fun field hfield => ?_
    refine Json.Object.get?_eq_of_erase_eq hdata fun h => ?_
    exact k.originalType_notMem_fields (h ▸ hfield)
  have hextra : ∀ k : Kind, n.data.filterKeys (fun key => !k.isReserved key) =
      n'.data.filterKeys fun key => !k.isReserved key :=
    fun k => Json.Object.filterKeys_eq_of_erase_eq hdata (by rw [isReserved_originalType]; rfl)
  simp only [decode_eq, hkind, hnode, hextra, hposition]

lemma kind?_placeholder {id k : String} {position : Option Position} (d : Json.Object)
    (hk : k ≠ "common") :
    kind? ⟨id, "common", position, d.insert "originalType" (.string k)⟩ =
      kind? ⟨id, k, position, d⟩ := by
  have hname : typeName? ⟨id, "common", position, d.insert "originalType" (.string k)⟩ =
      typeName? ⟨id, k, position, d⟩ := by
    simp [typeName?, placeholderType, hk]
  rw [kind?, kind?, hname]

lemma kind?_eq_of_own {id type : String} {position : Option Position} (htype : type ≠ "common")
    (d d' : Json.Object) : kind? ⟨id, type, position, d⟩ = kind? ⟨id, type, position, d'⟩ := by
  simp [kind?, typeName?, placeholderType, htype]

/-- A node with these data is read alike whichever way its type is saved. -/
structure ReadsEitherWay (id : String) (position : Option Position) (d : Json.Object) : Prop where
  /-- The placeholder stands for the type that the data name, known or not. -/
  placeholder : ∀ k, k ≠ "common" →
    decode ⟨id, "common", position, d.insert "originalType" (.string k)⟩ =
      decode ⟨id, k, position, d⟩
  /-- Under any other type, nothing depends on what the data hold in its place. -/
  unread : ∀ type, type ≠ "common" → ∀ v : Option Json,
    decode ⟨id, type, position, (d.erase "originalType").insert? "originalType" v⟩ =
      decode ⟨id, type, position, d⟩
  unkept : ∀ type n, decode ⟨id, type, position, d⟩ = .ok n → n.extra.get? "originalType" = none

/-- **The placeholder and the type it stands for are read alike**, with the same node or the same
error. -/
theorem readsEitherWay (id : String) (position : Option Position) (d : Json.Object) :
    ReadsEitherWay id position d where
  placeholder k hk := decode_congr rfl rfl (kind?_placeholder d hk) (Json.Object.erase_insert _ _ _)
  unread type htype v := by
    refine decode_congr rfl rfl (kind?_eq_of_own htype _ _) ?_
    rw [Json.Object.erase_insert?, Json.Object.erase_erase]
  unkept type n h := by
    rw [(readAs_of_decode h).extra, Json.Object.get?_filterKeys, isReserved_originalType]
    rfl

end SavedNode

end AgentFlow
