import AgentFlow.Proofs.Success
import AgentFlow.Saved.Param

/-!
The records from which parameters are read.

A record is an object, or an array of its fields. Other members of an object may hold anything, and
the last fields of an array may be missing.
-/

namespace AgentFlow

/-- A value that is left out, `null`, or a text. -/
inductive Json.MaybeText : Option Json → Prop where
  | absent : MaybeText none
  | null : MaybeText (some .null)
  | text (s : String) : MaybeText (some (.string s))

/-- The records from which an output is read. -/
inductive OutputParam.IsRecord : Json → Prop where
  | object {ms : List (String × Json)} {name type : String}
      (hname : ms.lookup "name" = some (.string name))
      (htype : ms.lookup "type" = some (.string type))
      (hdesc : Json.MaybeText (ms.lookup "desc")) : IsRecord (.object ms)
  | pair (name type : String) : IsRecord (.array [.string name, .string type])
  | triple (name type : String) {desc : Json} (hdesc : Json.MaybeText (some desc)) :
    IsRecord (.array [.string name, .string type, desc])

/-- The records from which an input is read. -/
inductive InputParam.IsRecord : Json → Prop where
  | object {ms : List (String × Json)}
      (hname : ms.lookup "name" = none ∨ ∃ name, ms.lookup "name" = some (.string name))
      (hsource : Json.MaybeText (ms.lookup "value_source")) : IsRecord (.object ms)
  | empty : IsRecord (.array [])
  | single (name : String) : IsRecord (.array [.string name])
  | pair (name : String) {source : Json} (hsource : Json.MaybeText (some source)) :
    IsRecord (.array [.string name, source])

namespace Json

lemma expectString_eq_ok_iff {v : Json} {s : String} :
    v.expectString = .ok s ↔ v = .string s := by
  cases v <;> simp [expectString]

lemma exists_expectOptional_iff {v : Json} :
    (∃ s, v.expectOptional = .ok s) ↔ MaybeText (some v) := by
  cases v with
  | null => exact iff_of_true ⟨_, rfl⟩ .null
  | string s => exact iff_of_true ⟨_, rfl⟩ (.text s)
  | _ => exact iff_of_false (by rintro ⟨_, h⟩; cases h) nofun

lemma given_eq_ok_iff {α : Type} {name : String} {o : Option α} {a : α} :
    given name o = .ok a ↔ o = some a := by
  cases o <;> simp [given]

variable {ms : List (String × Json)} {key : String}

lemma exists_member?_expectString_iff :
    (∃ s, member? ms key expectString = .ok s) ↔
      ms.lookup key = none ∨ ∃ s, ms.lookup key = some (.string s) := by
  unfold member?
  cases ms.lookup key with
  | none => simp
  | some v => cases v <;> simp [expectString, Except.map]

lemma exists_member?_expectOptional_iff :
    (∃ s, member? ms key expectOptional = .ok s) ↔ MaybeText (ms.lookup key) := by
  unfold member?
  cases ms.lookup key with
  | none => exact iff_of_true ⟨_, rfl⟩ .absent
  | some v =>
    rw [← exists_expectOptional_iff]
    cases h : v.expectOptional <;> simp [Except.map, h]

lemma member?_expectString_eq_some_iff {s : String} :
    member? ms key expectString = .ok (some s) ↔ ms.lookup key = some (.string s) := by
  unfold member?
  cases ms.lookup key with
  | none => simp
  | some v => cases v <;> simp [expectString, Except.map]

end Json

lemma OutputParam.exists_ofJson_iff {v : Json} : (∃ p, ofJson v = .ok p) ↔ IsRecord v := by
  constructor
  · rintro ⟨p, h⟩
    unfold ofJson at h
    split at h
    · obtain ⟨desc, hdesc, h⟩ := exists_of_bind_ok h
      obtain ⟨name?, hname, h⟩ := exists_of_bind_ok h
      obtain ⟨type?, htype, h⟩ := exists_of_bind_ok h
      obtain ⟨name, hname', h⟩ := exists_of_bind_ok h
      obtain ⟨type, htype', -⟩ := exists_of_bind_ok h
      rw [Json.given_eq_ok_iff.1 hname'] at hname
      rw [Json.given_eq_ok_iff.1 htype'] at htype
      exact .object (Json.member?_expectString_eq_some_iff.1 hname)
        (Json.member?_expectString_eq_some_iff.1 htype)
        (Json.exists_member?_expectOptional_iff.1 ⟨desc, hdesc⟩)
    · split at h
      · cases h
      · obtain ⟨_, -, h⟩ := exists_of_bind_ok h
        cases h
      · obtain ⟨name, hname, h⟩ := exists_of_bind_ok h
        obtain ⟨type, htype, -⟩ := exists_of_bind_ok h
        cases Json.expectString_eq_ok_iff.1 hname
        cases Json.expectString_eq_ok_iff.1 htype
        exact .pair name type
      · obtain ⟨name, hname, h⟩ := exists_of_bind_ok h
        obtain ⟨type, htype, h⟩ := exists_of_bind_ok h
        obtain ⟨desc, hdesc, h⟩ := exists_of_bind_ok h
        cases Json.expectString_eq_ok_iff.1 hname
        cases Json.expectString_eq_ok_iff.1 htype
        dsimp only at h
        split at h
        · next hrest =>
          cases List.isEmpty_iff.1 hrest
          exact .triple name type (Json.exists_expectOptional_iff.1 ⟨desc, hdesc⟩)
        · cases h
    · cases h
  · intro h
    cases h with
    | object hname htype hdesc =>
      obtain ⟨desc, hdesc⟩ := Json.exists_member?_expectOptional_iff.2 hdesc
      simp only [ofJson, hdesc, Json.member?_expectString_eq_some_iff.2 hname,
        Json.member?_expectString_eq_some_iff.2 htype]
      exact ⟨_, rfl⟩
    | pair name type => exact ⟨_, rfl⟩
    | triple name type hdesc =>
      obtain ⟨desc, hdesc⟩ := Json.exists_expectOptional_iff.2 hdesc
      simp only [ofJson, hdesc]
      exact ⟨_, rfl⟩

lemma InputParam.exists_ofJson_iff {v : Json} : (∃ p, ofJson v = .ok p) ↔ IsRecord v := by
  constructor
  · rintro ⟨p, h⟩
    unfold ofJson at h
    split at h
    · obtain ⟨name, hname, h⟩ := exists_of_bind_ok h
      obtain ⟨source, hsource, -⟩ := exists_of_bind_ok h
      exact .object (Json.exists_member?_expectString_iff.1 ⟨name, hname⟩)
        (Json.exists_member?_expectOptional_iff.1 ⟨source, hsource⟩)
    · split at h
      · exact .empty
      · obtain ⟨name, hname, -⟩ := exists_of_bind_ok h
        cases Json.expectString_eq_ok_iff.1 hname
        exact .single name
      · obtain ⟨name, hname, h⟩ := exists_of_bind_ok h
        obtain ⟨source, hsource, h⟩ := exists_of_bind_ok h
        cases Json.expectString_eq_ok_iff.1 hname
        dsimp only at h
        split at h
        · next hrest =>
          cases List.isEmpty_iff.1 hrest
          exact .pair name (Json.exists_expectOptional_iff.1 ⟨source, hsource⟩)
        · cases h
    · cases h
  · intro h
    cases h with
    | object hname hsource =>
      obtain ⟨name, hname⟩ := Json.exists_member?_expectString_iff.2 hname
      obtain ⟨source, hsource⟩ := Json.exists_member?_expectOptional_iff.2 hsource
      simp only [ofJson, hname, hsource]
      exact ⟨_, rfl⟩
    | empty => exact ⟨_, rfl⟩
    | single name => exact ⟨_, rfl⟩
    | pair name hsource =>
      obtain ⟨source, hsource⟩ := Json.exists_expectOptional_iff.2 hsource
      simp only [ofJson, hsource]
      exact ⟨_, rfl⟩

end AgentFlow
