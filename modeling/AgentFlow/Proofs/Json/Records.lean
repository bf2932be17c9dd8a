import AgentFlow.Json.Record
import AgentFlow.Proofs.Json.Rereading

/-!
Reading records.

An object that gives its fields in order is laid out field by field. Conversely, what a reader
returns says what it found in the slots.
-/

namespace AgentFlow.Json

/-! ### Fields in order -/

/-- The slots of members that stand in the order of the fields. -/
def Slots.ofMembers (ms : List (String × Option Json)) : Slots := ms.map fun m => m.2.map toTerm

namespace Reader

/-- Members in the order of the fields fill the slots behind those that are filled. -/
lemma layMembers_inOrder {fields : List (List String)} (ms : List (String × Option Json))
    (filled : Slots)
    (h : ms.map (fieldIndex? fields ·.1) =
      (List.range' filled.length ms.length).map some) :
    layMembers fields (filled ++ List.replicate ms.length none)
        (memberTerms (ms.filterMap fun m => m.2.map (m.1, ·))) =
      some (filled ++ ms.map fun m => m.2.map toTerm) := by
  induction ms generalizing filled with
  | nil => simp [memberTerms, layMembers]
  | cons m rest ih =>
    obtain ⟨k, v⟩ := m
    simp only [List.map_cons, List.length_cons, List.range'_succ, List.cons.injEq] at h
    obtain ⟨hindex, hrest⟩ := h
    have hnext := ih (filled ++ [v.map toTerm]) (by simpa using hrest)
    cases v with
    | none => simpa [List.replicate_succ] using hnext
    | some v =>
      have hset : (filled ++ List.replicate (rest.length + 1) none).set filled.length
          (some v.toTerm) = filled ++ [some v.toTerm] ++ List.replicate rest.length none := by
        simp [List.replicate_succ]
      simp only [Option.map_some, List.append_assoc, List.singleton_append] at hnext
      simp [memberTerms, layMembers, hindex, hset, hnext]

lemma record_inOrder {α : Type} {fields : List (List String)} (read : ℕ → Slots → Option α)
    (depth : ℕ) (ms : List (String × Option Json))
    (h : ms.map (fieldIndex? fields ·.1) = (List.range' 0 fields.length).map some) :
    record fields read (depth + 1) (Json.object (ms.filterMap fun m => m.2.map (m.1, ·))).toTerm =
      read depth (.ofMembers ms) := by
  have hlen : fields.length = ms.length := by
    have := congrArg List.length h
    simpa using this.symm
  rw [hlen] at h
  have hlay := layMembers_inOrder ms [] h
  simp only [List.nil_append] at hlay
  simp [record, toTerm, slots?, hlen, hlay, Slots.ofMembers]

/-! ### Values behind a reader -/

lemma toTerm_eq_null {v : Json} : v.toTerm = .null ↔ v = .null := by
  cases v <;> simp [toTerm]

lemma nullable_of_ne {α : Type} (read : Reader α) (depth : ℕ) {t : Term} (h : t ≠ .null) :
    nullable read depth t = (read depth t).map some := by
  cases t <;> first | rfl | exact absurd rfl h

lemma binary64_toTerm (depth : ℕ) {x : Binary64} (hx : x.isFinite = true) :
    binary64 depth (ofBinary64 x).toTerm = some x.reread := by
  have hread : (Number.real x).literal.toNumber? = some (.real x.reread) :=
    Binary64.reread_real hx ▸ Number.toNumber?_literal hx
  rw [ofBinary64, if_pos hx, toTerm, binary64, hread]
  rfl

lemma isFinite_of_binary64 {depth : ℕ} {t : Term} {x : Binary64}
    (h : binary64 depth t = some x) : x.isFinite = true := by
  unfold binary64 at h
  split at h
  · obtain ⟨n, hn, rfl⟩ := Option.map_eq_some_iff.1 h
    exact (Numeral.inRange_of_toNumber? hn).isFinite_toBinary64
  · cases h

lemma object_toTerm {depth : ℕ} {o : Object} (h : ∀ m ∈ o.entries, Canonical depth m.2) :
    object (depth + 1) o.toJson.toTerm = some o.reread := by
  have hmembers : Term.membersToJson? depth (memberTerms o.entries) =
      some (rereadMembers o.entries) :=
    Term.membersToJson?_memberTerms fun m hm => Term.toJson?_toTerm (h m hm)
  rw [Object.toJson, toTerm, object, hmembers, Option.map_some, Option.some.injEq]
  exact Object.ext_entries (entries_ofMembers o.sorted.rereadMembers)

lemma nesting_le_of_object {depth : ℕ} {o p : Object}
    (h : object (depth + 1) o.toJson.toTerm = some p) : ∀ m ∈ o.entries, m.2.nesting ≤ depth := by
  rw [Object.toJson, toTerm, object] at h
  obtain ⟨ms, hms, -⟩ := Option.map_eq_some_iff.1 h
  exact memberNesting_le_iff.1 (Term.memberNesting_le_of_membersToJson? hms)

lemma canonical_of_object {depth : ℕ} {t : Term} {o : Object} (h : object (depth + 1) t = some o) :
    ∀ m ∈ o.entries, Canonical depth m.2 := by
  unfold object at h
  split at h
  · next hdepth =>
    cases hdepth
    obtain ⟨ms, hms, rfl⟩ := Option.map_eq_some_iff.1 h
    exact fun m hm => Term.canonical_of_membersToJson? hms m (mem_of_mem_ofMembers hm)
  · cases h

lemma list_toTerm {α : Type} {read : Reader α} {write : α → Json} (back : α → α) {depth : ℕ}
    {as : List α} (h : ∀ a ∈ as, read depth (write a).toTerm = some (back a)) :
    list read (depth + 1) (ofList write as).toTerm = some (as.map back) := by
  rw [ofList, toTerm, list, itemTerms_eq_map, List.map_map]
  induction as with
  | nil => rfl
  | cons a as ih =>
    rw [List.map_cons, List.mapM_cons, Function.comp_apply, h a List.mem_cons_self,
      ih fun b hb => h b (List.mem_cons_of_mem _ hb)]
    rfl

/-- No value of a list is skipped. -/
lemma exists_of_list_toTerm {α : Type} {read : Reader α} {write : α → Json} {depth : ℕ}
    {as bs : List α} (h : list read (depth + 1) (ofList write as).toTerm = some bs) :
    ∀ a ∈ as, ∃ b, read depth (write a).toTerm = some b := by
  rw [ofList, toTerm, list, itemTerms_eq_map, List.map_map] at h
  induction as generalizing bs with
  | nil => simp
  | cons a as ih =>
    rw [List.map_cons, List.mapM_cons] at h
    simp only [bind, Option.bind_eq_some_iff] at h
    obtain ⟨b, hb, rest, hrest, -⟩ := h
    intro c hc
    rcases List.mem_cons.1 hc with rfl | hc
    · exact ⟨b, hb⟩
    · exact ih hrest c hc

lemma exists_of_mem_list {α : Type} {read : Reader α} {depth : ℕ} {t : Term} {as : List α}
    (h : list read (depth + 1) t = some as) : ∀ a ∈ as, ∃ u, read depth u = some a := by
  unfold list at h
  split at h
  · next items hdepth =>
    cases hdepth
    clear * - h
    induction items generalizing as with
    | nil => cases h; simp
    | cons u items ih =>
      rw [List.mapM_cons] at h
      simp only [bind, Option.bind_eq_some_iff, pure, Option.some.injEq] at h
      obtain ⟨a, ha, rest, hrest, rfl⟩ := h
      intro b hb
      rcases List.mem_cons.1 hb with rfl | hb
      · exact ⟨u, ha⟩
      · exact ih hrest b hb
  · cases h

lemma exists_slots_of_record {α : Type} {fields : List (List String)}
    {read : ℕ → Slots → Option α} {depth : ℕ} {t : Term} {a : α}
    (h : record fields read (depth + 1) t = some a) : ∃ slots, read depth slots = some a := by
  obtain ⟨slots, -, hread⟩ := Option.bind_eq_some_iff.1 h
  exact ⟨slots, hread⟩

end Reader

namespace Slots

variable {α : Type} {slots : Slots} {i depth : ℕ} {read : Reader α}

/-! ### Slots -/

lemma exists_of_required {a : α} (h : slots.required i depth read = some a) :
    ∃ t, read depth t = some a := by
  obtain ⟨t, -, hread⟩ := Option.bind_eq_some_iff.1 h
  exact ⟨t, hread⟩

lemma exists_of_defaulted {a default : α} (h : slots.defaulted i depth read default = some a) :
    a = default ∨ ∃ t, read depth t = some a := by
  unfold defaulted at h
  split at h
  · cases h
    exact .inl rfl
  · next t _ => exact .inr ⟨t, h⟩

lemma exists_of_optional {a : α} (h : slots.optional i depth read = some (some a)) :
    ∃ t, t ≠ .null ∧ read depth t = some a := by
  rcases exists_of_defaulted h with h | ⟨t, h⟩
  · cases h
  · have hne : t ≠ .null := by
      rintro rfl
      cases h
    rw [Reader.nullable_of_ne read depth hne] at h
    obtain ⟨b, hb, hba⟩ := Option.map_eq_some_iff.1 h
    cases hba
    exact ⟨t, hne, hb⟩

lemma optional_of_ne_null {t : Term} (h : slots.term? i = some t) (hne : t ≠ .null) :
    slots.optional i depth read = (read depth t).map some := by
  unfold optional defaulted
  rw [h]
  exact Reader.nullable_of_ne read depth hne

/-- A field that may be missing is read as it was written. -/
lemma optional_of_term? {o : Option α} {write : α → Json} (back : α → α)
    (h : slots.term? i = (o.map write).map toTerm)
    (hread : ∀ a ∈ o, write a ≠ .null ∧ read depth (write a).toTerm = some (back a)) :
    slots.optional i depth read = some (o.map back) := by
  cases o with
  | none =>
    unfold optional defaulted
    rw [h]
    rfl
  | some a =>
    obtain ⟨hne, ha⟩ := hread a rfl
    rw [optional_of_ne_null h (mt Reader.toTerm_eq_null.1 hne), ha]
    rfl

lemma optional_string {o : Option String} (h : slots.term? i = (o.map Json.string).map toTerm) :
    slots.optional i depth .string = some o := by
  rw [optional_of_term? id h fun s _ => ⟨by simp, rfl⟩, Option.map_id_fun, id]

end Slots

end AgentFlow.Json
