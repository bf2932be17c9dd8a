import AgentFlow.Proofs.Json.Records
import AgentFlow.Saved.Flow

/-!
The text of a saved flow.

What is read from a text is writable: its coordinates are finite and its free-form data is
canonical. A writable flow is read back from its own text, but for its numbers.
-/

namespace AgentFlow

open Json (Canonical Reader Slots)

/-! ### Writable flows -/

/-- Both coordinates are finite. -/
def Position.IsFinite (p : Position) : Prop := p.x.isFinite = true ∧ p.y.isFinite = true

instance (p : Position) : Decidable p.IsFinite := inferInstanceAs (Decidable (_ ∧ _))

/-- The node can be written into a text, its data at a place where containers may nest `depth`
deep. -/
structure SavedNode.Writable (depth : ℕ) (n : SavedNode) : Prop where
  position : ∀ p ∈ n.position, p.IsFinite
  data : ∀ m ∈ n.data.entries, Canonical depth m.2

/-- The edge can be written into a text. Data that is `null` would be read as none. -/
structure SavedEdge.Writable (depth : ℕ) (e : SavedEdge) : Prop where
  data : ∀ v ∈ e.data, v ≠ .null ∧ Canonical depth v

structure SavedFlow.Writable (f : SavedFlow) : Prop where
  nodes : ∀ n ∈ f.nodes, n.Writable 123
  edges : ∀ e ∈ f.edges, e.Writable 124

/-- The flow can be written into a text that is read. -/
structure SavedFlow.Fits (f : SavedFlow) : Prop where
  nodes : ∀ n ∈ f.nodes, n.Writable 123
  edges : ∀ e ∈ f.edges, ∀ v ∈ e.data, Canonical 124 v

lemma SavedFlow.Writable.fits {f : SavedFlow} (hf : f.Writable) : f.Fits :=
  ⟨hf.nodes, fun e he v hv => ((hf.edges e he).data v hv).2⟩

/-! ### Rereading -/

def Position.reread (p : Position) : Position := ⟨p.x.reread, p.y.reread⟩

def SavedNode.reread (n : SavedNode) : SavedNode :=
  { n with position := n.position.map Position.reread, data := n.data.reread }

/-- The edge as it is read back; data that is `null` is none. -/
def SavedEdge.reread (e : SavedEdge) : SavedEdge :=
  { e with data := (e.data.filter (· ≠ .null)).map Json.reread }

/-- The flow as it is read back from its text. -/
def SavedFlow.reread (f : SavedFlow) : SavedFlow :=
  ⟨f.nodes.map SavedNode.reread, f.edges.map SavedEdge.reread⟩

/-! ### Reading what was written -/

lemma record_presentMembers {α : Type} {fields : List (List String)}
    (read : ℕ → Slots → Option α) (depth : ℕ) (ms : List (String × Option Json))
    (h : ms.map (Reader.fieldIndex? fields ·.1) = (List.range' 0 fields.length).map some) :
    Reader.record fields read (depth + 1) (Json.object (presentMembers ms)).toTerm =
      read depth (.ofMembers ms) :=
  Reader.record_inOrder read depth ms h

lemma mem_presentMembers {key : String} {v : Json} {ms : List (String × Option Json)}
    (h : (key, some v) ∈ ms) : (key, v) ∈ presentMembers ms :=
  List.mem_filterMap.2 ⟨(key, some v), h, rfl⟩

lemma Position.reader_toTerm (depth : ℕ) {p : Position} (hp : p.IsFinite) :
    reader (depth + 1) p.toJson.toTerm = some p.reread := by
  obtain ⟨hx, hy⟩ := hp
  have hjson : p.toJson =
      .object (presentMembers [("x", some (.ofBinary64 p.x)), ("y", some (.ofBinary64 p.y))]) := rfl
  rw [hjson, reader, record_presentMembers _ depth _ rfl]
  simp [Slots.ofMembers, Slots.required, Slots.term?, Reader.binary64_toTerm depth hx,
    Reader.binary64_toTerm depth hy, reread]

lemma SavedNode.reader_toTerm {depth : ℕ} {n : SavedNode} (hn : n.Writable depth) :
    reader (depth + 2) n.toJson.toTerm = some n.reread := by
  rw [toJson, reader, record_presentMembers _ (depth + 1) _ rfl]
  have hposition : ∀ slots : Slots,
      slots.term? 2 = (n.position.map Position.toJson).map Json.toTerm →
        slots.optional 2 (depth + 1) Position.reader = some (n.position.map Position.reread) :=
    fun slots hslot => Slots.optional_of_term? _ hslot fun p hp =>
      ⟨by simp [Position.toJson], Position.reader_toTerm depth (hn.position p hp)⟩
  simp [Slots.ofMembers, Slots.required, Slots.term?, Slots.defaulted, hposition, Reader.string,
    Reader.object_toTerm hn.data, Json.toTerm, reread]

lemma SavedEdge.reader_toTerm {depth : ℕ} {e : SavedEdge} (he : ∀ v ∈ e.data, Canonical depth v) :
    reader (depth + 1) e.toJson.toTerm = some e.reread := by
  rw [toJson, reader, record_presentMembers _ depth _ rfl]
  generalize hslots : Slots.ofMembers _ = slots
  have hid : slots.optional 0 depth .string = some e.id := Slots.optional_string (hslots ▸ rfl)
  have hsource : slots.required 1 depth .string = some e.source := by rw [← hslots]; rfl
  have htarget : slots.required 2 depth .string = some e.target := by rw [← hslots]; rfl
  have hfrom : slots.optional 3 depth .string = some e.sourceHandle :=
    Slots.optional_string (hslots ▸ rfl)
  have hto : slots.optional 4 depth .string = some e.targetHandle :=
    Slots.optional_string (hslots ▸ rfl)
  have hlabel : slots.optional 5 depth .string = some e.label :=
    Slots.optional_string (hslots ▸ rfl)
  have hdata : slots.optional 6 depth .json = some e.reread.data := by
    have hslot : slots.term? 6 = e.data.map Json.toTerm := by rw [← hslots]; rfl
    cases hd : e.data with
    | none =>
      rw [hd] at hslot
      simp [Slots.optional, Slots.defaulted, hslot, reread, hd]
    | some v =>
      rw [hd] at hslot
      by_cases hnull : v = .null
      · simp [Slots.optional, Slots.defaulted, hslot, reread, hd, hnull, Json.toTerm,
          Reader.nullable]
      · have hread : Reader.json depth v.toTerm = some v.reread :=
          Json.Term.toJson?_toTerm (he v hd)
        rw [Slots.optional_of_ne_null hslot (mt Reader.toTerm_eq_null.1 hnull), hread]
        simp [reread, hd, hnull]
  simp only [hid, hsource, htarget, hfrom, hto, hlabel, hdata, bind, Option.bind_some, pure]
  rfl

lemma SavedFlow.toJson_eq (f : SavedFlow) :
    f.toJson = .object (presentMembers [("nodes", some (.ofList SavedNode.toJson f.nodes)),
      ("edges", some (.ofList SavedEdge.toJson f.edges))]) := rfl

lemma SavedFlow.reader_toTerm {f : SavedFlow} (hf : f.Fits) :
    reader Json.depthLimit f.toJson.toTerm = some f.reread := by
  have hnodes : Reader.list SavedNode.reader 126 (Json.ofList SavedNode.toJson f.nodes).toTerm =
      some (f.nodes.map SavedNode.reread) :=
    Reader.list_toTerm _ fun n hn => SavedNode.reader_toTerm (hf.nodes n hn)
  have hedges : Reader.list SavedEdge.reader 126 (Json.ofList SavedEdge.toJson f.edges).toTerm =
      some (f.edges.map SavedEdge.reread) :=
    Reader.list_toTerm _ fun e he => SavedEdge.reader_toTerm (hf.edges e he)
  rw [toJson_eq, reader, Json.depthLimit, record_presentMembers _ 126 _ rfl]
  simp [Slots.ofMembers, Slots.defaulted, Slots.term?, hnodes, hedges, reread]

lemma SavedFlow.ofText?_toText (f : SavedFlow) :
    ofText? f.toJson.toPrettyText = reader Json.depthLimit f.toJson.toTerm := by
  rw [ofText?, Reader.ofText?, Json.toPrettyText, String.toList_ofList, Json.term_prettyAt,
    Option.bind_some]

/-! ### Too deep to be read -/

lemma SavedNode.nesting_le_of_reader {depth : ℕ} {n m : SavedNode}
    (h : reader (depth + 2) n.toJson.toTerm = some m) :
    ∀ e ∈ n.data.entries, e.2.nesting ≤ depth := by
  rw [toJson, reader, record_presentMembers _ (depth + 1) _ rfl] at h
  simp only [bind, Option.bind_eq_some_iff] at h
  obtain ⟨_, -, _, -, _, -, o, ho, -⟩ := h
  exact Reader.nesting_le_of_object ho

lemma SavedEdge.nesting_le_of_reader {depth : ℕ} {e m : SavedEdge}
    (h : reader (depth + 1) e.toJson.toTerm = some m) : ∀ v ∈ e.data, v.nesting ≤ depth := by
  rw [toJson, reader, record_presentMembers _ depth _ rfl] at h
  generalize hslots : Slots.ofMembers _ = slots at h
  simp only [bind, Option.bind_eq_some_iff] at h
  obtain ⟨_, -, _, -, _, -, _, -, _, -, _, -, data, hdata, -⟩ := h
  intro v hv
  have hslot : slots.term? 6 = e.data.map Json.toTerm := by rw [← hslots]; rfl
  rw [hv] at hslot
  by_cases hnull : v = .null
  · rw [hnull]
    exact Nat.zero_le _
  · rw [Slots.optional_of_ne_null hslot (mt Reader.toTerm_eq_null.1 hnull)] at hdata
    obtain ⟨w, hw, -⟩ := Option.map_eq_some_iff.1 hdata
    exact Json.Term.nesting_le_of_toJson? hw

lemma SavedFlow.nesting_le_of_reader {f g : SavedFlow}
    (h : reader Json.depthLimit f.toJson.toTerm = some g) :
    (∀ n ∈ f.nodes, ∀ e ∈ n.data.entries, e.2.nesting ≤ 123) ∧
      ∀ e ∈ f.edges, ∀ v ∈ e.data, v.nesting ≤ 124 := by
  rw [toJson_eq, reader, Json.depthLimit, record_presentMembers _ 126 _ rfl] at h
  simp only [bind, Option.bind_eq_some_iff] at h
  obtain ⟨nodes, hnodes, edges, hedges, -⟩ := h
  refine ⟨fun n hn => ?_, fun e he => ?_⟩
  · obtain ⟨_, hread⟩ := Reader.exists_of_list_toTerm hnodes n hn
    exact SavedNode.nesting_le_of_reader hread
  · obtain ⟨_, hread⟩ := Reader.exists_of_list_toTerm hedges e he
    exact SavedEdge.nesting_le_of_reader hread

/-! ### Legible flows -/

lemma legible_of_mem_presentMembers {ms : List (String × Option Json)}
    (h : (Json.object (presentMembers ms)).Legible) {k : String} {v : Json}
    (hmem : (k, some v) ∈ ms) : v.Legible :=
  h.member (k, v) (mem_presentMembers hmem)

lemma Position.reread_eq {p : Position} (h : p.toJson.Legible) : p.reread = p := by
  have hx : p.x.reread = p.x := Binary64.reread_eq (h.member ("x", .ofBinary64 p.x) (by simp))
  have hy : p.y.reread = p.y := Binary64.reread_eq (h.member ("y", .ofBinary64 p.y) (by simp))
  rw [reread, hx, hy]

lemma SavedNode.reread_eq {n : SavedNode} (h : n.toJson.Legible) : n.reread = n := by
  have hposition : n.position.map Position.reread = n.position := by
    cases hp : n.position with
    | none => rfl
    | some p =>
      have hlegible : p.toJson.Legible :=
        legible_of_mem_presentMembers h (k := "position") (by simp [hp])
      rw [Option.map_some, p.reread_eq hlegible]
  have hdata : n.data.reread = n.data :=
    Json.Object.reread_eq (legible_of_mem_presentMembers h (k := "data") (by simp))
  rw [reread, hposition, hdata]

lemma SavedEdge.reread_eq {depth : ℕ} {e : SavedEdge} (he : e.Writable depth)
    (h : e.toJson.Legible) : e.reread = e := by
  have hdata : (e.data.filter (· ≠ .null)).map Json.reread = e.data := by
    cases hd : e.data with
    | none => rfl
    | some v =>
      have hlegible : v.Legible := legible_of_mem_presentMembers h (k := "data") (by simp [hd])
      have hne : v ≠ .null := (he.data v hd).1
      simp [hne, hlegible.reread_eq]
  rw [reread, hdata]

lemma SavedFlow.reread_eq {f : SavedFlow} (hf : f.Writable) (h : f.toJson.Legible) :
    f.reread = f := by
  have hnodes : ∀ n ∈ f.nodes, n.reread = n := by
    have hlist : (Json.ofList SavedNode.toJson f.nodes).Legible :=
      legible_of_mem_presentMembers (f.toJson_eq ▸ h) (k := "nodes") (by simp)
    exact fun n hn => SavedNode.reread_eq (hlist.item _ (List.mem_map_of_mem hn))
  have hedges : ∀ e ∈ f.edges, e.reread = e := by
    have hlist : (Json.ofList SavedEdge.toJson f.edges).Legible :=
      legible_of_mem_presentMembers (f.toJson_eq ▸ h) (k := "edges") (by simp)
    exact fun e he => SavedEdge.reread_eq (hf.edges e he) (hlist.item _ (List.mem_map_of_mem he))
  rw [reread, List.map_congr_left hnodes, List.map_congr_left hedges, List.map_id', List.map_id']

/-- **Writable flows are read back** from their own text, if its numbers are. -/
theorem SavedFlow.ofText?_toPrettyText {f : SavedFlow} (hf : f.Writable)
    (hlegible : f.toJson.Legible) : ofText? f.toJson.toPrettyText = some f := by
  rw [ofText?_toText, reader_toTerm hf.fits, reread_eq hf hlegible]

/-! ### Numbers in the text -/

lemma exists_of_mem_numbers {ms : List (String × Option Json)} {n : Json.Number}
    (h : n ∈ (Json.object (presentMembers ms)).numbers) : ∃ m ∈ ms, ∃ v ∈ m.2, n ∈ v.numbers := by
  obtain ⟨m, hm, hn⟩ := Json.mem_memberNumbers.1 h
  obtain ⟨⟨k, v⟩, hmem, hv⟩ := List.mem_filterMap.1 hm
  obtain ⟨w, rfl, rfl⟩ := Option.map_eq_some_iff.1 hv
  exact ⟨_, hmem, w, rfl, hn⟩

lemma notMem_numbers_string {text : Option String} {v : Json} {n : Json.Number}
    (hv : v ∈ text.map Json.string) : n ∉ v.numbers := by
  obtain ⟨s, -, rfl⟩ := Option.map_eq_some_iff.1 hv
  simp [Json.numbers]

lemma inRange_of_mem_ofBinary64 {x : Binary64} {n : Json.Number}
    (h : n ∈ (Json.ofBinary64 x).numbers) : n.InRange := by
  unfold Json.ofBinary64 at h
  split at h
  · next hx =>
    rw [Json.numbers, List.mem_singleton] at h
    subst h
    exact hx
  · cases h

lemma Position.inRange {p : Position} {n : Json.Number} (h : n ∈ p.toJson.numbers) :
    n.InRange := by
  obtain ⟨m, hm, hn⟩ := Json.mem_memberNumbers.1 h
  simp only [List.mem_cons, List.not_mem_nil, or_false] at hm
  rcases hm with rfl | rfl <;> exact inRange_of_mem_ofBinary64 hn

lemma SavedNode.Writable.inRange {depth : ℕ} {s : SavedNode} (hs : s.Writable depth)
    {n : Json.Number} (h : n ∈ s.toJson.numbers) : n.InRange := by
  obtain ⟨m, hm, v, hv, hn⟩ := exists_of_mem_numbers h
  simp only [List.mem_cons, List.not_mem_nil, or_false] at hm
  rcases hm with rfl | rfl | rfl | rfl
  · cases hv
    cases hn
  · cases hv
    cases hn
  · obtain ⟨p, -, rfl⟩ := Option.map_eq_some_iff.1 hv
    exact p.inRange hn
  · cases hv
    obtain ⟨m, hm, hn⟩ := Json.mem_memberNumbers.1 hn
    exact (hs.data m hm).inRange n hn

lemma SavedEdge.Writable.inRange {depth : ℕ} {e : SavedEdge} (he : e.Writable depth)
    {n : Json.Number} (h : n ∈ e.toJson.numbers) : n.InRange := by
  obtain ⟨m, hm, v, hv, hn⟩ := exists_of_mem_numbers h
  simp only [List.mem_cons, List.not_mem_nil, or_false] at hm
  rcases hm with rfl | rfl | rfl | rfl | rfl | rfl | rfl
  case inr.inr.inr.inr.inr.inr => exact (he.data v hv).2.inRange n hn
  case inr.inl | inr.inr.inl =>
    cases hv
    cases hn
  all_goals exact absurd hn (notMem_numbers_string hv)

/-- The numbers in the text of a writable flow are in range. -/
lemma SavedFlow.Writable.inRange {f : SavedFlow} (hf : f.Writable) {n : Json.Number}
    (h : n ∈ f.toJson.numbers) : n.InRange := by
  obtain ⟨m, hm, hn⟩ := Json.mem_memberNumbers.1 h
  simp only [List.mem_cons, List.not_mem_nil, or_false] at hm
  rcases hm with rfl | rfl
  · obtain ⟨v, hv, hn⟩ := Json.mem_itemNumbers.1 hn
    obtain ⟨s, hs, rfl⟩ := List.mem_map.1 hv
    exact (hf.nodes s hs).inRange hn
  · obtain ⟨v, hv, hn⟩ := Json.mem_itemNumbers.1 hn
    obtain ⟨e, he, rfl⟩ := List.mem_map.1 hv
    exact (hf.edges e he).inRange hn

/-! ### What a text gives -/

lemma Position.isFinite_of_reader {depth : ℕ} {t : Json.Term} {p : Position}
    (h : reader (depth + 1) t = some p) : p.IsFinite := by
  obtain ⟨slots, hread⟩ := Reader.exists_slots_of_record h
  simp only [bind, Option.bind_eq_some_iff, pure, Option.some.injEq] at hread
  obtain ⟨x, hx, y, hy, rfl⟩ := hread
  obtain ⟨_, hx⟩ := Slots.exists_of_required hx
  obtain ⟨_, hy⟩ := Slots.exists_of_required hy
  exact ⟨Reader.isFinite_of_binary64 hx, Reader.isFinite_of_binary64 hy⟩

lemma SavedNode.writable_of_reader {depth : ℕ} {t : Json.Term} {n : SavedNode}
    (h : reader (depth + 2) t = some n) : n.Writable depth := by
  obtain ⟨slots, hread⟩ := Reader.exists_slots_of_record h
  simp only [bind, Option.bind_eq_some_iff, pure, Option.some.injEq] at hread
  obtain ⟨_, -, _, -, position, hposition, data, hdata, rfl⟩ := hread
  refine ⟨fun p hp => ?_, ?_⟩
  · rw [Option.mem_def] at hp
    subst hp
    obtain ⟨_, -, hread⟩ := Slots.exists_of_optional hposition
    exact Position.isFinite_of_reader hread
  · rcases Slots.exists_of_defaulted hdata with rfl | ⟨_, hread⟩
    · exact fun m hm => absurd hm List.not_mem_nil
    · exact Reader.canonical_of_object hread

lemma SavedEdge.writable_of_reader {depth : ℕ} {t : Json.Term} {e : SavedEdge}
    (h : reader (depth + 1) t = some e) : e.Writable depth := by
  obtain ⟨slots, hread⟩ := Reader.exists_slots_of_record h
  simp only [bind, Option.bind_eq_some_iff, pure, Option.some.injEq] at hread
  obtain ⟨_, -, _, -, _, -, _, -, _, -, _, -, data, hdata, rfl⟩ := hread
  refine ⟨fun v hv => ?_⟩
  rw [Option.mem_def] at hv
  subst hv
  obtain ⟨u, hne, hread⟩ := Slots.exists_of_optional hdata
  refine ⟨?_, Json.Term.canonical_of_toJson? hread⟩
  rintro rfl
  exact hne (Json.Term.toJson?_eq_null.1 hread)

/-- **Loaded flows are writable.** -/
theorem SavedFlow.writable_of_ofText? {text : String} {f : SavedFlow}
    (h : ofText? text = some f) : f.Writable := by
  obtain ⟨t, -, hread⟩ := Option.bind_eq_some_iff.1 h
  rw [reader, Json.depthLimit] at hread
  obtain ⟨slots, hread⟩ := Reader.exists_slots_of_record hread
  simp only [bind, Option.bind_eq_some_iff, pure, Option.some.injEq] at hread
  obtain ⟨nodes, hnodes, edges, hedges, rfl⟩ := hread
  refine ⟨fun n hn => ?_, fun e he => ?_⟩
  · rcases Slots.exists_of_defaulted hnodes with rfl | ⟨_, hread⟩
    · cases hn
    · obtain ⟨_, hread⟩ := Reader.exists_of_mem_list hread n hn
      exact SavedNode.writable_of_reader hread
  · rcases Slots.exists_of_defaulted hedges with rfl | ⟨_, hread⟩
    · cases he
    · obtain ⟨_, hread⟩ := Reader.exists_of_mem_list hread e he
      exact SavedEdge.writable_of_reader hread

end AgentFlow
