import AgentFlow.Proofs.Saved.Stability

/-!
Which workflows load from their own text.

Rereading the saved form of a node gives the saved form of the node with its numbers reread, and
that form loads like any other. So the text of a workflow is refused only where its values cannot be
read.
-/

namespace AgentFlow

/-! ### Rereading saved nodes -/

namespace Json

lemma rereadMembers_insertMember (key : String) (v : Json) (ms : List (String × Json)) :
    rereadMembers (insertMember key v ms) = insertMember key v.reread (rereadMembers ms) := by
  induction ms with
  | nil => rfl
  | cons m rest ih =>
    obtain ⟨k, w⟩ := m
    simp only [insertMember, rereadMembers]
    split
    · rfl
    · split
      · rfl
      · rw [rereadMembers, ih]

namespace Object

lemma reread_foldl_insert (o : Object) (ms : List (String × Json)) :
    (ms.foldl (fun o (k, v) => o.insert k v) o).reread =
      (rereadMembers ms).foldl (fun o (k, v) => o.insert k v) o.reread := by
  induction ms generalizing o with
  | nil => rfl
  | cons m rest ih =>
    obtain ⟨k, v⟩ := m
    have hinsert : (o.insert k v).reread = o.reread.insert k v.reread :=
      ext_entries (rereadMembers_insertMember k v o.entries)
    rw [List.foldl_cons, ih, hinsert]
    rfl

lemma reread_filterKeys (o : Object) (p : String → Bool) :
    (o.filterKeys p).reread = o.reread.filterKeys p := by
  refine ext_entries ?_
  simp only [reread, filterKeys, rereadMembers_eq_map, List.filter_map]
  rfl

end Object

lemma rereadMembers_append (ms ms' : List (String × Json)) :
    rereadMembers (ms ++ ms') = rereadMembers ms ++ rereadMembers ms' := by
  simp only [rereadMembers_eq_map, List.map_append]

end Json

lemma rereadMembers_presentMembers (ms : List (String × Option Json)) :
    Json.rereadMembers (presentMembers ms) =
      presentMembers (ms.map (Prod.map id (Option.map Json.reread))) := by
  rw [Json.rereadMembers_eq_map, presentMembers, presentMembers, List.map_filterMap,
    List.filterMap_map]
  congr 1
  funext m
  obtain ⟨k, v⟩ := m
  cases v <;> rfl

lemma reread_string (text : Option String) :
    (text.map Json.string).map Json.reread = text.map Json.string := by
  cases text <;> rfl

lemma OutputParam.reread_toJson (p : OutputParam) : p.toJson.reread = p.toJson := by
  obtain ⟨name, type, desc⟩ := p
  cases desc <;> rfl

lemma InputParam.reread_toJson (p : InputParam) : p.toJson.reread = p.toJson := by
  obtain ⟨name, source⟩ := p
  cases source <;> rfl

lemma Node.reread_listed {α : Type} {write : α → Json} (h : ∀ a, (write a).reread = write a)
    (as : List α) : (listed write as).map Json.reread = listed write as := by
  have hmap : Json.rereadItems (as.map write) = as.map write := by
    rw [Json.rereadItems_eq_map, List.map_map]
    exact List.map_congr_left fun a _ => h a
  unfold listed
  split
  · rfl
  · rw [Option.map_some, Json.ofList, Json.reread, hmap]

def Config.reread : Config → Config
  | .llm settings => .llm { settings with temperature := settings.temperature.reread }
  | c => c

lemma Config.kind_reread (c : Config) : c.reread.kind = c.kind := by
  cases c <;> rfl

lemma Config.rereadMembers_members (c : Config) :
    Json.rereadMembers c.members = c.reread.members := by
  cases c with
  | llm settings =>
    simp only [members, rereadMembers_presentMembers, List.map_cons, List.map_nil, Prod.map,
      Option.map_some, reread_string, Binary64.reread_ofBinary64]
    rfl
  | docParser mode => rfl
  | vision | intent => rfl
  | _ =>
    simp only [members, rereadMembers_presentMembers, List.map_cons, List.map_nil, Prod.map,
      reread_string]
    rfl

namespace Node

/-- The node with its numbers as they are read back. -/
def reread (n : Node) : Node :=
  { n with position := n.position.reread, config := n.config.reread, extra := n.extra.reread }

lemma kind_reread (n : Node) : n.reread.kind = n.kind := n.config.kind_reread

lemma rereadMembers_typedMembers (n : Node) :
    Json.rereadMembers n.typedMembers = n.reread.typedMembers := by
  simp only [typedMembers, Json.rereadMembers_append, n.config.rereadMembers_members,
    rereadMembers_presentMembers, List.map_cons, List.map_nil, Prod.map, Option.map_some,
    reread_string, reread_listed OutputParam.reread_toJson, reread_listed InputParam.reread_toJson]
  rfl

/-- The saved form of a node is read back as a saved form. -/
lemma reread_encode (n : Node) : n.encode.reread = n.reread.encode := by
  have hdata : n.encode.data.reread = n.reread.encode.data := by
    rw [encode, encode, Json.Object.reread_foldl_insert, rereadMembers_typedMembers,
      Json.Object.reread_filterKeys, kind_reread]
    rfl
  have htype : n.encode.type = n.reread.encode.type := congrArg Kind.name n.kind_reread.symm
  rw [SavedNode.reread, hdata, htype]
  rfl

end Node

/-! ### Nesting of free-form data -/

/-- What a node writes of its own into its data is shallow. -/
lemma Node.Tidy.nesting_encode {n : Node} (hn : n.Tidy) {depth : ℕ} :
    (∀ m ∈ n.encode.data.entries, m.2.nesting ≤ depth + 2) ↔
      ∀ m ∈ n.extra.entries, m.2.nesting ≤ depth + 2 := by
  constructor
  · intro h m hm
    rw [← hn.extra, ← filterKeys_encode] at hm
    exact h m (List.mem_of_mem_filter hm)
  · intro h m hm
    rcases Json.mem_of_mem_foldl_insert hm with hm | hm
    · exact h m (List.mem_of_mem_filter hm)
    · exact (Json.canonical_iff.1 (n.canonical_typedMembers depth m hm)).2

/-- All values in a workflow are ones that some text could hold. -/
structure Graph.WellFormed (g : Graph) : Prop where
  extra : ∀ n ∈ g.nodes, ∀ m ∈ n.extra.entries, m.2.WellFormed
  data : ∀ e ∈ g.edges, ∀ v ∈ e.data, v.WellFormed

/-! ### Whole workflows -/

namespace Graph

lemma exists_decode_reread (g : Graph) : ∃ h, g.encode.reread.decode = .ok h := by
  have hnodes : g.encode.reread.nodes = (g.nodes.map Node.reread).map Node.encode := by
    simp only [SavedFlow.reread, encode, List.map_map]
    exact List.map_congr_left fun n _ => n.reread_encode
  have hids : ((g.nodes.map Node.reread).map Node.id).Nodup := by
    rw [List.map_map]
    exact g.nodup_ids
  obtain ⟨h, hdecode, -, -⟩ := exists_decode_map_encode hids g.encode.reread.edges
  rw [← hnodes] at hdecode
  exact ⟨h, hdecode⟩

end Graph

namespace FlowFile

/-- **Where a workflow loads again**: its text is accepted exactly if no value nests deeper than the
reader follows it from the place where the value stands. -/
theorem exists_parse_toText_iff {g : Graph} (htidy : ∀ n ∈ g.nodes, n.Tidy)
    (hvalues : g.WellFormed) (hposition : ∀ n ∈ g.nodes, n.position.IsFinite) :
    (∃ h, parse g.toText = .ok h) ↔
      (∀ n ∈ g.nodes, ∀ m ∈ n.extra.entries, m.2.nesting ≤ 123) ∧
        ∀ e ∈ g.edges, ∀ v ∈ e.data, v.nesting ≤ 124 := by
  constructor
  · rintro ⟨h, hparse⟩
    obtain ⟨f, hf, -⟩ := exists_of_parse hparse
    rw [Graph.toText, SavedFlow.ofText?_toText] at hf
    obtain ⟨hnodes, hedges⟩ := SavedFlow.nesting_le_of_reader hf
    exact ⟨fun n hn => (htidy n hn).nesting_encode.1 (hnodes n.encode (List.mem_map_of_mem hn)),
      fun e he => hedges e.encode (List.mem_map_of_mem he)⟩
  · rintro ⟨hnodes, hedges⟩
    have hfits : g.encode.Fits := by
      refine ⟨fun s hs => ?_, fun s hs v hv => ?_⟩
      · obtain ⟨n, hn, rfl⟩ := List.mem_map.1 hs
        exact n.writable_encode (hposition n hn) fun m hm =>
          Json.canonical_iff.2 ⟨hvalues.extra n hn m hm, hnodes n hn m hm⟩
      · obtain ⟨e, he, rfl⟩ := List.mem_map.1 hs
        exact Json.canonical_iff.2 ⟨hvalues.data e he v hv, hedges e he v hv⟩
    obtain ⟨h, hdecode⟩ := g.exists_decode_reread
    refine ⟨h, ?_⟩
    rw [parse, Graph.toText, SavedFlow.ofText?_toText, SavedFlow.reader_toTerm hfits]
    exact hdecode

end FlowFile

end AgentFlow
