import AgentFlow.Proofs.Saved.Format

/-!
What a flow keeps when it is loaded and saved.

Of a node, loading takes the reserved members into typed places and saving writes them from there;
all other members go through the free-form data. Both sides draw the line by the kind of the node,
so that no member is lost, doubled or overwritten. The edges only get the ids that they lack.
-/

namespace AgentFlow

/-- A saved node after it was loaded as `n` and saved again. -/
structure SavedNode.Resaved (s : SavedNode) (n : Node) (s' : SavedNode) : Prop where
  loads : s.decode = .ok n
  id : s'.id = s.id
  /-- The type under which the node is saved is the one that it stood for. -/
  type : s.TypeName s'.type ∧ s'.type = n.kind.name
  position : s'.position = some (s.position.getD .origin)
  free : ∀ key, n.kind.isReserved key = false → s'.data.get? key = s.data.get? key
  typed : ∀ key, n.kind.isReserved key = true → s'.data.get? key = n.member? key
  noOriginalType : s'.data.get? "originalType" = none

def SavedEdge.identified (e : SavedEdge) : SavedEdge :=
  { e with id := some ((filled e.id).getD e.edgeId) }

/-- A saved flow after it was loaded and saved again. -/
structure SavedFlow.Resaved (f f' : SavedFlow) : Prop where
  nodes : List.Forall₂ (fun s s' => ∃ n, s.Resaved n s') f.nodes f'.nodes
  edges : f'.edges = f.edges.map SavedEdge.identified

lemma SavedNode.resaved_encode {s : SavedNode} {n : Node} (h : s.decode = .ok n) :
    s.Resaved n n.encode := by
  have hread := readAs_of_decode h
  have hsaved := n.savedAs_encode
  refine ⟨h, hsaved.id.trans hread.id, ⟨?_, hsaved.type⟩, ?_, fun key hkey => ?_, hsaved.typed,
    hsaved.noOriginalType⟩
  · rw [hsaved.type]
    exact kind?_eq_ok_iff.1 hread.kind
  · rw [hsaved.position, hread.position]
  · rw [hsaved.free key hkey, hread.extra, Json.Object.get?_filterKeys, hkey]
    rfl

lemma SavedEdge.encode_decode (e : SavedEdge) : e.decode.encode = e.identified := by
  obtain ⟨c, id, label, data⟩ := e
  cases id with
  | none => rfl
  | some id =>
    by_cases hid : id = ""
    · subst hid
      rfl
    · simp [decode, Edge.encode, identified, filled, Option.filter, hid]

namespace Graph

lemma forall₂_of_decode {f : SavedFlow} {g : Graph} (h : f.decode = .ok g) :
    List.Forall₂ (fun s n => s.decode = .ok n) f.nodes g.nodes ∧
      g.edges = f.edges.map SavedEdge.decode := by
  obtain ⟨ns, hns, hparts⟩ := SavedFlow.decode_eq_ok_iff.1 h
  obtain ⟨hnodes, hedges⟩ := parts_of_ofParts? hparts
  rw [hnodes]
  exact ⟨forall₂_of_mapM hns, hedges⟩

/-- **What a flow keeps** when it is loaded and saved: every node in its place, with its id, its own
type, its position and all its free-form data, and every edge, with an id if it had none. -/
theorem resaved_of_decode {f : SavedFlow} {g : Graph} (h : f.decode = .ok g) :
    f.Resaved g.encode := by
  obtain ⟨hnodes, hedges⟩ := forall₂_of_decode h
  constructor
  · rw [encode, List.forall₂_map_right_iff]
    exact hnodes.imp fun s n hread => ⟨n, SavedNode.resaved_encode hread⟩
  · rw [encode, hedges, List.map_map]
    exact List.map_congr_left fun e _ => e.encode_decode

/-- A start node under the placeholder type, with a member that is reserved for other kinds only,
and edges with and without an id. -/
def placeholderFlow : SavedFlow where
  nodes :=
    [⟨"s", "common", none,
        .ofMembers [("originalType", .string "start"), ("model", .ofNat 1), ("note", .null)]⟩,
      ⟨"e", "end", none, .ofMembers [("description", .string ""), ("reply_template", .null)]⟩]
  edges :=
    [⟨⟨"s", "e", none, none⟩, none, none, none⟩, ⟨⟨"s", "e", some "h", none⟩, some "", none, none⟩,
      ⟨⟨"s", "gone", none, none⟩, some "x", some "l", some .null⟩]

theorem resaved_placeholderFlow :
    ∃ g, placeholderFlow.decode = .ok g ∧ placeholderFlow.Resaved g.encode ∧
      g.encode.nodes.map (fun s => (s.type, s.data.keys)) =
        [("start", ["label", "model", "note"]), ("end", ["label"])] ∧
      g.encode.edges.map SavedEdge.id =
        [some "reactflow__edge-s-e", some "reactflow__edge-sh-e", some "x"] := by
  obtain ⟨g, hg, hnodes, hedges⟩ := exists_ok_of_any (x := placeholderFlow.decode)
    (P := fun g => g.encode.nodes.map (fun s => (s.type, s.data.keys)) =
        [("start", ["label", "model", "note"]), ("end", ["label"])] ∧
      g.encode.edges.map SavedEdge.id =
        [some "reactflow__edge-s-e", some "reactflow__edge-sh-e", some "x"])
    (by decide +kernel)
  exact ⟨g, hg, resaved_of_decode hg, hnodes, hedges⟩

end Graph

end AgentFlow
