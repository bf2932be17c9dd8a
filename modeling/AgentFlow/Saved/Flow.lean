import AgentFlow.Json.Record
import AgentFlow.Json.Printer
import AgentFlow.Workflow.Node

/-!
Saved flows: the form in which a workflow is stored and exchanged.

Nothing is interpreted here. A node has the name of its type and a map of free-form data, and an
edge may lack an id.
-/

namespace AgentFlow

open Json (Reader Slots)

namespace Position

def toJson (p : Position) : Json := .object [("x", .ofBinary64 p.x), ("y", .ofBinary64 p.y)]

def reader : Reader Position := .record [["x"], ["y"]] fun d slots => do
  return ⟨← slots.required 0 d .binary64, ← slots.required 1 d .binary64⟩

end Position

structure SavedNode where
  id : String
  type : String
  position : Option Position
  data : Json.Object
deriving DecidableEq, Inhabited

structure SavedEdge extends Connection where
  id : Option String
  label : Option String
  data : Option Json
deriving DecidableEq, Inhabited

structure SavedFlow where
  nodes : List SavedNode
  edges : List SavedEdge
deriving DecidableEq, Inhabited

/-- The members of an object that have a value. -/
def presentMembers (ms : List (String × Option Json)) : List (String × Json) :=
  ms.filterMap fun (k, v) => v.map (k, ·)

namespace SavedNode

def toJson (n : SavedNode) : Json :=
  .object <| presentMembers
    [("id", some (.string n.id)), ("type", some (.string n.type)),
      ("position", n.position.map Position.toJson), ("data", some n.data.toJson)]

def reader : Reader SavedNode := .record [["id"], ["type"], ["position"], ["data"]] fun d slots => do
  return {
    id := ← slots.required 0 d .string
    type := ← slots.required 1 d .string
    position := ← slots.optional 2 d Position.reader
    data := ← slots.defaulted 3 d .object .empty }

end SavedNode

namespace SavedEdge

def toJson (e : SavedEdge) : Json :=
  .object <| presentMembers
    [("id", e.id.map .string), ("source", some (.string e.source)),
      ("target", some (.string e.target)), ("sourceHandle", e.sourceHandle.map .string),
      ("targetHandle", e.targetHandle.map .string), ("label", e.label.map .string),
      ("data", e.data)]

/-- The fields with all their names. -/
def fields : List (List String) :=
  [["id"], ["source"], ["target"], ["sourceHandle", "source_handle"],
    ["targetHandle", "target_handle"], ["label"], ["data"]]

def reader : Reader SavedEdge := .record fields fun d slots => do
  return {
    id := ← slots.optional 0 d .string
    source := ← slots.required 1 d .string
    target := ← slots.required 2 d .string
    sourceHandle := ← slots.optional 3 d .string
    targetHandle := ← slots.optional 4 d .string
    label := ← slots.optional 5 d .string
    data := ← slots.optional 6 d .json }

end SavedEdge

namespace SavedFlow

def toJson (f : SavedFlow) : Json :=
  .object [("nodes", .ofList SavedNode.toJson f.nodes), ("edges", .ofList SavedEdge.toJson f.edges)]

def reader : Reader SavedFlow := .record [["nodes"], ["edges"]] fun d slots => do
  return {
    nodes := ← slots.defaulted 0 d (.list SavedNode.reader) []
    edges := ← slots.defaulted 1 d (.list SavedEdge.reader) [] }

def ofText? (text : String) : Option SavedFlow := reader.ofText? text

end SavedFlow

end AgentFlow
