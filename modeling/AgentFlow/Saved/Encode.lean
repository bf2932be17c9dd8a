import AgentFlow.Saved.Flow
import AgentFlow.Saved.Param
import AgentFlow.Workflow.Graph

/-!
From a workflow to a saved flow.

Every node is saved under its own type. A reserved member of its data is written from the typed
place alone, and what has no value is left out.
-/

namespace AgentFlow

/-- The members that hold a configuration. -/
def Config.members : Config → List (String × Json)
  | .start template | .finish template =>
    presentMembers [("reply_template", template.map .string)]
  | .llm settings =>
    presentMembers
      [("model", some (.string settings.model)),
        ("temperature", some (.ofBinary64 settings.temperature)),
        ("system_prompt", settings.systemPrompt.map .string)]
  | .knowledge base => presentMembers [("knowledge_base_id", base.map .string)]
  | .tool name => presentMembers [("tool_name", name.map .string)]
  | .mcp server => presentMembers [("mcp_server", server.map .string)]
  | .docParser mode => [("parse_mode", .string mode.name)]
  | .vision | .intent => []

namespace Node

/-- A list, or nothing for the empty one. -/
def listed (f : α → Json) (as : List α) : Option Json :=
  if as.isEmpty then none else some (.ofList f as)

/-- The reserved members of a node's data. -/
def typedMembers (n : Node) : List (String × Json) :=
  presentMembers [("label", some (.string n.label)), ("description", n.description.map .string)] ++
    n.config.members ++
    presentMembers
      [("output_params", listed OutputParam.toJson n.outputs),
        ("input_params", listed InputParam.toJson n.inputs)]

def encode (n : Node) : SavedNode where
  id := n.id
  type := n.kind.name
  position := some n.position
  data := n.typedMembers.foldl (fun o (k, v) => o.insert k v)
    (n.extra.filterKeys fun key => !n.kind.isReserved key)

end Node

def Edge.encode (e : Edge) : SavedEdge :=
  { e.toConnection with id := some e.id, label := e.label, data := e.data }

def Graph.encode (g : Graph) : SavedFlow := ⟨g.nodes.map Node.encode, g.edges.map Edge.encode⟩

/-- The text of a workflow, in which it is written to a file. -/
def Graph.toText (g : Graph) : String := g.encode.toJson.toPrettyText

end AgentFlow
