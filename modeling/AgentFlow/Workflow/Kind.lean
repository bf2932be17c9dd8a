import AgentFlow.Workflow.Param

/-!
The kinds of nodes and what each kind lets a user change.
-/

namespace AgentFlow

inductive Kind where
  | start
  | finish
  | llm
  | knowledge
  | tool
  | docParser
  | mcp
  | vision
  | intent
deriving DecidableEq, Repr, Inhabited

/-- How the outputs of a node may be edited. -/
inductive OutputPolicy where
  /-- The node produces nothing. -/
  | none
  /-- The outputs belong to the kind. -/
  | fixed
  /-- The user declares the outputs. -/
  | editable
deriving DecidableEq, Repr

namespace Kind

def all : List Kind := [.start, .finish, .llm, .knowledge, .tool, .docParser, .mcp, .vision, .intent]

def name : Kind → String
  | .start => "start"
  | .finish => "end"
  | .llm => "llm"
  | .knowledge => "knowledge"
  | .tool => "tool"
  | .docParser => "doc_parser"
  | .mcp => "mcp"
  | .vision => "vision"
  | .intent => "intent"

def ofName? (name : String) : Option Kind := all.find? (·.name = name)

/-- The renderer on the canvas, which all kinds but the two terminals share. -/
def renderer : Kind → String
  | .start => "start"
  | .finish => "end"
  | _ => "common"

def displayName : Kind → String
  | .start => "Start"
  | .finish => "End"
  | .llm => "LLM"
  | .knowledge => "Knowledge Base"
  | .tool => "Tool Call"
  | .docParser => "Document Parser"
  | .mcp => "MCP Service"
  | .vision => "Vision"
  | .intent => "Intent Recognition"

def acceptsInputs (k : Kind) : Bool := k ≠ .start

def outputPolicy : Kind → OutputPolicy
  | .finish => .none
  | .start | .llm | .knowledge | .tool | .docParser => .fixed
  | .mcp | .vision | .intent => .editable

/-- The members of saved node data that hold the configuration. -/
def configFields : Kind → List String
  | .start | .finish => ["reply_template"]
  | .llm => ["model", "temperature", "system_prompt"]
  | .knowledge => ["knowledge_base_id"]
  | .tool => ["tool_name"]
  | .mcp => ["mcp_server"]
  | .docParser => ["parse_mode"]
  | .vision | .intent => []

/-- Whether a user may change the label and the description. -/
def headerEditable (k : Kind) : Bool := k ≠ .start && k ≠ .finish

/-- The members of saved node data that have a typed place whatever the kind. -/
def sharedFields : List String :=
  ["label", "description", "originalType", "output_params", "input_params"]

/-- Whether a member of saved node data has a typed place, so that free-form data may not use it. -/
def isReserved (k : Kind) (key : String) : Bool :=
  sharedFields.contains key || k.configFields.contains key

def defaultOutputs : Kind → List OutputParam
  | .start =>
    [.make "rawQuery" .string "Text entered by the user",
      .make "fileNames" .stringList "Names of uploaded files",
      .make "fileUrls" .stringList "Object storage paths of uploaded files",
      .make "request_id" .string "Id of this request",
      .make "conversion_id" .string "Conversation id"]
  | .llm =>
    [.make "text" .string "Generated text", .make "usage" .object "Token usage"]
  | .knowledge => [.make "chunks" .objectList "Retrieved knowledge chunks"]
  | .tool => [.make "result" .string "Tool execution result"]
  | .docParser => [.make "content" .string "Parsed document text"]
  | .finish | .mcp | .vision | .intent => []

end Kind

end AgentFlow
