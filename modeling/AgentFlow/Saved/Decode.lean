import AgentFlow.Files
import AgentFlow.Saved.Flow
import AgentFlow.Saved.Param
import AgentFlow.Text.Basic
import AgentFlow.Workflow.Graph

/-!
From a saved flow to a workflow.

The typed members of a node's data are taken out in a fixed order, and what is left of the data stays
as free-form data. A node is saved under its own type, or under the type `common` with its own type
in the member `originalType`.
-/

namespace AgentFlow

/-- What is wrong with a member of a node's data. -/
inductive FieldProblem where
  | notString (found : Json)
  | notNumber (found : Json)
  | notNumeric (text : String)
  | unknownMode (name : String)
  | badParams (cause : ParamError)
deriving DecidableEq, Repr

def FieldProblem.message : FieldProblem → String
  | .notString found => "expected a string, found " ++ found.toText
  | .notNumber found => "expected a number, found " ++ found.toText
  | .notNumeric text => "'" ++ text ++ "' is not a number"
  | .unknownMode name => "unknown mode '" ++ name ++ "'"
  | .badParams cause => cause.message

/-- Stands in a message for a detail that is not told. -/
def elided : String := "..."

inductive LoadError where
  | malformed
  | unknownType (node type : String)
  | duplicateNode (id : String)
  | invalidField (node field : String) (problem : FieldProblem)
  | inaccessible (path : String) (cause : FileError)
deriving DecidableEq, Repr

def LoadError.message : LoadError → String
  | .malformed => "Failed to parse flow JSON: " ++ elided
  | .unknownType node type => "Node '" ++ node ++ "' has an unknown node type: '" ++ type ++ "'"
  | .duplicateNode id => "Node id '" ++ id ++ "' appears more than once in the flow"
  | .invalidField node field problem =>
    "Node '" ++ node ++ "' has an invalid field '" ++ field ++ "': " ++ problem.message
  | .inaccessible path cause => "Could not access flow file '" ++ path ++ "': " ++ cause.message

namespace SavedNode

/-- The type name under which the canvas shows most nodes. -/
def placeholderType : String := "common"

/-! ### Members of the data -/

/-- A text; an empty one is none. -/
def text? (n : SavedNode) (field : String) : Except LoadError (Option String) :=
  match n.data.get? field with
  | none | some .null => .ok none
  | some (.string s) => .ok (if s.isEmpty then none else some s)
  | some v => .error (.invalidField n.id field (.notString v))

/-- A number, or a text that spells one between blanks; a blank text is none. -/
def number? (n : SavedNode) (field : String) : Except LoadError (Option Binary64) :=
  match n.data.get? field with
  | none | some .null => .ok none
  | some (.number x) => .ok (some x.toBinary64)
  | some (.string s) =>
    let cs := Text.trim s.toList
    if cs.isEmpty then .ok none
    else match Binary64.parse? cs with
      | some x => .ok (some x)
      | none => .error (.invalidField n.id field (.notNumeric s))
  | some v => .error (.invalidField n.id field (.notNumber v))

def params? (n : SavedNode) (field : String) (read : Json → Except ParamError α) :
    Except LoadError (List α) :=
  match n.data.get? field with
  | none | some .null => .ok []
  | some v => (v.expectList read).mapError fun e => .invalidField n.id field (.badParams e)

def mode? (n : SavedNode) (field : String) : Except LoadError ParseMode := do
  match ← n.text? field with
  | none => return .fast
  | some name =>
    match ParseMode.ofName? name with
    | some mode => return mode
    | none => .error (.invalidField n.id field (.unknownMode name))

/-! ### Nodes -/

def typeName? (n : SavedNode) : Except LoadError String :=
  if n.type = placeholderType then
    match n.data.get? "originalType" with
    | some (.string name) => .ok name
    | _ => .error (.unknownType n.id n.type)
  else .ok n.type

def kind? (n : SavedNode) : Except LoadError Kind := do
  let name ← n.typeName?
  match Kind.ofName? name with
  | some k => return k
  | none => .error (.unknownType n.id name)

/-- A way to read the members of a node's data. -/
structure Access (m : Type → Type) where
  text : String → m (Option String)
  number : String → m (Option Binary64)
  mode : String → m ParseMode
  outputs : String → m (List OutputParam)
  inputs : String → m (List InputParam)

namespace Access

variable {m : Type → Type} [Monad m] (a : Access m)

def config : Kind → m Config
  | .start => return .start (← a.text "reply_template")
  | .finish => return .finish (← a.text "reply_template")
  | .llm => do
    let model ← a.text "model"
    let temperature ← a.number "temperature"
    let systemPrompt ← a.text "system_prompt"
    return .llm {
      model := model.getD LlmConfig.defaultModel
      temperature := temperature.getD LlmConfig.defaultTemperature
      systemPrompt }
  | .knowledge => return .knowledge (← a.text "knowledge_base_id")
  | .tool => return .tool (← a.text "tool_name")
  | .mcp => return .mcp (← a.text "mcp_server")
  | .docParser => return .docParser (← a.mode "parse_mode")
  | .vision => return .vision
  | .intent => return .intent

/-- A node of a kind, still without its position and its free-form data. -/
def node (id : String) (kind : Kind) : m Node := do
  let label ← a.text "label"
  let description ← a.text "description"
  let outputs ← a.outputs "output_params"
  let inputs ← a.inputs "input_params"
  let config ← a.config kind
  return {
    id
    position := .origin
    label := label.getD ""
    description
    config
    outputs
    inputs
    extra := .empty }

end Access

/-- A computation on what is left of a node's data. -/
abbrev Taking (α : Type) := StateT Json.Object (Except LoadError) α

/-- Takes a member out of what is left, to read it. -/
def take (n : SavedNode) (field : String) (read : SavedNode → Except LoadError α) : Taking α :=
  fun rest => return (← read { n with data := rest }, rest.erase field)

def taking (n : SavedNode) : Access Taking where
  text field := n.take field (·.text? field)
  number field := n.take field (·.number? field)
  mode field := n.take field (·.mode? field)
  outputs field := n.take field (·.params? field OutputParam.ofJson)
  inputs field := n.take field (·.params? field InputParam.ofJson)

/-- The node that was saved. What is left when all its members are taken out stays as free-form
data. -/
def decode (n : SavedNode) : Except LoadError Node := do
  let kind ← n.kind?
  let (node, rest) ← (n.taking.node n.id kind).run (n.data.erase "originalType")
  return { node with position := n.position.getD .origin, extra := rest }

end SavedNode

/-- The edge that was saved; one without an id gets the id of a new edge. -/
def SavedEdge.decode (e : SavedEdge) : Edge :=
  let id := match e.id with
    | some id => if id.isEmpty then e.edgeId else id
    | none => e.edgeId
  { e.toConnection with id, label := e.label, data := e.data }

def SavedFlow.decode (f : SavedFlow) : Except LoadError Graph := do
  let nodes ← f.nodes.mapM SavedNode.decode
  match Graph.ofParts? nodes (f.edges.map SavedEdge.decode) with
  | .ok g => return g
  | .error (.duplicateNode id) => .error (.duplicateNode id)
  | .error _ => .error .malformed

end AgentFlow
