import AgentFlow.Workflow.Ancestry

/-!
The diagnosis of a workflow: what is wrong with it, and what is suspicious.

The issues of the whole graph come first, then those of the edges in their order, then those of each
node: its parameters, its configuration and its bindings.
-/

namespace AgentFlow

inductive Severity where
  | error
  | warning
deriving DecidableEq, Repr

def Severity.name : Severity → String
  | .error => "error"
  | .warning => "warning"

inductive Problem where
  | missingStart
  | multipleStarts (count : Nat)
  | missingEnd
  | danglingEdge (edge missing : String)
  | selfLoop (edge : String)
  | duplicateEdge (edge : String)
  | inputsOnStart
  | outputsOnEnd
  | duplicateOutput (name : String)
  | unboundInput (name : String)
  | malformedBinding (name reference : String)
  | unreachableBinding (name reference : String)
  | temperatureOutOfRange (value : Binary64)
  | missingKnowledgeBase
  | missingTool
deriving DecidableEq, Repr

namespace Problem

def severity : Problem → Severity
  | .missingEnd | .selfLoop _ | .duplicateEdge _ | .unboundInput _ | .missingKnowledgeBase
  | .missingTool => .warning
  | _ => .error

def message : Problem → String
  | .missingStart => "the workflow has no start node"
  | .multipleStarts count => "the workflow has " ++ toString count ++ " start nodes"
  | .missingEnd => "the workflow has no end node"
  | .danglingEdge edge missing => "edge '" ++ edge ++ "' references unknown node '" ++ missing ++ "'"
  | .selfLoop edge => "edge '" ++ edge ++ "' connects a node to itself"
  | .duplicateEdge edge => "edge '" ++ edge ++ "' duplicates an existing connection"
  | .inputsOnStart => "start nodes take no input parameters"
  | .outputsOnEnd => "end nodes produce no output parameters"
  | .duplicateOutput name => "output parameter '" ++ name ++ "' is declared more than once"
  | .unboundInput name => "input parameter '" ++ name ++ "' is not bound to a source"
  | .malformedBinding name reference =>
    "input parameter '" ++ name ++ "' has a malformed source '" ++ reference ++ "'"
  | .unreachableBinding name reference =>
    "input parameter '" ++ name ++ "' is bound to '" ++ reference ++
      "', which is not produced upstream"
  | .temperatureOutOfRange value => "temperature " ++ value.plain ++ " is outside 0..=2"
  | .missingKnowledgeBase => "no knowledge base selected"
  | .missingTool => "no tool selected"

end Problem

/-- A problem, and the node that it belongs to if there is one. -/
structure Issue where
  node : Option String
  problem : Problem
deriving DecidableEq, Repr

namespace Issue

def severity (i : Issue) : Severity := i.problem.severity

def isError (i : Issue) : Bool := i.severity = .error

def text (i : Issue) : String :=
  match i.node with
  | some node => i.severity.name ++ " [" ++ node ++ "]: " ++ i.problem.message
  | none => i.severity.name ++ ": " ++ i.problem.message

end Issue

/-- The issues of a workflow, in the order in which they are reported. -/
structure Report where
  issues : List Issue
deriving DecidableEq, Repr

namespace Report

def errors (r : Report) : List Issue := r.issues.filter Issue.isError

def warnings (r : Report) : List Issue := r.issues.filter fun i => !i.isError

/-- Whether there are no errors; warnings are no hindrance. -/
def isOk (r : Report) : Bool := r.errors.isEmpty

def forNode (r : Report) (id : String) : List Issue := r.issues.filter (·.node = some id)

end Report

namespace Diagnosis

/-! ### Terminals -/

def terminals (nodes : List Node) : List Problem :=
  let starts := nodes.countP (·.kind = .start)
  (if starts = 0 then [.missingStart] else if starts = 1 then [] else [.multipleStarts starts]) ++
    if nodes.any (·.kind = .finish) then [] else [.missingEnd]

/-! ### Edges -/

/-- The endpoints of an edge that are no nodes. -/
def missingEndpoints (g : Graph) (e : Edge) : List String :=
  [e.source, e.target].filter fun id => !g.contains id

/-- The issues of one edge, given the connections of the edges before it. -/
def edge (g : Graph) (seen : List Connection) (e : Edge) : List Issue :=
  ((missingEndpoints g e).map fun id => ⟨none, .danglingEdge e.id id⟩) ++
    (if e.isSelfLoop then [⟨some e.source, .selfLoop e.id⟩] else []) ++
    if seen.contains e.toConnection then [⟨none, .duplicateEdge e.id⟩] else []

/-- The issues of the edges that follow the connections `seen`. -/
def edges (g : Graph) (seen : List Connection) : List Edge → List Issue
  | [] => []
  | e :: rest => edge g seen e ++ edges g (e.toConnection :: seen) rest

/-! ### Parameters -/

/-- The names that occur for the second time, after the names `before`. -/
def repeats (before : List String) : List String → List String
  | [] => []
  | name :: rest =>
    if before.count name = 1 then name :: repeats (name :: before) rest
    else repeats (name :: before) rest

def params (n : Node) : List Problem :=
  (if !n.kind.acceptsInputs && !n.inputs.isEmpty then [.inputsOnStart] else []) ++
    (if n.kind = .finish && !n.outputs.isEmpty then [.outputsOnEnd] else []) ++
    (repeats [] (n.outputs.map OutputParam.name)).map .duplicateOutput

/-! ### Configuration -/

def temperatureInRange (t : Binary64) : Bool := Binary64.zero.atMost t && t.atMost 2

def config : Config → List Problem
  | .llm settings =>
    if temperatureInRange settings.temperature then []
    else [.temperatureOutOfRange settings.temperature]
  | .knowledge none => [.missingKnowledgeBase]
  | .tool none => [.missingTool]
  | _ => []

/-! ### Bindings -/

/-- The problem of one input, given the references that can be bound. -/
def binding (available : List String) (input : InputParam) : Option Problem :=
  match input.binding with
  | .unbound => some (.unboundInput input.name)
  | .malformed text => some (.malformedBinding input.name text)
  | .bound reference =>
    if available.contains reference.toString then none
    else some (.unreachableBinding input.name (input.source.getD ""))

def bindings (g : Graph) (n : Node) : List Problem :=
  n.inputs.filterMap (binding ((g.variablesFor n.id).map Variable.value))

def node (g : Graph) (n : Node) : List Issue :=
  (params n ++ config n.config ++ bindings g n).map (⟨some n.id, ·⟩)

end Diagnosis

/-- The diagnosis of a workflow. -/
def Graph.diagnose (g : Graph) : Report where
  issues :=
    (Diagnosis.terminals g.nodes).map (⟨none, ·⟩) ++ Diagnosis.edges g [] g.edges ++
      g.nodes.flatMap (Diagnosis.node g)

end AgentFlow
