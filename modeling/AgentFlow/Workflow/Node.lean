import AgentFlow.Workflow.Config
import AgentFlow.Json.Object

/-!
Nodes and edges of a workflow.
-/

namespace AgentFlow

structure Position where
  x : Binary64
  y : Binary64
deriving DecidableEq, Repr, Inhabited

namespace Position

def origin : Position := ⟨.zero, .zero⟩

def agrees (p q : Position) : Bool := p.x.sameValue q.x && p.y.sameValue q.y

end Position

structure Node where
  id : String
  position : Position
  label : String
  description : Option String
  config : Config
  outputs : List OutputParam
  inputs : List InputParam
  /-- Free-form data that has no typed place. -/
  extra : Json.Object
deriving DecidableEq, Inhabited

namespace Node

def make (id : String) (kind : Kind) (label : String) (position : Position) : Node where
  id := id
  position := position
  label := label
  description := none
  config := .defaultFor kind
  outputs := kind.defaultOutputs
  inputs := []
  extra := .empty

def kind (n : Node) : Kind := n.config.kind

/-- The label in menus: the id stands in for an empty one. -/
def displayLabel (n : Node) : String := if n.label.isEmpty then n.id else n.label

/-- Equality in which numbers are compared by value. -/
def agrees (m n : Node) : Bool :=
  m.id = n.id && m.position.agrees n.position && m.label = n.label &&
    m.description = n.description && m.config.agrees n.config && m.outputs = n.outputs &&
    m.inputs = n.inputs && Json.agreesMembers m.extra.entries n.extra.entries

end Node

/-- What an edge joins: two nodes, and a handle on either if there are several. -/
structure Connection where
  source : String
  target : String
  sourceHandle : Option String
  targetHandle : Option String
deriving DecidableEq, Repr, Inhabited

def Connection.edgeId (c : Connection) : String :=
  "reactflow__edge-" ++ c.source ++ c.sourceHandle.getD "" ++ "-" ++ c.target ++
    c.targetHandle.getD ""

/-- An edge: the outputs of its source are offered to its target. -/
structure Edge extends Connection where
  id : String
  label : Option String
  data : Option Json
deriving DecidableEq, Inhabited

namespace Edge

def ofConnection (c : Connection) : Edge := { c with id := c.edgeId, label := none, data := none }

def make (source target : String) : Edge := ofConnection ⟨source, target, none, none⟩

/-- The edge moved to other handles, under the id that goes with them. -/
def withHandles (e : Edge) (sourceHandle targetHandle : Option String) : Edge :=
  let c : Connection := { e.toConnection with sourceHandle, targetHandle }
  { e with toConnection := c, id := c.edgeId }

def isSelfLoop (e : Edge) : Bool := e.source = e.target

def touches (e : Edge) (id : String) : Bool := e.source = id || e.target = id

/-- Equality in which numbers are compared by value. -/
def agrees (e f : Edge) : Bool :=
  e.toConnection = f.toConnection && e.id = f.id && e.label = f.label &&
    match e.data, f.data with
    | none, none => true
    | some v, some w => v.agrees w
    | _, _ => false

end Edge

end AgentFlow
