import AgentFlow.Editor.Update
import AgentFlow.Saved.Decode
import AgentFlow.Saved.Encode
import AgentFlow.Workflow.Diagnosis

/-!
Editing sessions over one workflow.

A session knows which node is selected, and counts how often the selection has changed. A ticket
taken for a request keeps both; the answer to the request still applies as long as the session has
the same count and selection.
-/

namespace AgentFlow

/-- The selection for which a request was issued. -/
structure Ticket where
  epoch : UInt64
  node : Option String
deriving DecidableEq, Repr

structure Session where
  /-- The id under which the workflow is saved, once it is. -/
  agent : Option String
  graph : Graph
  selected : Option String
  /-- The number of changes of the selection, modulo `2 ^ 64`. -/
  epoch : UInt64

namespace Session

def ofGraph (agent : Option String) (g : Graph) : Session := ⟨agent, g, none, 0⟩

def new : Session := ofGraph none .starter

instance : Inhabited Session := ⟨new⟩

def openFlow (agent : String) (flow : SavedFlow) : Except LoadError Session :=
  flow.decode.map (ofGraph (some agent))

def setAgent (s : Session) (agent : String) : Session := { s with agent := some agent }

/-! ### Edits -/

/-- Adds a node under a free id; an empty label becomes the name of the kind. -/
def addNode (s : Session) (kind : Kind) (label : String) (position : Position) :
    String × Session :=
  let (id, g) := s.graph.freshId
  let label := if label.isEmpty then kind.displayName else label
  match g.insert? (.make id kind label position) with
  | .ok g => (id, { s with graph := g })
  | .error _ => (id, { s with graph := g })

def clearSelection (s : Session) : Session :=
  if s.selected.isSome then { s with selected := none, epoch := s.epoch + 1 } else s

/-- Takes a node out; if it was selected, the selection is dropped. -/
def removeNode (s : Session) (id : String) : Except EditError (Node × Session) := do
  let (n, g) ← s.graph.remove? id
  let s := { s with graph := g }
  return (n, if s.selected = some id then s.clearSelection else s)

def moveNode (s : Session) (id : String) (position : Position) : Except EditError Session := do
  return { s with graph := ← s.graph.modify? id fun n => { n with position } }

def connect (s : Session) (c : Connection) : Except EditError (String × Session) := do
  let (id, g) ← s.graph.connect? (.ofConnection c)
  return (id, { s with graph := g })

def removeEdge (s : Session) (id : String) : Except EditError (Edge × Session) := do
  let (e, g) ← s.graph.removeEdge? id
  return (e, { s with graph := g })

def updateNode (s : Session) (id : String) (u : Update) : Except EditError Session := do
  return { s with graph := ← s.graph.update? id u }

/-! ### Selection -/

/-- Selects a node. Selecting the selected node again changes nothing. -/
def select (s : Session) (id : String) : Except EditError Session :=
  if !s.graph.contains id then .error (.nodeNotFound id)
  else if s.selected = some id then .ok s
  else .ok { s with selected := some id, epoch := s.epoch + 1 }

def selectedNode? (s : Session) : Option Node := s.selected.bind s.graph.node?

def ticket (s : Session) : Ticket := ⟨s.epoch, s.selected⟩

/-- Whether the answer to a request still applies. -/
def isCurrent (s : Session) (t : Ticket) : Bool := t = s.ticket

/-! ### Views -/

/-- The selected node with the variables that its inputs may be bound to. -/
def inspect (s : Session) : Option (Node × List Variable) :=
  s.selectedNode?.map fun n => (n, s.graph.variablesFor n.id)

/-- The labels in use, each once, in the order of the nodes; the name of the kind stands in for an
empty label. -/
def usedComponents (s : Session) : List String :=
  (s.graph.nodes.map fun n => if n.label.isEmpty then n.kind.name else n.label).foldl
    (fun seen name => if seen.contains name then seen else seen ++ [name]) []

def diagnose (s : Session) : Report := s.graph.diagnose

def flow (s : Session) : SavedFlow := s.graph.encode

/-- Saves the workflow under an id and opens it again. -/
def reopen (s : Session) (agent : String) : Except LoadError Session := openFlow agent s.flow

end Session

end AgentFlow
