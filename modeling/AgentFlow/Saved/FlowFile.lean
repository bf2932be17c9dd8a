import AgentFlow.Saved.Decode
import AgentFlow.Saved.Encode

/-!
Flow files: workflows as text, and as files.
-/

namespace AgentFlow.FlowFile

def parse (text : String) : Except LoadError Graph :=
  match SavedFlow.ofText? text with
  | some flow => flow.decode
  | none => .error .malformed

/-- Reads a file as a flow, whose node types are not looked at. -/
def read (fs : Files) (path : String) : Except LoadError SavedFlow := do
  let text ← (fs.readText path).mapError (.inaccessible path)
  match SavedFlow.ofText? text with
  | some flow => return flow
  | none => .error .malformed

/-- Reads a file as a workflow. -/
def load (fs : Files) (path : String) : Except LoadError Graph := do
  (← read fs path).decode

def save (g : Graph) (fs : Files) (path : String) : Except LoadError Files :=
  (fs.write path (.text g.toText)).mapError (.inaccessible path)

/-- Whether the text of a workflow reads back as the same nodes and edges, numbers being compared by
value. -/
def isStable (g : Graph) : Except LoadError Bool := do
  let h ← parse g.toText
  return g.nodes.length = h.nodes.length && (g.nodes.zip h.nodes).all (fun (m, n) => m.agrees n) &&
    g.edges.length = h.edges.length && (g.edges.zip h.edges).all fun (e, f) => e.agrees f

end AgentFlow.FlowFile
