import AgentFlow.Workflow.Graph

/-!
Updates of a node.

An update names the parts to change. What the kind of the node does not let a user change is
refused, and then nothing is changed.
-/

namespace AgentFlow

/-- The parts of a node to change; what is none stays as it is. -/
structure Update where
  label : Option String
  description : Option String
  config : Option Config
  inputs : Option (List InputParam)
  outputs : Option (List OutputParam)
  extra : Option Json.Object
deriving DecidableEq

namespace Update

def empty : Update := ⟨none, none, none, none, none, none⟩

def outputsError? (n : Node) (outputs : List OutputParam) : Option EditError :=
  match n.kind.outputPolicy with
  | .editable =>
    (outputs.find? fun p => !p.type.isSelectable).map fun p =>
      .unsupportedType n.id p.name p.type.name
  | .fixed =>
    if outputs = n.outputs then none else some (.notEditable n.id n.kind .outputs)
  | .none => some (.notEditable n.id n.kind .outputs)

def error? (u : Update) (n : Node) : Option EditError :=
  let refuse (what : Refusal) : Option EditError := some (.notEditable n.id n.kind what)
  let header :=
    if (u.label.isSome || u.description.isSome) && !n.kind.headerEditable then refuse .header
    else none
  let config := u.config.bind fun c =>
    if c.kind = n.kind then none else refuse (.config c.kind)
  let inputs := u.inputs.bind fun ps =>
    if !ps.isEmpty && !n.kind.acceptsInputs then refuse .inputs else none
  let extra := u.extra.bind fun o =>
    (o.keys.find? n.kind.isReserved).bind fun key => refuse (.extra key)
  let outputs := u.outputs.bind (outputsError? n)
  header <|> config <|> inputs <|> extra <|> outputs

/-- The node with the named parts changed; an empty description is none, and new free-form members
join those that are there. -/
def apply (u : Update) (n : Node) : Node where
  id := n.id
  position := n.position
  label := u.label.getD n.label
  description := match u.description with
    | none => n.description
    | some d => if d.isEmpty then none else some d
  config := u.config.getD n.config
  outputs := u.outputs.getD n.outputs
  inputs := u.inputs.getD n.inputs
  extra := match u.extra with
    | none => n.extra
    | some o => n.extra.extend o

end Update

def Graph.update? (g : Graph) (id : String) (u : Update) : Except EditError Graph :=
  match g.node? id with
  | none => .error (.nodeNotFound id)
  | some n =>
    match u.error? n with
    | some e => .error e
    | none => g.modify? id u.apply

end AgentFlow
