import AgentFlow.Text.Basic

/-!
Parameters of a node: the values it declares that it produces, the values it takes, and the
references that bind the latter to the former.
-/

namespace AgentFlow

/-- The declared type of a parameter. A type without a meaning here is kept by its name. -/
inductive ParamType where
  | string
  | number
  | boolean
  | object
  | stringList
  | objectList
  | other (name : String)
deriving DecidableEq, Repr, Inhabited

namespace ParamType

def name : ParamType → String
  | .string => "string"
  | .number => "number"
  | .boolean => "boolean"
  | .object => "object"
  | .stringList => "string[]"
  | .objectList => "object[]"
  | .other name => name

def ofName (name : String) : ParamType :=
  if name = "string" then .string
  else if name = "number" then .number
  else if name = "boolean" then .boolean
  else if name = "object" then .object
  else if name = "string[]" then .stringList
  else if name = "object[]" then .objectList
  else .other name

/-- Whether the type has a meaning here. -/
def isKnown : ParamType → Bool
  | .other _ => false
  | _ => true

/-- Whether a user may pick the type for a declared output. -/
def isSelectable : ParamType → Bool
  | .string | .number | .boolean => true
  | _ => false

theorem name_ofName (name : String) : (ofName name).name = name := by
  unfold ofName
  repeat' split
  all_goals simp [ParamType.name, *]

end ParamType

/-- A named and typed value that a node produces. -/
structure OutputParam where
  name : String
  type : ParamType
  desc : Option String
deriving DecidableEq, Repr, Inhabited

/-- An output parameter; an empty description is none. -/
def OutputParam.make (name : String) (type : ParamType) (desc : String) : OutputParam :=
  ⟨name, type, if desc.isEmpty then none else some desc⟩

/-- The output parameter `param` of the node `node`, written `node.output.param`. -/
structure Reference where
  node : String
  param : String
deriving DecidableEq, Repr, Inhabited

namespace Reference

def separator : String := ".output."

def toString (r : Reference) : String := r.node ++ separator ++ r.param

/-- Reads a reference, split at the first separator; neither half may be empty. -/
def parse? (text : String) : Option Reference :=
  match Text.splitFirst? separator.toList text.toList with
  | some (n :: node, p :: param) => some ⟨String.ofList (n :: node), String.ofList (p :: param)⟩
  | _ => none

end Reference

/-- A named input. Its source is kept as the text that was entered, because a half-filled form is a
state worth saving. -/
structure InputParam where
  name : String
  source : Option String
deriving DecidableEq, Repr, Inhabited

inductive Binding where
  | unbound
  | malformed (text : String)
  | bound (reference : Reference)
deriving DecidableEq, Repr

namespace InputParam

def bound (name : String) (reference : Reference) : InputParam := ⟨name, some reference.toString⟩

/-- Reads the source; an empty one is none. -/
def binding (input : InputParam) : Binding :=
  match input.source with
  | none => .unbound
  | some text =>
    if text.isEmpty then .unbound
    else match Reference.parse? text with
      | none => .malformed text
      | some reference => .bound reference

end InputParam

end AgentFlow
