import AgentFlow.Json.Printer
import AgentFlow.Text.Printable
import AgentFlow.Workflow.Param

/-!
Parameter lists in saved data.

The lists are read from values, and the first thing that is wrong is reported: the members of an
object are looked at in the order of their names, and after that the missing ones are sought in the
order of the fields.
-/

namespace AgentFlow

inductive ParamError where
  | wrongType (found : Json) (expected : String)
  | missingField (name : String)
  /-- An array ends before a field that has to be given. -/
  | tooShort (length : Nat) (expected : String)
  | tooLong (length : Nat)
deriving DecidableEq, Repr

/-- A value in a message. -/
def Json.described : Json → String
  | .null => "null"
  | .bool true => "boolean `true`"
  | .bool false => "boolean `false`"
  | .number (.int n) => "integer `" ++ toString n ++ "`"
  | .number (.real x) => "floating point `" ++ String.ofList x.numeral ++ "`"
  | .string s => "string " ++ Text.quoted s
  | .array _ => "sequence"
  | .object _ => "map"

def ParamError.message : ParamError → String
  | .wrongType found expected => "invalid type: " ++ found.described ++ ", expected " ++ expected
  | .missingField name => "missing field `" ++ name ++ "`"
  | .tooShort length expected => "invalid length " ++ toString length ++ ", expected " ++ expected
  | .tooLong length =>
    "invalid length " ++ toString length ++ ", expected fewer elements in array"

namespace Json

def expectString : Json → Except ParamError String
  | .string s => .ok s
  | v => .error (.wrongType v "a string")

def expectOptional : Json → Except ParamError (Option String)
  | .null => .ok none
  | v => v.expectString.map some

def expectList (read : Json → Except ParamError α) : Json → Except ParamError (List α)
  | .array items => items.mapM read
  | v => .error (.wrongType v "a sequence")

def member? (ms : List (String × Json)) (key : String) (read : Json → Except ParamError α) :
    Except ParamError (Option α) :=
  match ms.lookup key with
  | none => .ok none
  | some v => (read v).map some

/-- A field that has to be given. -/
def given (name : String) : Option α → Except ParamError α
  | some a => .ok a
  | none => .error (.missingField name)

end Json

namespace OutputParam

def toJson (p : OutputParam) : Json :=
  .object <|
    (match p.desc with | none => [] | some desc => [("desc", .string desc)]) ++
      [("name", .string p.name), ("type", .string p.type.name)]

/-- What is expected where an array is too short. -/
def shape : String := "struct OutputParam with 3 elements"

def ofJson : Json → Except ParamError OutputParam
  | .object ms => do
    let desc ← Json.member? ms "desc" Json.expectOptional
    let name ← Json.member? ms "name" Json.expectString
    let type ← Json.member? ms "type" Json.expectString
    return ⟨← Json.given "name" name, .ofName (← Json.given "type" type), desc.join⟩
  | .array items =>
    match items with
    | [] => .error (.tooShort 0 shape)
    | [name] => do
      let _ ← name.expectString
      .error (.tooShort 1 shape)
    | [name, type] => do return ⟨← name.expectString, .ofName (← type.expectString), none⟩
    | name :: type :: desc :: rest => do
      let p := ⟨← name.expectString, .ofName (← type.expectString), ← desc.expectOptional⟩
      if rest.isEmpty then return p else .error (.tooLong items.length)
  | v => .error (.wrongType v "struct OutputParam")

end OutputParam

namespace InputParam

def toJson (p : InputParam) : Json :=
  .object <| ("name", .string p.name) ::
    match p.source with | none => [] | some source => [("value_source", .string source)]

def ofJson : Json → Except ParamError InputParam
  | .object ms => do
    let name ← Json.member? ms "name" Json.expectString
    let source ← Json.member? ms "value_source" Json.expectOptional
    return ⟨name.getD "", source.join⟩
  | .array items =>
    match items with
    | [] => .ok ⟨"", none⟩
    | [name] => do return ⟨← name.expectString, none⟩
    | name :: source :: rest => do
      let p := ⟨← name.expectString, ← source.expectOptional⟩
      if rest.isEmpty then return p else .error (.tooLong items.length)
  | v => .error (.wrongType v "struct InputParam")

end InputParam

end AgentFlow
