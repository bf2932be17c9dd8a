import AgentFlow.Saved.Flow

/-!
Agents: workflows saved under an id, and the results of running them.
-/

namespace AgentFlow

open Json (Reader)

/-- A saved workflow as the backend lists it. -/
structure Agent where
  id : String
  name : String
  description : Option String
  icon : Option String
  createdAt : Option String
  updatedAt : Option String
  latestVersion : Option Nat
deriving DecidableEq, Repr, Inhabited

namespace Agent

def reader : Reader Agent :=
  .record [["id"], ["name"], ["description"], ["icon"], ["created_at"], ["updated_at"],
    ["latest_version"]] fun d slots => do
    return {
      id := ← slots.required 0 d .string
      name := ← slots.required 1 d .string
      description := ← slots.optional 2 d .string
      icon := ← slots.optional 3 d .string
      createdAt := ← slots.optional 4 d .string
      updatedAt := ← slots.optional 5 d .string
      latestVersion := ← slots.optional 6 d (.nat 32) }

def toJson (a : Agent) : Json :=
  .object [("id", .string a.id), ("name", .string a.name),
    ("description", .ofOption .string a.description), ("icon", .ofOption .string a.icon),
    ("created_at", .ofOption .string a.createdAt), ("updated_at", .ofOption .string a.updatedAt),
    ("latest_version", .ofOption .ofNat a.latestVersion)]

end Agent

structure AgentDraft where
  name : String
  description : Option String
  icon : Option String
  flow : SavedFlow
deriving DecidableEq

def AgentDraft.toJson (a : AgentDraft) : Json :=
  .object <| presentMembers
    [("name", some (.string a.name)), ("description", a.description.map .string),
      ("icon", a.icon.map .string), ("flow_json", some a.flow.toJson)]

structure AgentChange where
  name : Option String
  description : Option String
  icon : Option String
  flow : Option SavedFlow
deriving DecidableEq

def AgentChange.toJson (a : AgentChange) : Json :=
  .object <| presentMembers
    [("name", a.name.map .string), ("description", a.description.map .string),
      ("icon", a.icon.map .string), ("flow_json", a.flow.map SavedFlow.toJson)]

/-- An agent in the export format. -/
structure Export where
  yaml : String
  filename : String
deriving DecidableEq, Repr

def Export.reader : Reader Export :=
  .record [["yaml"], ["filename"]] fun d slots => do
    return ⟨← slots.required 0 d .string, ← slots.required 1 d .string⟩

structure RunResult where
  status : String
  output : Json
  fullState : Option String
  traceLogs : List Json
deriving DecidableEq

namespace RunResult

def reader : Reader RunResult :=
  .record [["status"], ["output"], ["full_state"], ["trace_logs"]] fun d slots => do
    return {
      status := ← slots.required 0 d .string
      output := ← slots.defaulted 1 d .json .null
      fullState := ← slots.optional 2 d .string
      traceLogs := ← slots.defaulted 3 d (.list .json) [] }

/-- The text to show: the output if it is a text, its member `content` if that is a text with
something in it, and the JSON text of the output otherwise. -/
def outputText (r : RunResult) : String :=
  match r.output with
  | .string s => s
  | output =>
    match output.get? "content" with
    | some (.string s) => if s.isEmpty then output.toText else s
    | _ => output.toText

end RunResult

end AgentFlow
