import AgentFlow.Files
import AgentFlow.Saved.Decode
import AgentFlow.Search.Ranking
import AgentFlow.Toml.Document

/-!
Settings: where the backend is, how hits are ordered, what is logged.

They are read from a TOML file, in which everything has a default and an unknown name is ignored, and
two environment variables override them.
-/

namespace AgentFlow

structure Settings where
  baseUrl : String
  /-- No time limit is set unless one is given. -/
  timeout : Option Nat
  topK : Nat
  scoreOrder : ScoreOrder
  logFilter : String
deriving DecidableEq, Repr

inductive SettingsError where
  | unreadable (path : String) (cause : FileError)
  | malformed (path : String)
deriving DecidableEq, Repr

def SettingsError.message : SettingsError → String
  | .unreadable path cause => "Could not read config file '" ++ path ++ "': " ++ cause.message
  | .malformed path => "Invalid config file '" ++ path ++ "': " ++ elided

namespace Settings

def default : Settings :=
  ⟨"http://localhost:8001", none, SearchQuery.defaultLimit, .higherIsBetter, "info"⟩

instance : Inhabited Settings := ⟨default⟩

/-- The stated value of each field of a record: by name from a table, or by place from an array.
What is a date has no field. -/
def fields? (names : List String) : Toml → Option (List (Option Toml))
  | .table _ es => some (names.map fun name => es.lookup name)
  | .array items => some ((List.range names.length).map fun i => items[i]?)
  | .tables items =>
    let tables := items.reverse.map (Toml.table .defined)
    some ((List.range names.length).map fun i => tables[i]?)
  | .datetime _ => some (names.map fun _ => none)
  | _ => none

def field? (stated : Option Toml) (read : Toml → Option α) (default : α) : Option α :=
  match stated with
  | none => some default
  | some v => read v

def string? : Toml → Option String
  | .string s => some s
  | _ => none

def nat? : Toml → Option Nat
  | .integer n => if 0 ≤ n then some n.toNat else none
  | _ => none

/-- An order by its name, or as the only entry of a table, with nothing in it. -/
def order? : Toml → Option ScoreOrder
  | .string s => ScoreOrder.ofName? s
  | .table _ [(key, v)] =>
    match v with
    | .table _ [] | .array [] => ScoreOrder.ofName? key
    | _ => none
  | _ => none

def ofEntries? (es : Toml.Entries) : Option Settings := do
  let section? (name : String) (names : List String) :=
    field? (es.lookup name) (fields? names) (names.map fun _ => none)
  let api ← section? "api" ["base_url", "timeout_secs"]
  let search ← section? "search" ["top_k", "score_order"]
  let log ← section? "log" ["filter"]
  return {
    baseUrl := ← field? api[0]?.join string? default.baseUrl
    timeout := ← field? api[1]?.join (fun v => (nat? v).map some) none
    topK := ← field? search[0]?.join nat? default.topK
    scoreOrder := ← field? search[1]?.join order? default.scoreOrder
    logFilter := ← field? log[0]?.join string? default.logFilter }

/-- The path that stands for a text without a file. -/
def inlinePath : String := "<inline>"

def ofText (path text : String) : Except SettingsError Settings :=
  match (Toml.parse? text).bind ofEntries? with
  | some s => .ok s
  | none => .error (.malformed path)

def urlVariable : String := "FLOWSTUDIO_API_URL"

def logVariable : String := "FLOWSTUDIO_LOG"

/-- The settings under given environment variables; an empty one counts as unset. -/
def override (s : Settings) (env : List (String × String)) : Settings :=
  let stated (name : String) : Option String := (env.lookup name).filter (· ≠ "")
  { s with
    baseUrl := (stated urlVariable).getD s.baseUrl
    logFilter := (stated logVariable).getD s.logFilter }

/-- Reads the settings file, if one is given, and applies the environment. -/
def load (fs : Files) (path : Option String) (env : List (String × String)) :
    Except SettingsError Settings := do
  let s ← match path with
    | none => pure default
    | some path =>
      match fs.readText path with
      | .ok text => ofText path text
      | .error e => .error (.unreadable path e)
  return s.override env

def toJson (s : Settings) : Json :=
  .object
    [("api", .object
        [("base_url", .string s.baseUrl), ("timeout_secs", .ofOption .ofNat s.timeout)]),
      ("search", .object
        [("top_k", .ofNat s.topK), ("score_order", .string s.scoreOrder.name)]),
      ("log", .object [("filter", .string s.logFilter)])]

end Settings

end AgentFlow
