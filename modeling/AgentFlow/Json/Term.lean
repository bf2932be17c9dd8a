import AgentFlow.Json.Token
import AgentFlow.Json.Object

/-!
JSON text as written.

A `Term` keeps what a value forgets: literals unread, members in order with their repetitions, and
strings that denote no text. A reader of records needs it, because a member that it ignores only has
to be well formed.

`Term.parse?` runs a machine over the tokens; the containers that are still open wait in frames.
`Term.toJson?` then reads the value, with a bound on the depth of nesting.
-/

namespace AgentFlow.Json

inductive Term where
  | null
  | bool (b : Bool)
  | number (n : Numeral)
  | string (text : Option String)
  | array (items : List Term)
  | object (members : List (Option String × Term))
deriving Repr, Inhabited

namespace Term

/-- An open container with what it holds so far, in reverse; an open object waits for the value of
its last name. -/
inductive Frame where
  | array (items : List Term)
  | object (members : List (Option String × Term)) (key : Option String)
deriving Repr

/-- What may come next. -/
inductive Stage where
  | value
  /-- After the opening bracket of an array: a value or the closing bracket. -/
  | firstItem
  /-- After the opening brace, or after a comma if members were read: a name, or the closing brace
  if none was. -/
  | key (members : List (Option String × Term))
  | colon (members : List (Option String × Term)) (key : Option String)
  /-- After a value inside a container: a comma or the closing mark. -/
  | next
  /-- After the outermost value. -/
  | done (t : Term)
deriving Repr

structure Machine where
  frames : List Frame
  stage : Stage
deriving Repr

namespace Machine

/-- Hands a finished value to the innermost open container. -/
def supply (t : Term) : List Frame → Machine
  | [] => ⟨[], .done t⟩
  | .array items :: frames => ⟨.array (t :: items) :: frames, .next⟩
  | .object members key :: frames => ⟨.object ((key, t) :: members) none :: frames, .next⟩

def begin? (frames : List Frame) : Token → Option Machine
  | .null => some (supply .null frames)
  | .bool b => some (supply (.bool b) frames)
  | .number n => some (supply (.number n) frames)
  | .string s => some (supply (.string s) frames)
  | .openArray => some ⟨.array [] :: frames, .firstItem⟩
  | .openObject => some ⟨frames, .key []⟩
  | _ => none

def step? (m : Machine) (t : Token) : Option Machine :=
  match m.stage, m.frames, t with
  | .value, frames, t => begin? frames t
  | .firstItem, .array items :: frames, .closeArray => some (supply (.array items.reverse) frames)
  | .firstItem, frames, t => begin? frames t
  | .key [], frames, .closeObject => some (supply (.object []) frames)
  | .key members, frames, .string s => some ⟨frames, .colon members s⟩
  | .colon members key, frames, .colon => some ⟨.object members key :: frames, .value⟩
  | .next, .array items :: frames, .comma => some ⟨.array items :: frames, .value⟩
  | .next, .array items :: frames, .closeArray => some (supply (.array items.reverse) frames)
  | .next, .object members _ :: frames, .comma => some ⟨frames, .key members⟩
  | .next, .object members _ :: frames, .closeObject =>
    some (supply (.object members.reverse) frames)
  | _, _, _ => none

def run? (m : Machine) : List Token → Option Machine
  | [] => some m
  | t :: ts => (m.step? t).bind (·.run? ts)

def result? (m : Machine) : Option Term :=
  match m.frames, m.stage with
  | [], .done t => some t
  | _, _ => none

end Machine

/-- The one value that a text holds. -/
def parse? (cs : List Char) : Option Term := do
  let ts ← tokens? cs
  let m ← Machine.run? ⟨[], .value⟩ ts
  m.result?

mutual

/-- The value of a term whose containers nest at most `depth` deep. Of members of one name the last
one counts. -/
def toJson? (depth : Nat) : Term → Option Json
  | .null => some .null
  | .bool b => some (.bool b)
  | .number n => n.toNumber?.map .number
  | .string s => s.map .string
  | .array items =>
    match depth with
    | 0 => none
    | d + 1 => (itemsToJson? d items).map .array
  | .object ms =>
    match depth with
    | 0 => none
    | d + 1 => (membersToJson? d ms).map fun ms => (Object.ofMembers ms).toJson

def itemsToJson? (depth : Nat) : List Term → Option (List Json)
  | [] => some []
  | t :: ts => do return (← toJson? depth t) :: (← itemsToJson? depth ts)

def membersToJson? (depth : Nat) : List (Option String × Term) → Option (List (String × Json))
  | [] => some []
  | (k, t) :: ms => do return (← k, ← toJson? depth t) :: (← membersToJson? depth ms)

end

end Term

/-- The depth to which containers may nest in a text. -/
def depthLimit : Nat := 127

def parse? (text : String) : Option Json := (Term.parse? text.toList).bind (·.toJson? depthLimit)

end AgentFlow.Json
