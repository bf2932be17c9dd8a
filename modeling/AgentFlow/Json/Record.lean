import AgentFlow.Json.Term

/-!
Reading records from JSON terms.

A record is written as an object, or as an array of its fields in order. In an object a member that
is no field is ignored, and a field given twice is refused. In an array the last fields may be
missing. Either way the reader first lays the terms out in `Slots`, one for each field, and the
fields are then read one by one: a missing field is refused, or stands for its default.
-/

namespace AgentFlow.Json

/-- Reads a value of type `α` from a term whose containers may nest `depth` deep. -/
abbrev Reader (α : Type) := (depth : Nat) → Term → Option α

/-- The terms given for the fields of a record, in the order of the fields. -/
abbrev Slots := List (Option Term)

namespace Reader

/-! ### Plain values -/

def string : Reader String := fun _ t =>
  match t with
  | .string s => s
  | _ => none

def bool : Reader Bool := fun _ t =>
  match t with
  | .bool b => some b
  | _ => none

def binary64 : Reader Binary64 := fun _ t =>
  match t with
  | .number n => n.toNumber?.map Number.toBinary64
  | _ => none

/-- A natural number below `2 ^ width`. -/
def nat (width : Nat) : Reader Nat := fun _ t =>
  match t with
  | .number n =>
    match n.toNumber? with
    | some (.int i) => if 0 ≤ i ∧ i < pow2 width then some i.toNat else none
    | _ => none
  | _ => none

def json : Reader Json := fun depth t => t.toJson? depth

def object : Reader Object := fun depth t =>
  match depth, t with
  | d + 1, .object ms => (Term.membersToJson? d ms).map Object.ofMembers
  | _, _ => none

def nullable (read : Reader α) : Reader (Option α) := fun depth t =>
  match t with
  | .null => some none
  | t => (read depth t).map some

def list (read : Reader α) : Reader (List α) := fun depth t =>
  match depth, t with
  | d + 1, .array items => items.mapM (read d)
  | _, _ => none

/-- One of several names, written as a string, or as the only member of an object with the value
`null`. -/
def name (ofName? : String → Option α) : Reader α := fun depth t =>
  match depth, t with
  | _, .string s => s.bind ofName?
  | _ + 1, .object [(key, .null)] => key.bind ofName?
  | _, _ => none

/-! ### Records -/

/-- The index of the field that a member name denotes; a field lists all its names. -/
def fieldIndex? (fields : List (List String)) (key : String) : Option Nat :=
  fields.findIdx? (·.contains key)

def layMembers (fields : List (List String)) :
    Slots → List (Option String × Term) → Option Slots
  | slots, [] => some slots
  | slots, (key, t) :: ms => do
    match fieldIndex? fields (← key) with
    | none => layMembers fields slots ms
    | some i =>
      match slots[i]? with
      | some none => layMembers fields (slots.set i (some t)) ms
      | _ => none

/-- Lays a record out; each field is given with all its names. -/
def slots? (fields : List (List String)) : Term → Option Slots
  | .object ms => layMembers fields (List.replicate fields.length none) ms
  | .array items =>
    if items.length ≤ fields.length then
      some (items.map some ++ List.replicate (fields.length - items.length) none)
    else none
  | _ => none

/-- Reads a record from its slots. -/
def record (fields : List (List String)) (read : (depth : Nat) → Slots → Option α) : Reader α :=
  fun depth t =>
    match depth with
    | 0 => none
    | d + 1 => (slots? fields t).bind (read d)

end Reader

namespace Slots

def term? (slots : Slots) (i : Nat) : Option Term := slots[i]?.join

def required (slots : Slots) (i depth : Nat) (read : Reader α) : Option α :=
  (slots.term? i).bind (read depth)

def defaulted (slots : Slots) (i depth : Nat) (read : Reader α) (default : α) : Option α :=
  match slots.term? i with
  | none => some default
  | some t => read depth t

/-- A field that may be missing or `null`. -/
def optional (slots : Slots) (i depth : Nat) (read : Reader α) : Option (Option α) :=
  slots.defaulted i depth (.nullable read) none

end Slots

def Reader.ofText? (read : Reader α) (text : String) : Option α :=
  (Term.parse? text.toList).bind (read depthLimit)

end AgentFlow.Json
