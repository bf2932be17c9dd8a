import AgentFlow.Decimal.Literal

/-!
TOML values, and the rules by which a document fills its tables.

A table remembers how it came to be, because that decides who may add to it: a header may complete
a table that only other headers have implied, a dotted key may add to a table that dotted keys have
made, and nothing may add to an inline table.
-/

namespace AgentFlow.Toml

/-- How a table came to be. -/
inductive Origin where
  /-- The document itself, or a header of its own. -/
  | defined
  /-- On the way to another table, in a header. -/
  | implied
  /-- On the way to a value, in a dotted key. -/
  | dotted
  /-- Between braces. -/
  | inline
deriving DecidableEq, Repr

end AgentFlow.Toml

namespace AgentFlow

inductive Toml where
  | string (s : String)
  | integer (n : Int)
  | float (x : Binary64)
  | boolean (b : Bool)
  | datetime (text : String)
  | array (items : List Toml)
  | table (origin : Toml.Origin) (entries : List (String × Toml))
  /-- Tables under the same header between double brackets, the last one first. -/
  | tables (items : List (List (String × Toml)))
deriving Repr, Inhabited

namespace Toml

abbrev Entries := List (String × Toml)

/-- Changes the entry of a name, or adds one at the end. -/
def putEntry (key : String) (v : Toml) : Entries → Entries
  | [] => [(key, v)]
  | (k, w) :: rest => if k = key then (k, v) :: rest else (k, w) :: putEntry key v rest

/-- Goes down a path of names from a table, and changes the table at its end. Tables that are
missing on the way come into being, of the origin `made`. -/
def descend (made : Origin) (change : Origin → Entries → Option Entries) :
    List String → Origin → Entries → Option Entries
  | [], origin, es => change origin es
  | key :: path, _, es => do
    match es.lookup key with
    | none => return putEntry key (.table made (← descend made change path made [])) es
    | some (.table origin sub) =>
      guard (origin ≠ .inline && !(made = .dotted && origin = .defined))
      return putEntry key (.table origin (← descend made change path origin sub)) es
    | some (.tables (last :: others)) =>
      return putEntry key (.tables ((← descend made change path .defined last) :: others)) es
    | some _ => none

/-- Adds a value under a dotted key. Its last name must be new, in a table that dotted keys have made
unless the key has one name only. -/
def addValue (path : List String) (key : String) (v : Toml) : Origin → Entries → Option Entries :=
  descend .dotted (fun origin es => do
    guard ((origin == .dotted) == !path.isEmpty && (es.lookup key).isNone)
    return es ++ [(key, v)]) path

/-- Opens the table of a header. -/
def openTable (path : List String) (key : String) (root : Entries) : Option Entries :=
  descend .implied (fun _ es =>
    match es.lookup key with
    | none => some (es ++ [(key, .table .defined [])])
    | some (.table .implied sub) => some (putEntry key (.table .defined sub) es)
    | some _ => none) path .defined root

/-- Opens one more table of a header between double brackets. -/
def openTables (path : List String) (key : String) (root : Entries) : Option Entries :=
  descend .implied (fun _ es =>
    match es.lookup key with
    | none => some (es ++ [(key, .tables [[]])])
    | some (.tables items) => some (putEntry key (.tables ([] :: items)) es)
    | some _ => none) path .defined root

/-- Adds a value to the table of the current header. -/
def addUnder (header path : List String) (key : String) (v : Toml) (root : Entries) :
    Option Entries :=
  descend .implied (addValue path key v) header .defined root

end Toml

end AgentFlow
