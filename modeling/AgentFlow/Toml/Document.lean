import AgentFlow.Toml.Scalar

/-!
TOML documents.

A document is a list of lines: headers, and keys with values. Every call of the readers below takes
at least one character away or comes after one that did, so that twice the length of the text is
enough fuel.
-/

namespace AgentFlow.Toml

/-- The depth to which arrays and inline tables may nest, and the length of dotted keys. -/
def nestingLimit : Nat := 80

/-! ### Blanks and comments -/

def skipBlanks (cs : List Char) : List Char := cs.dropWhile isBlank

/-- What follows a comment, if there is one. -/
def skipComment : List Char → List Char
  | '#' :: cs => cs.dropWhile isPlain
  | cs => cs

/-- What follows the end of a line, before which only blanks and a comment may stand. -/
def lineEnd? (cs : List Char) : Option (List Char) :=
  match skipComment (skipBlanks cs) with
  | [] => some []
  | cs => newline? cs

def skipLines : (fuel : Nat) → List Char → List Char
  | 0, cs => cs
  | fuel + 1, cs =>
    let rest := skipComment (skipBlanks cs)
    match newline? rest with
    | some rest => skipLines fuel rest
    | none => rest

/-! ### Keys -/

def isBareChar (c : Char) : Bool := c.isAlphanum || c = '_' || c = '-'

def name? (cs : List Char) : Option (String × List Char) :=
  match cs with
  | '"' :: rest => (basic 0 [] rest).map fun (read, rest) => (String.ofList read.reverse, rest)
  | '\'' :: rest => (literal [] rest).map fun (read, rest) => (String.ofList read.reverse, rest)
  | _ =>
    let name := cs.takeWhile isBareChar
    if name.isEmpty then none else some (String.ofList name, cs.dropWhile isBareChar)

/-- Names joined by points, with blanks around each; at most `limit` of them. -/
def names? : (limit : Nat) → List Char → Option (List String × List Char)
  | 0, _ => none
  | limit + 1, cs => do
    let (name, rest) ← name? (skipBlanks cs)
    match skipBlanks rest with
    | '.' :: rest => do
      let (more, rest) ← names? limit rest
      return (name :: more, rest)
    | rest => return ([name], rest)

/-- A key, as the names before the last one and the last one. -/
def key? (cs : List Char) : Option (List String × String × List Char) := do
  let (names, rest) ← names? (nestingLimit - 1) cs
  return (names.dropLast, ← names.getLast?, rest)

/-! ### Values -/

mutual

def value? : (fuel depth : Nat) → List Char → Option (Toml × List Char)
  | 0, _, _ => none
  | fuel + 1, depth, cs =>
    match cs with
    | '"' :: _ | '\'' :: _ => (string? cs).map fun (s, rest) => (.string s, rest)
    | '[' :: rest =>
      if depth + 1 < nestingLimit then
        (items? fuel (depth + 1) [] rest).map fun (items, rest) => (.array items, rest)
      else none
    | '{' :: rest =>
      if depth + 1 < nestingLimit then
        (pairs? fuel (depth + 1) [] rest).map fun (es, rest) => (.table .inline es, rest)
      else none
    | _ => word? cs

/-- The items of an array up to its closing bracket; those read so far are held in reverse. -/
def items? : (fuel depth : Nat) → List Toml → List Char → Option (List Toml × List Char)
  | 0, _, _, _ => none
  | fuel + 1, depth, read, cs =>
    match skipLines cs.length cs with
    | ']' :: rest => some (read.reverse, rest)
    | cs => do
      let (v, rest) ← value? fuel depth cs
      match skipLines rest.length rest with
      | ',' :: rest => items? fuel depth (v :: read) rest
      | ']' :: rest => some ((v :: read).reverse, rest)
      | _ => none

/-- The pairs of an inline table up to its closing brace, on one line. -/
def pairs? : (fuel depth : Nat) → Entries → List Char → Option (Entries × List Char)
  | 0, _, _, _ => none
  | fuel + 1, depth, es, cs =>
    match skipBlanks cs with
    | '}' :: rest => if es.isEmpty then some (es, rest) else none
    | cs => do
      let (path, key, rest) ← key? cs
      let rest ← after? '=' rest
      let (v, rest) ← value? fuel depth (skipBlanks rest)
      let es ← addValue path key v .defined es
      match skipBlanks rest with
      | ',' :: rest => pairs? fuel depth es rest
      | '}' :: rest => some (es, rest)
      | _ => none

end

/-! ### Lines -/

/-- The table that is being filled, with all others. -/
structure State where
  root : Entries
  header : List String

def line? (s : State) (cs : List Char) : Option (State × List Char) :=
  match cs with
  | '[' :: '[' :: rest => do
    let (path, key, rest) ← key? rest
    let rest ← after? ']' (← after? ']' rest)
    return (⟨← openTables path key s.root, path ++ [key]⟩, ← lineEnd? rest)
  | '[' :: rest => do
    let (path, key, rest) ← key? rest
    let rest ← after? ']' rest
    return (⟨← openTable path key s.root, path ++ [key]⟩, ← lineEnd? rest)
  | _ => do
    let (path, key, rest) ← key? cs
    let rest ← after? '=' rest
    let (v, rest) ← value? (2 * rest.length + 2) 0 (skipBlanks rest)
    return ({ s with root := ← addUnder s.header path key v s.root }, ← lineEnd? rest)

def lines? : (fuel : Nat) → State → List Char → Option State
  | 0, _, _ => none
  | fuel + 1, s, cs =>
    match skipLines cs.length cs with
    | [] => some s
    | cs => do
      let (s, rest) ← line? s cs
      lines? fuel s rest

/-- Reads a document; a byte order mark may stand at its front. -/
def parse? (text : String) : Option Entries :=
  let cs := match text.toList with
    | '\uFEFF' :: cs => cs
    | cs => cs
  (lines? (cs.length + 1) ⟨[], []⟩ cs).map State.root

end AgentFlow.Toml
