import AgentFlow.Json.Basic

/-!
JSON text: the compact form without blanks, and the pretty form indented by two blanks a level.
Both write members in the order in which the value holds them.
-/

namespace AgentFlow.Json

def hexDigit (n : Nat) : Char := Nat.digitChar n

def escape (c : Char) : List Char :=
  if c = '"' then ['\\', '"']
  else if c = '\\' then ['\\', '\\']
  else if 0x20 ≤ c.toNat then [c]
  else match c.toNat with
    | 8 => ['\\', 'b']
    | 9 => ['\\', 't']
    | 10 => ['\\', 'n']
    | 12 => ['\\', 'f']
    | 13 => ['\\', 'r']
    | n => ['\\', 'u', '0', '0', hexDigit (n / 16), hexDigit (n % 16)]

def quote (s : String) : List Char := '"' :: s.toList.flatMap escape ++ ['"']

def Number.chars : Number → List Char
  | .int n => (if n < 0 then ['-'] else []) ++ Decimal.digitsOf n.natAbs
  | .real x => x.numeral

mutual

def compact : Json → List Char
  | .null => ['n', 'u', 'l', 'l']
  | .bool true => ['t', 'r', 'u', 'e']
  | .bool false => ['f', 'a', 'l', 's', 'e']
  | .number n => n.chars
  | .string s => quote s
  | .array items => '[' :: compactItems items ++ [']']
  | .object ms => '{' :: compactMembers ms ++ ['}']

def compactItems : List Json → List Char
  | [] => []
  | [v] => compact v
  | v :: w :: rest => compact v ++ ',' :: compactItems (w :: rest)

def compactMembers : List (String × Json) → List Char
  | [] => []
  | [(k, v)] => quote k ++ ':' :: compact v
  | (k, v) :: m :: rest => quote k ++ ':' :: compact v ++ ',' :: compactMembers (m :: rest)

end

/-- The end of a line and the indentation of the next one. -/
def lineBreak (level : Nat) : List Char := '\n' :: List.replicate (2 * level) ' '

mutual

/-- The pretty text of a value that stands `level` containers deep. -/
def prettyAt (level : Nat) : Json → List Char
  | .array [] => ['[', ']']
  | .array (v :: items) => '[' :: prettyItems (level + 1) (v :: items) ++ lineBreak level ++ [']']
  | .object [] => ['{', '}']
  | .object (m :: ms) => '{' :: prettyMembers (level + 1) (m :: ms) ++ lineBreak level ++ ['}']
  | .null => compact .null
  | .bool b => compact (.bool b)
  | .number n => compact (.number n)
  | .string s => compact (.string s)

def prettyItems (level : Nat) : List Json → List Char
  | [] => []
  | [v] => lineBreak level ++ prettyAt level v
  | v :: w :: rest => lineBreak level ++ prettyAt level v ++ ',' :: prettyItems level (w :: rest)

def prettyMembers (level : Nat) : List (String × Json) → List Char
  | [] => []
  | [(k, v)] => lineBreak level ++ quote k ++ ':' :: ' ' :: prettyAt level v
  | (k, v) :: m :: rest =>
    lineBreak level ++ quote k ++ ':' :: ' ' :: prettyAt level v ++
      ',' :: prettyMembers level (m :: rest)

end

/-- The value on one line. -/
def toText (v : Json) : String := String.ofList v.compact

/-- The value over several lines. -/
def toPrettyText (v : Json) : String := String.ofList (v.prettyAt 0)

end AgentFlow.Json
