import AgentFlow.Json.Numeral

/-!
The tokens of JSON text.

`lex` walks the text once. Letters, digits, points and signs are collected until another character
ends the word, which is then classified; the characters between quotation marks are collected with
their escapes, which are resolved at the closing mark.
-/

namespace AgentFlow.Json

inductive Token where
  | openArray
  | closeArray
  | openObject
  | closeObject
  | comma
  | colon
  | null
  | bool (b : Bool)
  | number (n : Numeral)
  /-- The text is absent when an escape leaves one half of a surrogate pair alone. -/
  | string (text : Option String)
deriving DecidableEq, Repr

namespace Token

/-! ### Words -/

def isWordChar (c : Char) : Bool :=
  Decimal.isDigit c || c.isLower || c = 'E' || c = '.' || c = '-' || c = '+'

def ofWord? (cs : List Char) : Option Token :=
  if cs = "null".toList then some .null
  else if cs = "true".toList then some (.bool true)
  else if cs = "false".toList then some (.bool false)
  else (Numeral.ofChars? cs).map .number

/-! ### Strings -/

def hexValue? (c : Char) : Option Nat :=
  if '0' ≤ c ∧ c ≤ '9' then some (c.toNat - 48)
  else if 'a' ≤ c ∧ c ≤ 'f' then some (c.toNat - 87)
  else if 'A' ≤ c ∧ c ≤ 'F' then some (c.toNat - 55)
  else none

def hex4? (a b c d : Char) : Option Nat := do
  return 4096 * (← hexValue? a) + 256 * (← hexValue? b) + 16 * (← hexValue? c) + (← hexValue? d)

def escaped? : Char → Option Char
  | '"' => some '"'
  | '\\' => some '\\'
  | '/' => some '/'
  | 'b' => some '\x08'
  | 'f' => some '\x0c'
  | 'n' => some '\n'
  | 'r' => some '\r'
  | 't' => some '\t'
  | _ => none

/-- The code points and surrogates that the characters between quotation marks stand for. A control
character has to be escaped. -/
def codes? : List Char → Option (List Nat)
  | [] => some []
  | '\\' :: 'u' :: a :: b :: c :: d :: cs => do return (← hex4? a b c d) :: (← codes? cs)
  | '\\' :: c :: cs => do return (← escaped? c).toNat :: (← codes? cs)
  | c :: cs => if c = '\\' ∨ c.toNat < 0x20 then none else (codes? cs).map (c.toNat :: ·)

def isHighSurrogate (n : Nat) : Bool := 0xD800 ≤ n && n ≤ 0xDBFF

def isLowSurrogate (n : Nat) : Bool := 0xDC00 ≤ n && n ≤ 0xDFFF

/-- Joins surrogate pairs; one without its partner stands for no character. -/
def join? : List Nat → Option (List Char)
  | [] => some []
  | high :: low :: rest =>
    if isHighSurrogate high then
      if isLowSurrogate low then
        (join? rest).map (Char.ofNat (0x10000 + (high - 0xD800) * 1024 + (low - 0xDC00)) :: ·)
      else none
    else if isLowSurrogate high then none
    else (join? (low :: rest)).map (Char.ofNat high :: ·)
  | [n] => if isHighSurrogate n || isLowSurrogate n then none else some [Char.ofNat n]

/-- The token of the characters between two quotation marks. -/
def ofQuoted? (cs : List Char) : Option Token :=
  (codes? cs).map fun ns => .string ((join? ns).map String.ofList)

/-! ### The walk -/

/-- Where the walk stands; what is being collected is held in reverse. -/
inductive Mode where
  | gap
  | word (read : List Char)
  | quoted (read : List Char)
  /-- After a backslash inside a string. -/
  | escape (read : List Char)
deriving DecidableEq, Repr

def isSpace (c : Char) : Bool := c = ' ' || c = '\n' || c = '\r' || c = '\t'

def punctuation? : Char → Option Token
  | '[' => some .openArray
  | ']' => some .closeArray
  | '{' => some .openObject
  | '}' => some .closeObject
  | ',' => some .comma
  | ':' => some .colon
  | _ => none

/-- What a character does between tokens: the token it is, and where the walk goes on. -/
def enter? (done : List Token) (c : Char) : Option (Mode × List Token) :=
  if isSpace c then some (.gap, done)
  else if c = '"' then some (.quoted [], done)
  else if isWordChar c then some (.word [c], done)
  else (punctuation? c).map fun t => (.gap, t :: done)

def step? : Mode → List Token → Char → Option (Mode × List Token)
  | .gap, done, c => enter? done c
  | .word read, done, c =>
    if isWordChar c then some (.word (c :: read), done)
    else (ofWord? read.reverse).bind fun t => enter? (t :: done) c
  | .quoted read, done, c =>
    if c = '"' then (ofQuoted? read.reverse).map fun t => (.gap, t :: done)
    else if c = '\\' then some (.escape (c :: read), done)
    else some (.quoted (c :: read), done)
  | .escape read, done, c => some (.quoted (c :: read), done)

/-- Walks the text; the tokens found so far are held in reverse. -/
def lex? : Mode → List Token → List Char → Option (List Token)
  | .gap, done, [] => some done.reverse
  | .word read, done, [] => (ofWord? read.reverse).map fun t => (t :: done).reverse
  | .quoted _, _, [] => none
  | .escape _, _, [] => none
  | mode, done, c :: cs =>
    match step? mode done c with
    | none => none
    | some (next, done) => lex? next done cs

end Token

def tokens? (cs : List Char) : Option (List Token) := Token.lex? .gap [] cs

end AgentFlow.Json
