import AgentFlow.Json.Token
import AgentFlow.Toml.Value

/-!
Strings, numbers and dates of TOML.

A string reader is given the characters after the opening mark and returns the content and what
follows the closing mark. Numbers and dates are classified as whole words.
-/

namespace AgentFlow.Toml

open Decimal (isDigit digitValue natOf splitSign)

/-! ### Strings -/

/-- Characters that may stand in a comment and in most strings: the tab, and all that is no control
character. -/
def isPlain (c : Char) : Bool := c = '\t' || (0x20 ≤ c.toNat && c.toNat ≠ 0x7F)

def scalar? (n : Nat) : Option Char :=
  if n < 0xD800 || (0xE000 ≤ n && n ≤ 0x10FFFF) then some (Char.ofNat n) else none

def hex? (cs : List Char) : Option Nat :=
  cs.foldlM (fun n c => (Json.Token.hexValue? c).map (16 * n + ·)) 0

/-- The character that a one-letter escape stands for. -/
def escaped? : Char → Option Char
  | 'b' => some '\x08'
  | 't' => some '\t'
  | 'n' => some '\n'
  | 'f' => some '\x0c'
  | 'r' => some '\r'
  | '"' => some '"'
  | '\\' => some '\\'
  | _ => none

def escape? : List Char → Option (Char × Nat)
  | 'u' :: cs => do
    let digits := cs.take 4
    guard (digits.length = 4)
    return (← scalar? (← hex? digits), 5)
  | 'U' :: cs => do
    let digits := cs.take 8
    guard (digits.length = 8)
    return (← scalar? (← hex? digits), 9)
  | c :: _ => (escaped? c).map (·, 1)
  | [] => none

/-- What a string reader found: the content in reverse, and what follows. -/
abbrev Found := Option (List Char × List Char)

/-- A string between quotation marks, on one line. The first argument counts characters of an escape
that are still to be passed over. -/
def basic (skip : Nat) (read : List Char) : List Char → Found
  | [] => none
  | c :: cs =>
    match skip with
    | k + 1 => basic k read cs
    | 0 =>
      if c = '"' then some (read, cs)
      else if c = '\\' then
        match escape? cs with
        | some (e, k) => basic k (e :: read) cs
        | none => none
      else if isPlain c then basic 0 (c :: read) cs
      else none

/-- A string between apostrophes, on one line. -/
def literal (read : List Char) : List Char → Found
  | [] => none
  | c :: cs =>
    if c = '\'' then some (read, cs)
    else if isPlain c then literal (c :: read) cs
    else none

def newline? : List Char → Option (List Char)
  | '\n' :: cs => some cs
  | '\r' :: '\n' :: cs => some cs
  | _ => none

def isBlank (c : Char) : Bool := c = ' ' || c = '\t'

/-- Whether only blanks stand before the end of the line. -/
def lineEnds (cs : List Char) : Bool := (newline? (cs.dropWhile isBlank)).isSome

/-- The end of a string of several lines: three marks close it, and one or two before them belong
to the content. -/
def close (mark : Char) (read : List Char) : List Char → Option (List Char × List Char)
  | a :: b :: c :: d :: e :: cs =>
    if a = mark ∧ b = mark ∧ c = mark then
      if d = mark then
        if e = mark then some (mark :: mark :: read, cs) else some (mark :: read, e :: cs)
      else some (read, d :: e :: cs)
    else none
  | [a, b, c, d] =>
    if a = mark ∧ b = mark ∧ c = mark then
      if d = mark then some (mark :: read, []) else some (read, [d])
    else none
  | [a, b, c] => if a = mark ∧ b = mark ∧ c = mark then some (read, []) else none
  | _ => none

/-- A string between triple quotation marks. After a backslash at the end of a line, blanks and line
ends are left out up to the next character. -/
def basicLines (skip : Nat) (joining : Bool) (read : List Char) : List Char → Found
  | [] => none
  | c :: cs =>
    match skip with
    | k + 1 => basicLines k joining read cs
    | 0 =>
      match close '"' read (c :: cs) with
      | some found => some found
      | none =>
        if joining && isBlank c then basicLines 0 true read cs
        else if c = '\n' || (c = '\r' && cs.head? = some '\n') then
          let read := if joining || c = '\r' then read else '\n' :: read
          basicLines 0 joining read cs
        else if c = '\\' then
          if lineEnds cs then basicLines 0 true read cs
          else match escape? cs with
            | some (e, k) => basicLines k false (e :: read) cs
            | none => none
        else if isPlain c then basicLines 0 false (c :: read) cs
        else none

/-- A string between triple apostrophes. -/
def literalLines (read : List Char) : List Char → Found
  | [] => none
  | c :: cs =>
    match close '\'' read (c :: cs) with
    | some found => some found
    | none =>
      if c = '\n' then literalLines ('\n' :: read) cs
      else if c = '\r' && cs.head? = some '\n' then literalLines read cs
      else if isPlain c then literalLines (c :: read) cs
      else none

/-- Reads a string with its opening mark. The line end after a triple mark is no content. -/
def string? (cs : List Char) : Option (String × List Char) :=
  let found := match cs with
    | '"' :: '"' :: '"' :: rest => basicLines 0 false [] ((newline? rest).getD rest)
    | '\'' :: '\'' :: '\'' :: rest => literalLines [] ((newline? rest).getD rest)
    | '"' :: rest => basic 0 [] rest
    | '\'' :: rest => literal [] rest
    | _ => none
  found.map fun (read, rest) => (String.ofList read.reverse, rest)

/-! ### Numbers -/

/-- The digits of a row in which single underscores may stand between digits. -/
def separated? (isDigit : Char → Bool) : List Char → Option (List Char)
  | [] => none
  | [c] => if isDigit c then some [c] else none
  | c :: '_' :: cs => if isDigit c then (separated? isDigit cs).map (c :: ·) else none
  | c :: cs => if isDigit c then (separated? isDigit cs).map (c :: ·) else none

/-- The digits of a decimal whole number, which starts with zero only if it is zero. -/
def whole? (cs : List Char) : Option (List Char) := do
  let ds ← separated? isDigit cs
  guard (ds.head? ≠ some '0' || ds.length = 1)
  return ds

/-- A number of another base, after its mark. -/
def based? (base : Nat) (cs : List Char) : Option Nat := do
  let value? (c : Char) := (Json.Token.hexValue? c).filter (· < base)
  let ds ← separated? (fun c => (value? c).isSome) cs
  return ds.foldl (fun n c => base * n + (value? c).getD 0) 0

def integer? (cs : List Char) : Option Int := do
  let n : Int ← match cs with
    | '0' :: 'x' :: ds => (based? 16 ds).map (↑·)
    | '0' :: 'o' :: ds => (based? 8 ds).map (↑·)
    | '0' :: 'b' :: ds => (based? 2 ds).map (↑·)
    | _ => do
      let (negative, ds) := splitSign cs
      let n : Int := natOf (← whole? ds)
      return if negative then -n else n
  guard (-(pow2 63 : Int) ≤ n && n < pow2 63)
  return n

/-- The exponent after its mark; it may start with zeros. -/
def exponent? (cs : List Char) : Option Int := do
  let (negative, ds) := splitSign cs
  let n : Int := natOf (← separated? isDigit ds)
  return if negative then -n else n

/-- A number with a fraction or an exponent, or a special one. Positive overflow is refused. -/
def float? (cs : List Char) : Option Binary64 := do
  let (negative, rest) := splitSign cs
  if rest = "inf".toList then return .infinity negative
  if rest = "nan".toList then return .nan negative
  let isMark (c : Char) : Bool := c = 'e' || c = 'E'
  let mantissa := rest.takeWhile fun c => !isMark c
  let power ← match rest.dropWhile fun c => !isMark c with
    | [] => some none
    | _ :: ds => (exponent? ds).map some
  let whole ← whole? (mantissa.takeWhile (· ≠ '.'))
  let fraction ← match mantissa.dropWhile (· ≠ '.') with
    | [] => some none
    | _ :: ds => (separated? isDigit ds).map some
  guard (power.isSome || fraction.isSome)
  let places := fraction.getD []
  let x := Binary64.ofDecimal negative (natOf (whole ++ places)) (power.getD 0 - places.length)
  guard (negative || !x.isInfinite)
  return x

/-! ### Dates -/

/-- A number of a fixed count of digits, between two bounds. -/
def field? (count lo hi : Nat) (cs : List Char) : Option (Nat × List Char) := do
  let ds := cs.take count
  guard (ds.length = count && ds.all isDigit && lo ≤ natOf ds && natOf ds ≤ hi)
  return (natOf ds, cs.drop count)

def after? (c : Char) : List Char → Option (List Char)
  | [] => none
  | d :: cs => if c = d then some cs else none

def daysIn (year month : Nat) : Nat :=
  if month = 2 then if year % 4 = 0 && (year % 100 ≠ 0 || year % 400 = 0) then 29 else 28
  else if month = 4 || month = 6 || month = 9 || month = 11 then 30
  else 31

def date? (cs : List Char) : Option (List Char) := do
  let (year, cs) ← field? 4 0 9999 cs
  let (month, cs) ← field? 2 1 12 (← after? '-' cs)
  let (_, cs) ← field? 2 1 (daysIn year month) (← after? '-' cs)
  return cs

def time? (cs : List Char) : Option (List Char) := do
  let (_, cs) ← field? 2 0 23 cs
  let (_, cs) ← field? 2 0 59 (← after? ':' cs)
  let (_, cs) ← field? 2 0 60 (← after? ':' cs)
  match cs with
  | '.' :: ds => do
    guard ((ds.head?.map isDigit).getD false)
    return ds.dropWhile isDigit
  | _ => return cs

def isOffset : List Char → Bool
  | ['Z'] | ['z'] => true
  | c :: cs =>
    (c = '+' || c = '-') && ((do
      let (_, cs) ← field? 2 0 23 cs
      let (_, cs) ← field? 2 0 59 (← after? ':' cs)
      guard cs.isEmpty : Option Unit)).isSome
  | [] => false

def isDatetime (cs : List Char) : Bool :=
  match date? cs with
  | some [] => true
  | some (c :: rest) =>
    (c = 'T' || c = 't' || c = ' ') && match time? rest with
      | some [] => true
      | some offset => isOffset offset
      | none => false
  | none => time? cs = some []

def isWordChar (c : Char) : Bool :=
  c.isAlphanum || c = '+' || c = '-' || c = '.' || c = ':' || c = '_'

def ofWord? (cs : List Char) : Option Toml :=
  if cs = "true".toList then some (.boolean true)
  else if cs = "false".toList then some (.boolean false)
  else if isDatetime cs then some (.datetime (String.ofList cs))
  else match integer? cs with
    | some n => some (.integer n)
    | none => (float? cs).map .float

/-- Reads a word. A blank may stand between a date and a time. -/
def word? (cs : List Char) : Option (Toml × List Char) :=
  let first := cs.takeWhile isWordChar
  let rest := cs.dropWhile isWordChar
  let joined := match rest with
    | ' ' :: more =>
      if date? first = some [] && (more.head?.map isDigit).getD false then
        some (first ++ ' ' :: more.takeWhile isWordChar, more.dropWhile isWordChar)
      else none
    | _ => none
  let (word, rest) := joined.getD (first, rest)
  (ofWord? word).map (·, rest)

end AgentFlow.Toml
