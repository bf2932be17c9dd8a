import AgentFlow.Backend.Resource
import AgentFlow.Decimal.Literal

/-!
The words of a command line.

A level of the command line has options; a level with subcommands ends at the first word that is no
option, and the last level collects such words in its slots. The value of an option is joined to it,
or is the next word, which then may not look like an option. An option may be given once on a level,
and after `--` every word stands for itself.

What is wrong is told at the first word that shows it, with one exception: a value that is a word of
its own is looked at only with the next word of its level, and so after all that a subcommand says.
-/

namespace AgentFlow.CommandLine

/-! ### Values -/

inductive Shape where
  | text
  /-- A path, which may not be empty. -/
  | path
  | natural
  | number
  | resourceKind
deriving DecidableEq, Repr

/-- A natural number of sixty-four bits, perhaps with a plus sign. -/
def natural? (s : String) : Option Nat :=
  let ds := match s.toList with
    | '+' :: ds => ds
    | ds => ds
  if !ds.isEmpty && ds.all Decimal.isDigit && Decimal.natOf ds < pow2 64 then some (Decimal.natOf ds)
  else none

def number? (s : String) : Option Binary64 := Binary64.parse? s.toList

def Shape.accepts : Shape → String → Bool
  | .text, _ => true
  | .path, s => !s.isEmpty
  | .natural, s => (natural? s).isSome
  | .number, s => (number? s).isSome
  | .resourceKind, s => (ResourceKind.ofName? s).isSome

/-- A place for a word, with the name it has in the help. -/
structure Slot where
  name : String
  shape : Shape
deriving DecidableEq, Repr

structure Opt where
  long : String
  short : Option Char
  /-- The value the option takes, if it takes one. -/
  value : Option Slot
  isRequired : Bool
  about : String
deriving DecidableEq, Repr

/-- What may stand on a level. -/
structure Grammar where
  options : List Opt
  /-- The places of the words; none on a level with subcommands. -/
  slots : Option (List Slot)
  isTop : Bool
deriving DecidableEq, Repr

/-! ### Levels -/

/-- What the words of a level say. -/
structure Level where
  /-- The options given, by their long names, with their values. -/
  given : List (String × Option String)
  /-- The words that are no options; on a level with subcommands, the rest of the line. -/
  words : List String
  /-- An option with the word that is to be its value. -/
  held : Option (Opt × Slot × String)
deriving DecidableEq, Repr

inductive Stop where
  | usage
  /-- Help is asked for, on the command under these words. -/
  | help (path : List String)
  | version
deriving DecidableEq, Repr

/-- The same end, seen from above a subcommand. -/
def Stop.under (word : String) : Stop → Stop
  | .help path => .help (word :: path)
  | stop => stop

namespace Level

def empty : Level := ⟨[], [], none⟩

def value? (l : Level) (long : String) : Option String := (l.given.lookup long).join

def has (l : Level) (long : String) : Bool := (l.given.lookup long).isSome

/-- Notes an option that stands alone; a second time is refused. -/
def noteFlag (l : Level) (o : Opt) : Except Stop Level :=
  if l.has o.long then .error .usage else .ok { l with given := (o.long, none) :: l.given }

/-- Notes an option with its value; a second time is refused. -/
def noteValue (l : Level) (o : Opt) (slot : Slot) (value : String) : Except Stop Level :=
  if l.has o.long || !slot.shape.accepts value then .error .usage
  else .ok { l with given := (o.long, some value) :: l.given }

/-- Notes the option that is held. -/
def settle (l : Level) : Except Stop Level :=
  match l.held with
  | none => .ok l
  | some (o, slot, value) => { l with held := none }.noteValue o slot value

def push (slots : List Slot) (l : Level) (word : String) : Except Stop Level :=
  match slots[l.words.length]? with
  | some slot =>
    if slot.shape.accepts word then .ok { l with words := l.words ++ [word] } else .error .usage
  | none => .error .usage

end Level

/-! ### Reading -/

def looksLikeOption (word : String) : Bool := word.startsWith "-" && word ≠ "-"

/-- What one word of options asks for: the level with what it notes, and an option that takes the
next word as its value. -/
abbrev Reading := Except Stop (Level × Option (Opt × Slot))

def readLong (g : Grammar) (l : Level) (word : List Char) : Reading :=
  let name := String.ofList (word.takeWhile (· ≠ '='))
  let joined := match word.dropWhile (· ≠ '=') with
    | [] => none
    | _ :: value => some (String.ofList value)
  match g.options.find? (·.long = name) with
  | some o =>
    match o.value, joined with
    | some slot, some value => (l.noteValue o slot value).map (·, none)
    | some slot, none => .ok (l, some (o, slot))
    | none, some _ => .error .usage
    | none, none => (l.noteFlag o).map (·, none)
  | none =>
    if joined.isSome then .error .usage
    else if name = "help" then .error (.help [])
    else if name = "version" && g.isTop then .error .version
    else .error .usage

def readShort (g : Grammar) (l : Level) : List Char → Reading
  | [] => .ok (l, none)
  | c :: cs =>
    match g.options.find? (·.short = some c) with
    | some o =>
      match o.value, cs with
      | none, cs => do readShort g (← l.noteFlag o) cs
      | some slot, [] => .ok (l, some (o, slot))
      | some slot, '=' :: value => (l.noteValue o slot (String.ofList value)).map (·, none)
      | some slot, value => (l.noteValue o slot (String.ofList value)).map (·, none)
    | none =>
      if c = 'h' then .error (.help [])
      else if c = 'V' && g.isTop then .error .version
      else .error .usage

def readOption (g : Grammar) (l : Level) (word : String) : Reading :=
  match word.toList with
  | '-' :: '-' :: cs => readLong g l cs
  | _ :: cs => readShort g l cs
  | [] => .error .usage

/-- Reads the words of a level, while an option may be waiting for its value. -/
def readLevel (g : Grammar) (l : Level) (waiting : Option (Opt × Slot)) :
    List String → Except Stop Level
  | [] => if waiting.isSome then .error .usage else l.settle
  | word :: rest =>
    match waiting with
    | some (o, slot) =>
      if looksLikeOption word then .error .usage
      else readLevel g { l with held := some (o, slot, word) } none rest
    | none =>
      if word = "--" then
        match g.slots with
        | some slots => do rest.foldlM (Level.push slots) (← l.settle)
        | none => .error .usage
      else if looksLikeOption word then do
        let (l, waiting) ← readOption g (← l.settle) word
        readLevel g l waiting rest
      else
        match g.slots with
        | some slots => do readLevel g (← (← l.settle).push slots word) none rest
        | none => .ok { l with words := word :: rest }

end AgentFlow.CommandLine
