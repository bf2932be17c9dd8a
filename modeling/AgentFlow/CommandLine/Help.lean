import AgentFlow.CommandLine.Command
import AgentFlow.Text.Basic

/-!
What the command line says about itself.

A page of help says what a command is for, how it is spelled, and what may stand after it, in tables
whose second column is aligned.
-/

namespace AgentFlow.CommandLine

def programName : String := "flowstudio-cli"

/-- The version of the whole toolkit. -/
def versionLine : String := "flowstudio 0.1.0"

def programAbout : String :=
  "Authoring toolkit for agent workflow graphs: typed graph model, upstream variable resolution, " ++
    "flow JSON codec and a client for the workflow backend"

/-- A line of a table: what is written, and what it is for. -/
structure Row where
  written : String
  about : String
deriving DecidableEq, Repr

structure Page where
  about : String
  /-- The words of the line of usage. -/
  usage : List String
  /-- The tables, by their titles; a table without rows is left out. -/
  tables : List (String × List Row)
deriving DecidableEq, Repr

def Slot.written (s : Slot) : String := "<" ++ s.name ++ ">"

namespace Opt

/-- The option by its long name, with its value. -/
def written (o : Opt) : String :=
  "--" ++ o.long ++ match o.value with
    | some slot => " " ++ slot.written
    | none => ""

def row (o : Opt) : Row where
  written := (match o.short with
    | some c => "-" ++ c.toString ++ ", "
    | none => "    ") ++ o.written
  about := o.about

/-- What sorts options of one place: the letter, or else the long name. -/
def sortKey (o : Opt) : String :=
  match o.short with
  | some c => c.toString ++ "0"
  | none => o.long

end Opt

/-- The options of a level in the order of the help: those of every level and those of its own are
counted apart, and options of one place are sorted. -/
def sortedOptions (own : List Opt) : List Opt :=
  let placed := Opt.shared.zipIdx ++ own.zipIdx
  (placed.mergeSort fun a b => a.2 < b.2 || a.2 = b.2 && !(b.1.sortKey < a.1.sortKey)).map (·.1)

def helpRow : Row := ⟨"-h, --help", "Print help"⟩

def versionRow : Row := ⟨"-V, --version", "Print version"⟩

namespace Page

def ofHelp (path : List String) : Page where
  about := "Print this message or the help of the given subcommand(s)"
  usage := path ++ [helpWord, "[COMMAND]..."]
  tables := [("Arguments", [⟨"[COMMAND]...", "Print help for the subcommand(s)"⟩])]

def ofCommands (path : List String) (about : String) (commands : List Row) (more : List Row) :
    Page where
  about
  usage := path ++ ["[OPTIONS]", "<COMMAND>"]
  tables :=
    [("Commands", commands ++ [⟨helpWord, (ofHelp []).about⟩]),
      ("Options", (sortedOptions []).map Opt.row ++ helpRow :: more)]

def ofLeaf (path : List String) (leaf : Leaf) : Page where
  about := leaf.about
  usage := path ++ ["[OPTIONS]"] ++ (leaf.options.filter (·.isRequired)).map Opt.written ++
    leaf.slots.map Slot.written
  tables :=
    [("Arguments", leaf.slots.map fun s => ⟨s.written, ""⟩),
      ("Options", (sortedOptions leaf.options).map Opt.row ++ [helpRow])]

/-- The page of the command that the words lead to. -/
def find? : List String → Option Page
  | [] => some (ofCommands [] programAbout (branches.map fun b => ⟨b.1, b.2.about⟩) [versionRow])
  | word :: rest =>
    match branches.lookup word, rest with
    | some (.leaf leaf), [] => some (ofLeaf [word] leaf)
    | some (.group about leaves), [] =>
      some (ofCommands [word] about (leaves.map fun l => ⟨l.1, l.2.about⟩) [])
    | some (.group _ leaves), [name] =>
      match leaves.lookup name with
      | some leaf => some (ofLeaf [word, name] leaf)
      | none => if name = helpWord then some (ofHelp [word]) else none
    | none, [] => if word = helpWord then some (ofHelp []) else none
    | _, _ => none

def tableLines (rows : List Row) : List String :=
  let width := (rows.map (·.written.length)).foldl max 0
  rows.map fun r => "  " ++ Text.padRight (width + 2) r.written ++ r.about

def lines (p : Page) : List String :=
  (if p.about.isEmpty then [] else [p.about, ""]) ++
    ["Usage: " ++ " ".intercalate (programName :: p.usage)] ++
    p.tables.flatMap fun (title, rows) =>
      if rows.isEmpty then [] else "" :: (title ++ ":") :: tableLines rows

def text (p : Page) : String := String.join (p.lines.map (· ++ "\n"))

end Page

end AgentFlow.CommandLine
