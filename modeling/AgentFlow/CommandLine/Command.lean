import AgentFlow.CommandLine.Option

/-!
The commands of the command line, and how they are spelled.
-/

namespace AgentFlow.CommandLine

inductive Command where
  | new (out : Option String)
  | vars (flow node : String) (asJson : Bool)
  | validate (flow : String)
  | listAgents
  | getAgent (id : String)
  | agentFlow (id : String) (out : Option String)
  | exportAgent (id : String) (dir : Option String)
  | runAgent (id message : String)
  | createAgent (name flow : String) (description : Option String)
  | generateFlow (description : String) (out : Option String)
  | deleteAgent (id : String)
  | listResources
  | availableResources (kind : Option ResourceKind)
  | createResource (name : String) (kind : ResourceKind) (endpoint : String)
      (apiKey : Option String) (isDefault : Bool)
  | testConnection (id : String)
  | setDefaultResource (id : String)
  | testResource (id : String) (payload : Option String)
  | deleteResource (id : String)
  | listBases
  | createBase (name : String) (description : Option String)
  | getBase (id : String)
  | deleteBase (id : String)
  | upload (base file : String) (process wait : Bool)
  | process (base document : String)
  | preview (base document : String)
  | chunks (base document : String)
  | search (base query : String) (topK : Option Nat) (threshold : Option Binary64)
  | publish (id : String)
  | unpublish (id : String)
deriving DecidableEq, Repr

structure Invocation where
  configPath : Option String
  apiUrl : Option String
  command : Command
deriving DecidableEq, Repr

/-! ### Options -/

namespace Opt

/-- An option without a value. -/
def flag (long about : String) : Opt := ⟨long, none, none, false, about⟩

def valued (long : String) (short : Option Char) (name : String) (shape : Shape) (about : String) :
    Opt :=
  ⟨long, short, some ⟨name, shape⟩, false, about⟩

def out (about : String) : Opt := valued "out" (some 'o') "OUT" .path about

def description : Opt := valued "description" (some 'd') "DESCRIPTION" .text ""

def kind : Opt := valued "type" (some 't') "KIND" .resourceKind ""

/-- The options of every level. -/
def shared : List Opt :=
  [valued "config" (some 'c') "CONFIG" .path "Path to a TOML configuration file",
    valued "api-url" none "API_URL" .text "Backend base URL, overriding the configuration"]

end Opt

namespace Level

def out? (l : Level) : Option String := l.value? "out"

def description? (l : Level) : Option String := l.value? "description"

def kind? (l : Level) : Option ResourceKind := (l.value? "type").bind ResourceKind.ofName?

end Level

/-! ### The tree of commands -/

/-- A command without subcommands: its options, the places of its words, and what it means. -/
structure Leaf where
  about : String
  options : List Opt
  slots : List Slot
  meaning : Level → Option Command

namespace Leaf

def plain (c : Command) : Leaf := ⟨"", [], [], fun _ => some c⟩

def unary (slot : Slot) (meaning : String → Command) : Leaf where
  about := ""
  options := []
  slots := [slot]
  meaning l := match l.words with
    | [a] => some (meaning a)
    | _ => none

def binary (first second : Slot) (meaning : String → String → Command) : Leaf where
  about := ""
  options := []
  slots := [first, second]
  meaning l := match l.words with
    | [a, b] => some (meaning a b)
    | _ => none

def unaryWith (about : String) (options : List Opt) (slot : Slot)
    (meaning : Level → String → Command) : Leaf where
  about
  options
  slots := [slot]
  meaning l := match l.words with
    | [a] => some (meaning l a)
    | _ => none

def binaryWith (about : String) (options : List Opt) (first second : Slot)
    (meaning : Level → String → String → Command) : Leaf where
  about
  options
  slots := [first, second]
  meaning l := match l.words with
    | [a, b] => some (meaning l a b)
    | _ => none

def grammar (leaf : Leaf) : Grammar := ⟨Opt.shared ++ leaf.options, some leaf.slots, false⟩

end Leaf

def idSlot : Slot := ⟨"ID", .text⟩

def nameSlot : Slot := ⟨"NAME", .text⟩

def flowSlot : Slot := ⟨"FLOW", .path⟩

def baseSlot : Slot := ⟨"KB", .text⟩

def documentSlot : Slot := ⟨"DOC", .text⟩

def agentLeaves : List (String × Leaf) :=
  [("list", .plain .listAgents),
    ("get", .unary idSlot .getAgent),
    ("flow", .unaryWith "Download the latest flow of an agent" [.out ""] idSlot
      fun l id => .agentFlow id l.out?),
    ("export", .unaryWith "Export an agent as YAML"
      [.valued "dir" (some 'd') "DIR" .path "Directory to write the exported file into"] idSlot
      fun l id => .exportAgent id (l.value? "dir")),
    ("run", { Leaf.binary idSlot ⟨"MESSAGE", .text⟩ .runAgent with
      about := "Run an agent with a chat message" }),
    ("create", .binaryWith "Create an agent from a flow file" [.description] nameSlot flowSlot
      fun l name flow => .createAgent name flow l.description?),
    ("generate", .unaryWith "Draft a flow from a description" [.out ""] ⟨"DESCRIPTION", .text⟩
      fun l description => .generateFlow description l.out?),
    ("delete", .unary idSlot .deleteAgent)]

def resourceLeaves : List (String × Leaf) :=
  [("list", .plain .listResources),
    ("available",
      ⟨"Enabled resources, optionally of one type", [.kind], [],
        fun l => some (.availableResources l.kind?)⟩),
    ("create",
      ⟨"", [{ Opt.kind with isRequired := true }, .valued "api-key" none "API_KEY" .text "",
          .flag "default" ""],
        [nameSlot, ⟨"ENDPOINT", .text⟩],
        fun l => match l.words, l.kind? with
          | [name, endpoint], some kind =>
            some (.createResource name kind endpoint (l.value? "api-key") (l.has "default"))
          | _, _ => none⟩),
    ("test-connection", .unary idSlot .testConnection),
    ("set-default", .unary idSlot .setDefaultResource),
    ("test", .unaryWith
      "Send a request body to a resource; defaults to the template for its type"
      [.valued "payload" (some 'p') "PAYLOAD" .path ""] idSlot
      fun l id => .testResource id (l.value? "payload")),
    ("delete", .unary idSlot .deleteResource)]

/-- An upload waits for the processing only if it starts it. -/
def uploadLeaf : Leaf where
  about := "Upload a document, optionally processing it and waiting for completion"
  options := [.flag "process" "", .flag "wait" ""]
  slots := [baseSlot, ⟨"FILE", .path⟩]
  meaning l := match l.words with
    | [base, file] =>
      if l.has "wait" && !l.has "process" then none
      else some (.upload base file (l.has "process") (l.has "wait"))
    | _ => none

def knowledgeLeaves : List (String × Leaf) :=
  [("list", .plain .listBases),
    ("create", .unaryWith "" [.description] nameSlot fun l name => .createBase name l.description?),
    ("get", .unary idSlot .getBase),
    ("delete", .unary idSlot .deleteBase),
    ("upload", uploadLeaf),
    ("process", .binary baseSlot documentSlot .process),
    ("preview", .binary baseSlot documentSlot .preview),
    ("chunks", .binary baseSlot documentSlot .chunks),
    ("search", .binaryWith ""
      [.valued "top-k" (some 'k') "TOP_K" .natural "",
        .valued "threshold" none "THRESHOLD" .number ""]
      baseSlot ⟨"QUERY", .text⟩
      fun l base query =>
        .search base query ((l.value? "top-k").bind natural?)
          ((l.value? "threshold").bind number?)),
    ("publish", .unary idSlot .publish),
    ("unpublish", .unary idSlot .unpublish)]

/-- A command of the first level: one of its own, or a group of commands. -/
inductive Branch where
  | leaf (l : Leaf)
  | group (about : String) (leaves : List (String × Leaf))

def Branch.about : Branch → String
  | .leaf l => l.about
  | .group about _ => about

def branches : List (String × Branch) :=
  [("new", .leaf
      ⟨"Write a new workflow containing only the start and end nodes",
        [.out "Output file; prints to stdout when omitted"], [], fun l => some (.new l.out?)⟩),
    ("vars", .leaf <| .binaryWith "List the variables a node can bind its inputs to"
      [.flag "json" "Print as JSON"] flowSlot ⟨"NODE", .text⟩
      fun l flow node => .vars flow node (l.has "json")),
    ("validate", .leaf { Leaf.unary flowSlot .validate with
      about := "Check a workflow for structural and binding problems" }),
    ("agents", .group "Manage saved agents" agentLeaves),
    ("resources", .group "Manage AI model resources" resourceLeaves),
    ("kb", .group "Manage knowledge bases and their documents" knowledgeLeaves)]

/-- The word that asks for help in the place of a command. -/
def helpWord : String := "help"

/-! ### Reading -/

def readLeaf (leaf : Leaf) (words : List String) : Except Stop (List Level × Command) := do
  let l ← readLevel leaf.grammar .empty none words
  if l.words.length = leaf.slots.length && leaf.options.all fun o => !o.isRequired || l.has o.long
  then
    match leaf.meaning l with
    | some c => .ok ([l], c)
    | none => .error .usage
  else .error .usage

/-- Reads the word of a command and what stands below it. -/
def readWord (table : List (String × α)) (below : α → List String → Except Stop β) :
    List String → Except Stop β
  | [] => .error .usage
  | word :: rest =>
    match table.lookup word with
    | some a => (below a rest).mapError (·.under word)
    | none => .error (if word = helpWord then .help rest else .usage)

/-- Reads the levels below the first; the levels are returned, the last one first. -/
def readBranch (branch : Branch) (words : List String) : Except Stop (List Level × Command) :=
  match branch with
  | .leaf leaf => readLeaf leaf words
  | .group _ leaves => do
    let l ← readLevel ⟨Opt.shared, none, false⟩ .empty none words
    let (levels, command) ← readWord leaves readLeaf l.words
    return (levels ++ [← l.settle], command)

/-- Reads a command line. An option of every level counts where it is given last. -/
def read (args : List String) : Except Stop Invocation := do
  let top ← readLevel ⟨Opt.shared, none, true⟩ .empty none args
  let (levels, command) ← readWord branches readBranch top.words
  let top ← top.settle
  let last (long : String) : Option String := (levels ++ [top]).findSome? (·.value? long)
  return { configPath := last "config", apiUrl := last "api-url", command }

end AgentFlow.CommandLine
