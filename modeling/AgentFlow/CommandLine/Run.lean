import AgentFlow.Backend.Client
import AgentFlow.CommandLine.Help
import AgentFlow.Saved.FlowFile
import AgentFlow.Settings
import AgentFlow.Workflow.Diagnosis

/-!
What the commands do.

A run changes a `World`: the files, the channel to the backend, and the two output streams. A command
that fails keeps what it has done so far, and its error is told at the end.
-/

namespace AgentFlow.CommandLine

structure World where
  files : Files
  channel : Channel
  out : String
  err : String

inductive Failure where
  | load (e : LoadError)
  | edit (e : EditError)
  | call (e : CallError)
  | settings (e : SettingsError)
  | file (e : FileError)
  | invalidFlow (errors : Nat) (path : String)
  | refusedUpload
  | unknownResource (id : String)
deriving DecidableEq

def Failure.message : Failure → String
  | .load e => e.message
  | .edit e => e.message
  | .call e => e.message
  | .settings e => e.message
  | .file e => e.message
  | .invalidFlow errors path => toString errors ++ " error(s) in '" ++ path ++ "'"
  | .refusedUpload => "refusing to upload a flow with errors"
  | .unknownResource id => "resource '" ++ id ++ "' not found"

abbrev Script := ExceptT Failure (StateM World)

namespace Script

def print (line : String) : Script Unit := modify fun w => { w with out := w.out ++ line ++ "\n" }

def complain (line : String) : Script Unit := modify fun w => { w with err := w.err ++ line ++ "\n" }

def attempt (wrap : ε → Failure) : Except ε α → Script α
  | .ok a => return a
  | .error e => throw (wrap e)

def calls (f : Channel → Outcome α) : Script α := do
  let (result, channel) := f (← get).channel
  modify fun w => { w with channel }
  attempt .call result

def call (c : Client) (request : Call α) : Script α := calls (c.perform request)

def printJson (v : Json) : Script Unit := print v.toPrettyText

def loadFlow (path : String) : Script Graph := do
  attempt .load (FlowFile.load (← get).files path)

def writeFile (path content : String) : Script Unit := do
  let files ← attempt .file ((← get).files.write path (.text content))
  modify fun w => { w with files }

/-- Writes a text to a file, or prints it. -/
def deliver (content : String) : Option String → Script Unit
  | none => print content
  | some path => do
    writeFile path content
    print ("Wrote " ++ path)

def deliverFlow (flow : SavedFlow) (out : Option String) : Script Unit := do
  deliver (← attempt .load flow.decode).toText out

end Script

open Script

def variableLine (v : Variable) : String :=
  Text.padRight 32 v.label ++ " " ++ Text.padRight 40 v.value ++ " " ++ v.type.name

def variableJson (v : Variable) : Json :=
  .object [("label", .string v.label), ("value", .string v.value), ("type", .string v.type.name)]

def runVars (flow node : String) (asJson : Bool) : Script Unit := do
  let g ← loadFlow flow
  if !g.contains node then throw (.edit (.nodeNotFound node))
  let vars := g.variablesFor node
  if asJson then printJson (.ofList variableJson vars)
  else do
    if vars.isEmpty then print ("No upstream variables for '" ++ node ++ "'.")
    vars.forM fun v => print (variableLine v)

def runValidate (flow : String) : Script Unit := do
  let g ← loadFlow flow
  let report := g.diagnose
  report.issues.forM fun i => print i.text
  if !report.isOk then throw (.invalidFlow report.errors.length flow)
  print ("'" ++ flow ++ "' is valid (" ++ toString g.size ++ " nodes, " ++
    toString g.edges.length ++ " edges, " ++ toString report.warnings.length ++ " warning(s)).")

/-! ### Agents -/

def agentLine (a : Agent) : String :=
  let version := match a.latestVersion with
    | some v => "v" ++ toString v
    | none => "-"
  a.id ++ "  " ++ Text.padRight 6 version ++ " " ++ a.name

/-- A path below a directory; an absolute path stands for itself. -/
def joinPath (dir file : String) : String :=
  if file.startsWith "/" then file
  else if dir.endsWith "/" then dir ++ file
  else dir ++ "/" ++ file

def runExport (c : Client) (id : String) (dir : Option String) : Script Unit := do
  let exported ← call c (.exportAgent id)
  match dir with
  | some dir =>
    let path := joinPath dir exported.filename
    writeFile path exported.yaml
    print ("Exported to " ++ path)
  | none => modify fun w => { w with out := w.out ++ exported.yaml }

/-- Saves a flow as a new agent. A flow with errors is not sent. -/
def runCreateAgent (c : Client) (name flow : String) (description : Option String) :
    Script Unit := do
  let g ← loadFlow flow
  let report := g.diagnose
  if !report.isOk then
    report.errors.forM fun i => complain i.text
    throw .refusedUpload
  let agent ← call c (.createAgent ⟨name, description, none, g.encode⟩)
  print ("Created agent " ++ agent.id)

/-! ### Resources -/

def resourceLine (r : Resource) : String :=
  (if r.isDefault then "*" else " ") ++ " " ++ r.id ++ "  " ++ Text.padRight 16 r.kind.label ++
    " " ++ Text.padRight 24 r.name ++ " " ++ r.health.label ++
    (if r.isEnabled then "" else " (disabled)")

def connectionLine (t : ConnectionTest) : String :=
  (if t.success then "ok" else "failed") ++ ": " ++ t.message ++
    match t.latency with
    | some ms => " (" ++ ms.fixed 0 ++ " ms)"
    | none => ""

/-- Tries a resource out, with the body of a file or the usual one of its kind. -/
def runTestResource (c : Client) (id : String) (payload : Option String) : Script Unit := do
  let body ← match payload with
    | some path => do
      let text ← attempt .file ((← get).files.readText path)
      attempt .call (parseTestBody text)
    | none => do
      let resources ← call c .listResources
      match resources.find? (·.id = id) with
      | some r => pure (r.kind.testBody (some r.name))
      | none => throw (.unknownResource id)
  printJson (← call c (.testResource id body))

/-! ### Knowledge bases -/

def baseLine (kb : KnowledgeBase) : String :=
  kb.id ++ "  " ++ Text.padRight 9 (if kb.isPublished then "published" else "draft") ++ " " ++
    Text.padLeft 4 (toString (kb.documentCount.getD kb.documents.length)) ++ " docs  " ++ kb.name

def runUpload (c : Client) (base file : String) (process wait : Bool) : Script Unit := do
  let files := (← get).files
  let doc ← calls (c.uploadFile base files file)
  print ("Uploaded " ++ doc.filename ++ " as " ++ doc.id)
  if process then
    call c (.process base doc.id)
    print "Processing started"
  if wait then
    let doc ← calls (c.waitForDocument base doc.id)
    print (doc.status.label ++ ": " ++ toString doc.chunkCount ++ " chunks")
    doc.errorMessage.forM print

def hitLine (place : Nat) (h : Hit) : String :=
  toString place ++ ". [" ++ h.score.fixed 4 ++ "] " ++ h.content

/-- Searches a knowledge base. The backend takes a threshold as a similarity, so that it is sent only
where higher scores are better; the hits are held to it either way. -/
def runSearch (c : Client) (s : Settings) (base query : String) (topK : Option Nat)
    (threshold : Option Binary64) : Script Unit := do
  let sent := match s.scoreOrder with
    | .higherIsBetter => threshold
    | .lowerIsBetter => none
  let hits ← call c (.search base ⟨query, topK.getD s.topK, sent⟩)
  let ranked := rankWithin s.scoreOrder threshold hits
  if ranked.isEmpty then print "No matches."
  ranked.zipIdx.forM fun (h, i) => print (hitLine (i + 1) h)

/-! ### Commands -/

def runCommand (s : Settings) : Command → Script Unit :=
  let c := Client.ofUrl s.baseUrl
  fun
  | .new out => deliver Graph.starter.toText out
  | .vars flow node asJson => runVars flow node asJson
  | .validate flow => runValidate flow
  | .listAgents => do (← call c .listAgents).forM fun a => print (agentLine a)
  | .getAgent id => do printJson (← call c (.getAgent id)).toJson
  | .agentFlow id out => do deliverFlow (← call c (.agentFlow id)) out
  | .exportAgent id dir => runExport c id dir
  | .runAgent id message => do print (← call c (.chat id message)).outputText
  | .createAgent name flow description => runCreateAgent c name flow description
  | .generateFlow description out => do deliverFlow (← call c (.generateFlow description)) out
  | .deleteAgent id => do
    call c (.deleteAgent id)
    print ("Deleted agent " ++ id)
  | .listResources => do (← call c .listResources).forM fun r => print (resourceLine r)
  | .availableResources kind => do
    printJson (.ofList ResourceSummary.toJson (← call c (.availableResources kind)))
  | .createResource name kind endpoint apiKey isDefault => do
    let draft := { ResourceDraft.make name kind endpoint with apiKey, isDefault }
    print ("Created resource " ++ (← call c (.createResource draft)).id)
  | .testConnection id => do print (connectionLine (← call c (.testConnection id)))
  | .setDefaultResource id => do
    call c (.setDefaultResource id)
    print (id ++ " is now the default for its type")
  | .testResource id payload => runTestResource c id payload
  | .deleteResource id => do
    call c (.deleteResource id)
    print ("Deleted resource " ++ id)
  | .listBases => do (← call c .listBases).forM fun kb => print (baseLine kb)
  | .createBase name description => do
    print ("Created knowledge base " ++ (← call c (.createBase ⟨name, description⟩)).id)
  | .getBase id => do printJson (← call c (.getBase id)).toJson
  | .deleteBase id => do
    call c (.deleteBase id)
    print ("Deleted knowledge base " ++ id)
  | .upload base file process wait => runUpload c base file process wait
  | .process base document => do
    call c (.process base document)
    print "Processing started"
  | .preview base document => do print (← call c (.preview base document))
  | .chunks base document => do
    (← call c (.chunks base document)).forM fun h =>
      print ("--- " ++ h.id ++ " ---\n" ++ h.content)
  | .search base query topK threshold => runSearch c s base query topK threshold
  | .publish id => do print ((← call c (.publish id)).name ++ " published")
  | .unpublish id => do print ((← call c (.unpublish id)).name ++ " unpublished")

/-- Loads the settings and runs a command under them. -/
def runInvocation (env : List (String × String)) (i : Invocation) : Script Unit := do
  let s ← attempt .settings (Settings.load (← get).files i.configPath env)
  runCommand { s with baseUrl := i.apiUrl.getD s.baseUrl } i.command

structure Exit where
  code : Nat
  world : World

/-- How a command line ends that cannot be read. -/
def refuse (w : World) : Exit :=
  ⟨2, { w with err := w.err ++ "error: invalid command line\n\nUsage: " ++ programName ++
    " [OPTIONS] <COMMAND>\n\nFor more information, try '--help'.\n" }⟩

/-- Runs a command line. An error is told on the error stream after an empty line. -/
def run (env : List (String × String)) (args : List String) (w : World) : Exit :=
  match read args with
  | .error .usage => refuse w
  | .error (.help path) =>
    match Page.find? path with
    | some page => ⟨0, { w with out := w.out ++ page.text }⟩
    | none => refuse w
  | .error .version => ⟨0, { w with out := w.out ++ versionLine ++ "\n" }⟩
  | .ok i =>
    match (runInvocation env i).run w with
    | (.ok (), w) => ⟨0, w⟩
    | (.error e, w) => ⟨1, { w with err := w.err ++ "\nError: " ++ e.message ++ "\n" }⟩

end AgentFlow.CommandLine
