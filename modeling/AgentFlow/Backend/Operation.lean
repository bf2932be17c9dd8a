import AgentFlow.Backend.Agent
import AgentFlow.Backend.Exchange
import AgentFlow.Backend.Knowledge
import AgentFlow.Backend.Resource

/-!
The operations of the backend: what is asked, as a method, a path and what goes with them.

Ids are put into paths as they are.
-/

namespace AgentFlow

inductive Operation where
  | listAgents
  | getAgent (id : String)
  | createAgent (draft : AgentDraft)
  | updateAgent (id : String) (change : AgentChange)
  | deleteAgent (id : String)
  | exportAgent (id : String)
  | agentFlow (id : String)
  | runAgent (id : String) (inputs : Json.Object)
  | generateFlow (description : String)
  | listResources
  | availableResources (kind : Option ResourceKind)
  | createResource (draft : ResourceDraft)
  | updateResource (id : String) (change : ResourceChange)
  | deleteResource (id : String)
  | testConnection (id : String)
  | setDefaultResource (id : String)
  | testResource (id : String) (body : Json)
  | listBases
  | createBase (draft : KnowledgeDraft)
  | getBase (id : String)
  | deleteBase (id : String)
  | upload (base filename : String) (content : Content)
  | process (base document : String)
  | preview (base document : String)
  | chunks (base document : String)
  | search (base : String) (query : SearchQuery)
  | publish (id : String)
  | unpublish (id : String)
deriving DecidableEq

namespace Operation

def method : Operation → Method
  | .listAgents | .getAgent _ | .exportAgent _ | .agentFlow _ | .listResources
  | .availableResources _ | .listBases | .getBase _ | .preview _ _ | .chunks _ _ => .get
  | .createAgent _ | .runAgent _ _ | .generateFlow _ | .createResource _ | .testConnection _
  | .setDefaultResource _ | .testResource _ _ | .createBase _ | .upload _ _ _ | .process _ _
  | .search _ _ | .publish _ | .unpublish _ => .post
  | .updateAgent _ _ | .updateResource _ _ => .put
  | .deleteAgent _ | .deleteResource _ | .deleteBase _ => .delete

def agentsPath : String := "/agents/"

def resourcesPath : String := "/ai-resources/"

def basesPath : String := "/knowledge-bases/"

/-- The path of a document, or of something under it. -/
def documentPath (base document what : String) : String :=
  basesPath ++ base ++ "/documents/" ++ document ++ "/" ++ what

def path : Operation → String
  | .listAgents | .createAgent _ => agentsPath
  | .getAgent id | .updateAgent id _ | .deleteAgent id => agentsPath ++ id
  | .exportAgent id => agentsPath ++ id ++ "/export"
  | .agentFlow id => agentsPath ++ id ++ "/flow"
  | .runAgent id _ => agentsPath ++ id ++ "/run"
  | .generateFlow _ => agentsPath ++ "generate"
  | .listResources | .createResource _ => resourcesPath
  | .availableResources _ => resourcesPath ++ "available"
  | .updateResource id _ | .deleteResource id => resourcesPath ++ id
  | .testConnection id => resourcesPath ++ id ++ "/test-connection"
  | .setDefaultResource _ => resourcesPath ++ "set-default"
  | .testResource id _ => resourcesPath ++ id ++ "/test"
  | .listBases | .createBase _ => basesPath
  | .getBase id | .deleteBase id => basesPath ++ id
  | .upload base _ _ => basesPath ++ base ++ "/upload"
  | .process base document => documentPath base document "process"
  | .preview base document => documentPath base document "preview"
  | .chunks base document => documentPath base document "chunks"
  | .search base _ => basesPath ++ base ++ "/search"
  | .publish id => basesPath ++ id ++ "/publish"
  | .unpublish id => basesPath ++ id ++ "/unpublish"

def query : Operation → List (String × String)
  | .availableResources (some kind) => [("type", kind.name)]
  | _ => []

def payload : Operation → Payload
  | .createAgent draft => .json draft.toJson
  | .updateAgent _ change => .json change.toJson
  | .runAgent _ inputs => .json (.object [("inputs", inputs.toJson)])
  | .generateFlow description => .json (.object [("description", .string description)])
  | .createResource draft => .json draft.toJson
  | .updateResource _ change => .json change.toJson
  | .setDefaultResource id => .json (.object [("resource_id", .string id)])
  | .testResource _ body => .json body
  | .createBase draft => .json draft.toJson
  | .upload _ filename content => .upload filename content
  | .search _ query => .json query.toJson
  | _ => .none

/-- The request to a backend that is found under `baseUrl`. -/
def request (baseUrl : String) (o : Operation) : Request :=
  ⟨o.method, baseUrl ++ o.path, o.query, o.payload⟩

end Operation

/-- An operation with the way its answer is read. -/
structure Call (α : Type) where
  operation : Operation
  accept : String → Option α

namespace Call

open Json (Reader)

def reading (o : Operation) (reader : Reader α) : Call α := ⟨o, reader.ofText?⟩

/-- A call whose answer is not looked at. -/
def ignoring (o : Operation) : Call Unit := ⟨o, fun _ => some ()⟩

/-! ### Agents -/

def listAgents : Call (List Agent) := reading .listAgents (.list Agent.reader)

def getAgent (id : String) : Call Agent := reading (.getAgent id) Agent.reader

def createAgent (draft : AgentDraft) : Call Agent := reading (.createAgent draft) Agent.reader

def updateAgent (id : String) (change : AgentChange) : Call Agent :=
  reading (.updateAgent id change) Agent.reader

def deleteAgent (id : String) : Call Unit := ignoring (.deleteAgent id)

def exportAgent (id : String) : Call Export := reading (.exportAgent id) Export.reader

/-- The flow of the latest version of an agent. -/
def agentFlow (id : String) : Call SavedFlow := reading (.agentFlow id) SavedFlow.reader

def runAgent (id : String) (inputs : Json.Object) : Call RunResult :=
  reading (.runAgent id inputs) RunResult.reader

/-- Runs an agent with one message as its input. -/
def chat (id message : String) : Call RunResult :=
  runAgent id (Json.Object.empty.insert "input" (.string message))

/-- Drafts a flow from a description. -/
def generateFlow (description : String) : Call SavedFlow :=
  reading (.generateFlow description) SavedFlow.reader

/-! ### Resources -/

def listResources : Call (List Resource) := reading .listResources (.list Resource.reader)

/-- The enabled resources, of one kind if it is given. -/
def availableResources (kind : Option ResourceKind) : Call (List ResourceSummary) :=
  reading (.availableResources kind) ResourceSummary.listReader

def createResource (draft : ResourceDraft) : Call Resource :=
  reading (.createResource draft) Resource.reader

def updateResource (id : String) (change : ResourceChange) : Call Resource :=
  reading (.updateResource id change) Resource.reader

def deleteResource (id : String) : Call Unit := ignoring (.deleteResource id)

/-- Probes an endpoint. A probe that fails is a call that succeeds. -/
def testConnection (id : String) : Call ConnectionTest :=
  reading (.testConnection id) ConnectionTest.reader

def setDefaultResource (id : String) : Call Unit := ignoring (.setDefaultResource id)

/-- Sends a body to a resource as it is. -/
def testResource (id : String) (body : Json) : Call Json := reading (.testResource id body) .json

/-! ### Knowledge bases -/

def listBases : Call (List KnowledgeBase) := reading .listBases (.list KnowledgeBase.reader)

def createBase (draft : KnowledgeDraft) : Call KnowledgeBase :=
  reading (.createBase draft) KnowledgeBase.reader

def getBase (id : String) : Call KnowledgeBase := reading (.getBase id) KnowledgeBase.reader

def deleteBase (id : String) : Call Unit := ignoring (.deleteBase id)

def upload (base filename : String) (content : Content) : Call Document :=
  reading (.upload base filename content) Document.reader

def process (base document : String) : Call Unit := ignoring (.process base document)

def preview (base document : String) : Call String :=
  reading (.preview base document) previewReader

def chunks (base document : String) : Call (List Hit) :=
  reading (.chunks base document) (.list Hit.reader)

/-- The hits of a search, in the order of the backend. -/
def search (base : String) (query : SearchQuery) : Call (List Hit) :=
  reading (.search base query) searchReader

def publish (id : String) : Call KnowledgeBase := reading (.publish id) KnowledgeBase.reader

def unpublish (id : String) : Call KnowledgeBase := reading (.unpublish id) KnowledgeBase.reader

end Call

end AgentFlow
