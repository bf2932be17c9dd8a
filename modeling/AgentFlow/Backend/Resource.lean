import AgentFlow.Saved.Flow
import AgentFlow.Text.Basic

/-!
Model resources: the endpoints that nodes use, and the bodies for trying them out.
-/

namespace AgentFlow

open Json (Reader)

inductive ResourceKind where
  | textLlm
  | visionLlm
  | ocrPaddle
  | ocrDeepseek
  | embedding
  | reranker
  /-- A kind without a meaning here. -/
  | unknown
deriving DecidableEq, Repr, Inhabited

namespace ResourceKind

/-- The kinds with a meaning. -/
def known : List ResourceKind :=
  [.textLlm, .visionLlm, .ocrPaddle, .ocrDeepseek, .embedding, .reranker]

def name : ResourceKind → String
  | .textLlm => "text_llm"
  | .visionLlm => "vision_llm"
  | .ocrPaddle => "ocr_paddle"
  | .ocrDeepseek => "ocr_deepseek"
  | .embedding => "embedding"
  | .reranker => "reranker"
  | .unknown => "unknown"

def label : ResourceKind → String
  | .textLlm => "Text LLM"
  | .visionLlm => "Vision LLM"
  | .ocrPaddle => "PaddleOCR"
  | .ocrDeepseek => "DeepSeek-OCR"
  | .embedding => "Embedding Model"
  | .reranker => "Reranker"
  | .unknown => "Unknown"

/-- The kind with a meaning that a user names. -/
def ofName? (name : String) : Option ResourceKind := known.find? (·.name = name)

/-- The kind that the backend names. -/
def decode (name : String) : ResourceKind := (ofName? name).getD .unknown

def unknownMessage (name : String) : String := "unknown resource type '" ++ name ++ "'"

def reader : Reader ResourceKind := .name fun name => some (decode name)

end ResourceKind

inductive HealthStatus where
  | unknown
  | healthy
  | unhealthy
deriving DecidableEq, Repr, Inhabited

namespace HealthStatus

def name : HealthStatus → String
  | .unknown => "unknown"
  | .healthy => "healthy"
  | .unhealthy => "unhealthy"

def label : HealthStatus → String
  | .unknown => "Unknown"
  | .healthy => "Healthy"
  | .unhealthy => "Unhealthy"

def ofName? (name : String) : Option HealthStatus :=
  [HealthStatus.unknown, .healthy, .unhealthy].find? (·.name = name)

def reader : Reader HealthStatus := .name ofName?

end HealthStatus

/-- A model endpoint that is registered with the backend. -/
structure Resource where
  id : String
  name : String
  kind : ResourceKind
  endpoint : String
  apiKey : Option String
  config : Json.Object
  isEnabled : Bool
  isDefault : Bool
  description : Option String
  health : HealthStatus
  lastHealthCheckAt : Option String
  createdAt : String
  updatedAt : String
deriving DecidableEq, Inhabited

namespace Resource

def reader : Reader Resource :=
  .record [["id"], ["name"], ["type"], ["endpoint"], ["api_key"], ["config"], ["is_enabled"],
    ["is_default"], ["description"], ["health_status"], ["last_health_check_at"], ["created_at"],
    ["updated_at"]] fun d slots => do
    return {
      id := ← slots.required 0 d .string
      name := ← slots.required 1 d .string
      kind := ← slots.required 2 d ResourceKind.reader
      endpoint := ← slots.required 3 d .string
      apiKey := ← slots.optional 4 d .string
      config := ← slots.defaulted 5 d .object .empty
      isEnabled := ← slots.required 6 d .bool
      isDefault := ← slots.required 7 d .bool
      description := ← slots.optional 8 d .string
      health := ← slots.defaulted 9 d HealthStatus.reader .unknown
      lastHealthCheckAt := ← slots.optional 10 d .string
      createdAt := ← slots.required 11 d .string
      updatedAt := ← slots.required 12 d .string }

def toJson (r : Resource) : Json :=
  .object [("id", .string r.id), ("name", .string r.name), ("type", .string r.kind.name),
    ("endpoint", .string r.endpoint), ("api_key", .ofOption .string r.apiKey),
    ("config", r.config.toJson), ("is_enabled", .bool r.isEnabled),
    ("is_default", .bool r.isDefault), ("description", .ofOption .string r.description),
    ("health_status", .string r.health.name),
    ("last_health_check_at", .ofOption .string r.lastHealthCheckAt),
    ("created_at", .string r.createdAt), ("updated_at", .string r.updatedAt)]

end Resource

/-- The short form of a resource, for picking one. -/
structure ResourceSummary where
  id : String
  name : String
  kind : ResourceKind
  isDefault : Bool
  isEnabled : Bool
  description : Option String
  health : HealthStatus
deriving DecidableEq, Repr, Inhabited

namespace ResourceSummary

def reader : Reader ResourceSummary :=
  .record [["id"], ["name"], ["type"], ["is_default"], ["is_enabled"], ["description"],
    ["health_status"]] fun d slots => do
    return {
      id := ← slots.required 0 d .string
      name := ← slots.required 1 d .string
      kind := ← slots.required 2 d ResourceKind.reader
      isDefault := ← slots.required 3 d .bool
      isEnabled := ← slots.required 4 d .bool
      description := ← slots.optional 5 d .string
      health := ← slots.defaulted 6 d HealthStatus.reader .unknown }

def listReader : Reader (List ResourceSummary) :=
  .record [["data"]] fun d slots => slots.required 0 d (.list reader)

def toJson (r : ResourceSummary) : Json :=
  .object [("id", .string r.id), ("name", .string r.name), ("type", .string r.kind.name),
    ("is_default", .bool r.isDefault), ("is_enabled", .bool r.isEnabled),
    ("description", .ofOption .string r.description), ("health_status", .string r.health.name)]

end ResourceSummary

structure ResourceDraft where
  name : String
  kind : ResourceKind
  endpoint : String
  apiKey : Option String
  config : Json.Object
  isEnabled : Bool
  isDefault : Bool
  description : Option String
deriving DecidableEq

namespace ResourceDraft

/-- An enabled resource that is not the default. -/
def make (name : String) (kind : ResourceKind) (endpoint : String) : ResourceDraft :=
  ⟨name, kind, endpoint, none, .empty, true, false, none⟩

def toJson (r : ResourceDraft) : Json :=
  .object <| presentMembers
    [("name", some (.string r.name)), ("type", some (.string r.kind.name)),
      ("endpoint", some (.string r.endpoint)), ("api_key", r.apiKey.map .string),
      ("config", if r.config.isEmpty then none else some r.config.toJson),
      ("is_enabled", some (.bool r.isEnabled)), ("is_default", some (.bool r.isDefault)),
      ("description", r.description.map .string)]

end ResourceDraft

structure ResourceChange where
  name : Option String
  kind : Option ResourceKind
  endpoint : Option String
  apiKey : Option String
  config : Option Json.Object
  isEnabled : Option Bool
  isDefault : Option Bool
  description : Option String
deriving DecidableEq

def ResourceChange.toJson (r : ResourceChange) : Json :=
  .object <| presentMembers
    [("name", r.name.map .string), ("type", r.kind.map (.string ·.name)),
      ("endpoint", r.endpoint.map .string), ("api_key", r.apiKey.map .string),
      ("config", r.config.map (·.toJson)), ("is_enabled", r.isEnabled.map .bool),
      ("is_default", r.isDefault.map .bool), ("description", r.description.map .string)]

structure ConnectionTest where
  success : Bool
  message : String
  latency : Option Binary64
deriving DecidableEq, Repr

def ConnectionTest.reader : Reader ConnectionTest :=
  .record [["success"], ["message"], ["latency_ms"]] fun d slots => do
    return ⟨← slots.required 0 d .bool, ← slots.required 1 d .string,
      ← slots.optional 2 d .binary64⟩

/-! ### Test bodies -/

/-- Where the data of an image goes in a test body. -/
def imagePlaceholder : String := "<IMAGE_BASE64_PLACEHOLDER>"

/-- Puts the data of an image in the place of the first placeholder, if there is one. -/
def insertImage? (body dataUrl : String) : Option String :=
  Text.replaceFirst? imagePlaceholder dataUrl body

def chatMessage (role : String) (content : Json) : Json :=
  .object [("content", content), ("role", .string role)]

/-- A body to try a resource out with; the model defaults to a usual one of the kind. -/
def ResourceKind.testBody (kind : ResourceKind) (model : Option String) : Json :=
  match kind with
  | .visionLlm =>
    .object [("max_tokens", .ofNat 300),
      ("messages", .array [chatMessage "user" (.array
        [.object [("text", .string "What is in this image?"), ("type", .string "text")],
          .object [("image_url", .object [("url", .string imagePlaceholder)]),
            ("type", .string "image_url")]])]),
      ("model", .string (model.getD "gpt-4-vision-preview"))]
  | .reranker =>
    .object
      [("documents", .ofList .string
        ["Scrambled eggs with tomatoes is a classic home-style dish made from eggs and tomatoes.",
          "Braised pork belly: blanch the pork, then simmer with soy sauce and sugar until tender.",
          "Tomatoes are rich in vitamin C and eggs provide protein, so the pairing is balanced.",
          "Kung pao chicken is stir-fried with peanuts, dried chilies and chicken breast."]),
      ("model", .string (model.getD "qwen3-4b-reranker")),
      ("query", .string "How do I make scrambled eggs with tomatoes?")]
  | .embedding =>
    .object
      [("input", .ofList .string
        ["Qwen is an open-source large language model family.",
          "Qwen3 supports strong reasoning and coding capabilities."]),
      ("model", .string (model.getD "Qwen3-Embedding-0.6B"))]
  | .textLlm | .ocrPaddle | .ocrDeepseek | .unknown =>
    .object
      [("messages", .array
        [chatMessage "system" (.string "You are a helpful assistant."),
          chatMessage "user" (.string "Hello, this is a test message.")]),
      ("model", .string (model.getD "gpt-3.5-turbo")),
      ("temperature", .ofBinary64 (.ofRatio false 7 10))]

end AgentFlow
