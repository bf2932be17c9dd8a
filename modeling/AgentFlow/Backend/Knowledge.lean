import AgentFlow.Saved.Flow
import AgentFlow.Search.Ranking

/-!
Knowledge bases and their documents.
-/

namespace AgentFlow

open Json (Reader)

inductive DocumentStatus where
  | pending
  | processing
  | completed
  | error
deriving DecidableEq, Repr, Inhabited

namespace DocumentStatus

def name : DocumentStatus → String
  | .pending => "pending"
  | .processing => "processing"
  | .completed => "completed"
  | .error => "error"

def label : DocumentStatus → String
  | .pending => "Pending"
  | .processing => "Processing"
  | .completed => "Completed"
  | .error => "Error"

def ofName? (name : String) : Option DocumentStatus :=
  [DocumentStatus.pending, .processing, .completed, .error].find? (·.name = name)

def reader : Reader DocumentStatus := .name ofName?

/-- Whether processing has come to an end, good or bad. -/
def isSettled : DocumentStatus → Bool
  | .completed | .error => true
  | .pending | .processing => false

end DocumentStatus

structure Document where
  id : String
  base : String
  filename : String
  fileType : String
  status : DocumentStatus
  errorMessage : Option String
  chunkCount : Nat
  createdAt : String
  updatedAt : String
deriving DecidableEq, Repr, Inhabited

namespace Document

def reader : Reader Document :=
  .record [["id"], ["knowledge_base_id"], ["filename"], ["file_type"], ["status"],
    ["error_message"], ["chunk_count"], ["created_at"], ["updated_at"]] fun d slots => do
    return {
      id := ← slots.required 0 d .string
      base := ← slots.required 1 d .string
      filename := ← slots.required 2 d .string
      fileType := ← slots.required 3 d .string
      status := ← slots.required 4 d DocumentStatus.reader
      errorMessage := ← slots.optional 5 d .string
      chunkCount := ← slots.defaulted 6 d (.nat 32) 0
      createdAt := ← slots.required 7 d .string
      updatedAt := ← slots.required 8 d .string }

def toJson (doc : Document) : Json :=
  .object [("id", .string doc.id), ("knowledge_base_id", .string doc.base),
    ("filename", .string doc.filename), ("file_type", .string doc.fileType),
    ("status", .string doc.status.name), ("error_message", .ofOption .string doc.errorMessage),
    ("chunk_count", .ofNat doc.chunkCount), ("created_at", .string doc.createdAt),
    ("updated_at", .string doc.updatedAt)]

end Document

structure KnowledgeBase where
  id : String
  name : String
  description : Option String
  isPublished : Bool
  createdAt : String
  updatedAt : String
  /-- Given in lists, where the documents are left out. -/
  documentCount : Option Nat
  documents : List Document
deriving DecidableEq, Repr, Inhabited

namespace KnowledgeBase

def reader : Reader KnowledgeBase :=
  .record [["id"], ["name"], ["description"], ["is_published"], ["created_at"], ["updated_at"],
    ["document_count"], ["documents"]] fun d slots => do
    return {
      id := ← slots.required 0 d .string
      name := ← slots.required 1 d .string
      description := ← slots.optional 2 d .string
      isPublished := ← slots.defaulted 3 d .bool false
      createdAt := ← slots.required 4 d .string
      updatedAt := ← slots.required 5 d .string
      documentCount := ← slots.optional 6 d (.nat 32)
      documents := ← slots.defaulted 7 d (.list Document.reader) [] }

def toJson (kb : KnowledgeBase) : Json :=
  .object [("id", .string kb.id), ("name", .string kb.name),
    ("description", .ofOption .string kb.description), ("is_published", .bool kb.isPublished),
    ("created_at", .string kb.createdAt), ("updated_at", .string kb.updatedAt),
    ("document_count", .ofOption .ofNat kb.documentCount),
    ("documents", .ofList Document.toJson kb.documents)]

def isProcessing (kb : KnowledgeBase) : Bool :=
  kb.documents.any fun doc => doc.status = .processing

end KnowledgeBase

structure KnowledgeDraft where
  name : String
  description : Option String
deriving DecidableEq, Repr

def KnowledgeDraft.toJson (kb : KnowledgeDraft) : Json :=
  .object <| presentMembers
    [("name", some (.string kb.name)), ("description", kb.description.map .string)]

def previewReader : Reader String :=
  .record [["content"]] fun d slots => slots.required 0 d .string

def searchReader : Reader (List Hit) :=
  .record [["results"]] fun d slots => slots.required 0 d (.list Hit.reader)

end AgentFlow
