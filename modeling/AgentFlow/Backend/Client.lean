import AgentFlow.Backend.Operation

/-!
The client of the backend.

A call sends one request. What fails is told once and never tried again. Waiting asks again and
again, each time with one reply less to come, so that it ends at the latest when the line falls
silent.
-/

namespace AgentFlow

/-- A client for the backend under a URL without slashes at its end. -/
structure Client where
  baseUrl : String
deriving DecidableEq, Repr

/-- The outcome of calls, and the channel after them. -/
abbrev Outcome (α : Type) := Except CallError α × Channel

namespace Client

def ofUrl (url : String) : Client :=
  ⟨String.ofList (url.toList.reverse.dropWhile (· = '/')).reverse⟩

def perform (c : Client) (call : Call α) (ch : Channel) : Outcome α :=
  let r := call.operation.request c.baseUrl
  match ch.exchange r with
  | (none, ch) => (.error (.transport r.url), ch)
  | (some reply, ch) =>
    if !reply.isSuccess then (.error (.status reply.status (Reply.detail reply.body)), ch)
    else match call.accept reply.body with
      | some a => (.ok a, ch)
      | none => (.error (.decode r.url), ch)

theorem pending_perform {c : Client} {call : Call α} {ch ch' : Channel} {a : α}
    (h : c.perform call ch = (.ok a, ch')) : ch'.pending < ch.pending := by
  unfold perform at h
  dsimp only at h
  split at h
  · cases h
  · next reply _ hx =>
    have := Channel.pending_exchange hx
    split at h
    · cases h
    · split at h
      · cases h; omega
      · cases h

/-- The name under which a file is uploaded: the last component of its path. -/
def uploadName (path : String) : String :=
  match (Files.components path).getLast? with
  | some name => if name = ".." then "upload" else name
  | none => "upload"

def uploadFile (c : Client) (base : String) (fs : Files) (path : String) (ch : Channel) :
    Outcome Document :=
  match fs.read path with
  | .error e => (.error (.file path e), ch)
  | .ok content => c.perform (.upload base (uploadName path) content) ch

/-- Asks for a knowledge base until none of its documents is being processed. -/
def waitUntilProcessed (c : Client) (id : String) (ch : Channel) : Outcome KnowledgeBase :=
  match _h : c.perform (.getBase id) ch with
  | (.error e, ch) => (.error e, ch)
  | (.ok kb, ch') => if kb.isProcessing then c.waitUntilProcessed id ch' else (.ok kb, ch')
termination_by ch.pending
decreasing_by exact pending_perform _h

/-- Asks for a knowledge base until the processing of a document has come to an end. -/
def waitForDocument (c : Client) (base document : String) (ch : Channel) : Outcome Document :=
  match _h : c.perform (.getBase base) ch with
  | (.error e, ch) => (.error e, ch)
  | (.ok kb, ch') =>
    match kb.documents.find? (·.id = document) with
    | none => (.error (.documentNotFound base document), ch')
    | some doc =>
      if doc.status.isSettled then (.ok doc, ch') else c.waitForDocument base document ch'
termination_by ch.pending
decreasing_by exact pending_perform _h

end Client

def parseTestBody (text : String) : Except CallError Json :=
  match Json.parse? text with
  | some v => .ok v
  | none => .error .invalidPayload

end AgentFlow
