import AgentFlow.Files
import AgentFlow.Json.Record
import AgentFlow.Json.Printer
import AgentFlow.Saved.Decode

/-!
Requests to the backend and its replies.

The backend is seen through a line: it is down, or it gives out a list of replies one by one and
then drops the connection. A `Channel` is a line together with the requests that have gone out on it;
a line that is down lets none out, so that none is counted there.
-/

namespace AgentFlow

inductive Method where
  | get
  | post
  | put
  | delete
deriving DecidableEq, Repr

def Method.name : Method → String
  | .get => "GET"
  | .post => "POST"
  | .put => "PUT"
  | .delete => "DELETE"

inductive Payload where
  | none
  | json (v : Json)
  /-- A form with one part named `file`. -/
  | upload (filename : String) (content : Content)
deriving DecidableEq

structure Request where
  method : Method
  url : String
  query : List (String × String)
  payload : Payload
deriving DecidableEq

/-- The answer to a request as the HTTP library hands it over, once it has followed any redirects.
-/
structure Reply where
  status : Nat
  body : String
deriving DecidableEq, Repr

inductive Line where
  /-- No connection is made, and no request goes out. -/
  | down
  /-- Each request is given the next reply; after the last one the connection is dropped. -/
  | up (replies : List Reply)
deriving DecidableEq, Repr

structure Channel where
  line : Line
  /-- The requests that went out, in order; those made while the line was down did not. -/
  sent : List Request
deriving DecidableEq

namespace Channel

/-- The number of replies that are still to come. -/
def pending (c : Channel) : Nat :=
  match c.line with
  | .down => 0
  | .up replies => replies.length

/-- Sends a request; there is no reply where the connection fails. -/
def exchange (c : Channel) (r : Request) : Option Reply × Channel :=
  match c.line with
  | .down => (none, c)
  | .up [] => (none, { c with sent := c.sent ++ [r] })
  | .up (reply :: replies) => (some reply, ⟨.up replies, c.sent ++ [r]⟩)

theorem pending_exchange {c d : Channel} {r : Request} {reply : Reply}
    (h : c.exchange r = (some reply, d)) : d.pending + 1 = c.pending := by
  unfold exchange at h
  split at h
  · cases h
  · cases h
  · next hline => cases h; simp [pending, hline]

end Channel

inductive CallError where
  | transport (url : String)
  | status (code : Nat) (detail : String)
  | decode (url : String)
  | invalidPayload
  | file (path : String) (cause : FileError)
  | documentNotFound (base document : String)
deriving DecidableEq, Repr

def CallError.message : CallError → String
  | .transport url => "Request to '" ++ url ++ "' failed: " ++ elided
  | .status code detail => "Backend returned " ++ toString code ++ ": " ++ detail
  | .decode url => "Failed to decode response from '" ++ url ++ "': " ++ elided
  | .invalidPayload => "Invalid JSON payload: " ++ elided
  | .file path cause => "Could not read '" ++ path ++ "': " ++ cause.message
  | .documentNotFound base document =>
    "Document '" ++ document ++ "' is not in knowledge base '" ++ base ++ "'"

namespace Reply

def isSuccess (r : Reply) : Bool := 200 ≤ r.status && r.status < 300

/-- The detail of a reply that gives none. -/
def fallbackDetail : String := "API request failed"

/-- What an error reply says: its member `detail`, as it is if it is a text, else as JSON. -/
def detail (body : String) : String :=
  match (Json.parse? body).bind (·.get? "detail") with
  | none | some .null => fallbackDetail
  | some (.string s) => if s.isEmpty then Json.toText (.string s) else s
  | some v => v.toText

end Reply

end AgentFlow
