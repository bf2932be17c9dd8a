import AgentFlow.Decimal.Binary64
import AgentFlow.Json.Object
import AgentFlow.Json.Record

/-!
Hits of a search and their order.

Whether a larger score is the better one depends on the measure, so that ranking takes the
direction. Scores are sorted by the total order of the format, which also places NaNs, while a
threshold is compared by value.
-/

namespace AgentFlow

open Json (Reader)

/-- The direction in which scores improve. -/
inductive ScoreOrder where
  | higherIsBetter
  | lowerIsBetter
deriving DecidableEq, Repr, Inhabited

namespace ScoreOrder

def name : ScoreOrder → String
  | .higherIsBetter => "higher_is_better"
  | .lowerIsBetter => "lower_is_better"

def ofName? (name : String) : Option ScoreOrder :=
  [ScoreOrder.higherIsBetter, .lowerIsBetter].find? (·.name = name)

/-- Compares two scores; the better one comes first. -/
def compare (order : ScoreOrder) (a b : Binary64) : Ordering :=
  match order with
  | .higherIsBetter => b.totalCompare a
  | .lowerIsBetter => a.totalCompare b

/-- Whether a score is at least as good as a threshold. -/
def passes (order : ScoreOrder) (score threshold : Binary64) : Bool :=
  match order with
  | .higherIsBetter => threshold.atMost score
  | .lowerIsBetter => score.atMost threshold

end ScoreOrder

/-- A chunk of a document with its score. -/
structure Hit where
  id : String
  content : String
  metadata : Json.Object
  score : Binary64
deriving DecidableEq, Inhabited

namespace Hit

def toJson (h : Hit) : Json :=
  .object [("id", .string h.id), ("content", .string h.content),
    ("metadata", h.metadata.toJson), ("score", .ofBinary64 h.score)]

def reader : Reader Hit :=
  .record [["id"], ["content"], ["metadata"], ["score"]] fun d slots => do
    return {
      id := ← slots.required 0 d .string
      content := ← slots.required 1 d .string
      metadata := ← slots.defaulted 2 d .object .empty
      score := ← slots.required 3 d .binary64 }

end Hit

/-- The hits, best first; hits of equal score stay in their order. -/
def rank (order : ScoreOrder) (hits : List Hit) : List Hit :=
  hits.mergeSort fun a b => order.compare a.score b.score ≠ .gt

/-- The hits, best first, without those that do not pass the threshold. -/
def rankWithin (order : ScoreOrder) (threshold : Option Binary64) (hits : List Hit) : List Hit :=
  match threshold with
  | none => rank order hits
  | some t => (rank order hits).filter fun h => order.passes h.score t

structure SearchQuery where
  text : String
  limit : Nat
  threshold : Option Binary64
deriving DecidableEq, Repr

namespace SearchQuery

def defaultLimit : Nat := 10

def make (text : String) : SearchQuery := ⟨text, defaultLimit, none⟩

def toJson (q : SearchQuery) : Json :=
  .object <|
    [("query", .string q.text), ("top_k", .ofNat q.limit)] ++
      match q.threshold with
      | none => []
      | some t => [("score_threshold", .ofBinary64 t)]

end SearchQuery

end AgentFlow
