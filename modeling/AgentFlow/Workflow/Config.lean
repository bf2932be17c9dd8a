import AgentFlow.Workflow.Kind
import AgentFlow.Decimal.Notation

/-!
The configuration of a node, one shape for each kind.
-/

namespace AgentFlow

/-- How a document parser reads its documents. -/
inductive ParseMode where
  | fast
  | accurate
deriving DecidableEq, Repr, Inhabited

namespace ParseMode

def name : ParseMode → String
  | .fast => "fast"
  | .accurate => "accurate"

def ofName? (name : String) : Option ParseMode :=
  [ParseMode.fast, .accurate].find? (·.name = name)

end ParseMode

structure LlmConfig where
  model : String
  temperature : Binary64
  systemPrompt : Option String
deriving DecidableEq, Repr

namespace LlmConfig

def defaultModel : String := "gpt-4"

def defaultTemperature : Binary64 := .ofRatio false 7 10

def default : LlmConfig := ⟨defaultModel, defaultTemperature, none⟩

instance : Inhabited LlmConfig := ⟨default⟩

end LlmConfig

inductive Config where
  | start (replyTemplate : Option String)
  | finish (replyTemplate : Option String)
  | llm (settings : LlmConfig)
  | knowledge (base : Option String)
  | tool (name : Option String)
  | mcp (server : Option String)
  | docParser (mode : ParseMode)
  | vision
  | intent
deriving DecidableEq, Repr, Inhabited

namespace Config

def kind : Config → Kind
  | .start _ => .start
  | .finish _ => .finish
  | .llm _ => .llm
  | .knowledge _ => .knowledge
  | .tool _ => .tool
  | .mcp _ => .mcp
  | .docParser _ => .docParser
  | .vision => .vision
  | .intent => .intent

def defaultFor : Kind → Config
  | .start => .start none
  | .finish => .finish none
  | .llm => .llm .default
  | .knowledge => .knowledge none
  | .tool => .tool none
  | .mcp => .mcp none
  | .docParser => .docParser .fast
  | .vision => .vision
  | .intent => .intent

@[simp] theorem kind_defaultFor (k : Kind) : (defaultFor k).kind = k := by cases k <;> rfl

/-- Equality in which temperatures are compared by value. -/
def agrees : Config → Config → Bool
  | .llm a, .llm b =>
    a.model = b.model && a.temperature.sameValue b.temperature && a.systemPrompt = b.systemPrompt
  | a, b => a = b

end Config

end AgentFlow
