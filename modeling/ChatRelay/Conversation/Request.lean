import ChatRelay.Conversation.Message
import ChatRelay.Json.Value

/-!
# Requests

A request in the form shared by all dialects: conversation, sampling parameters, tools and hints.

* `Stop.ofList?`, `Stop.toList`   between lists and stop conditions;
* `Request.tokenBound`            the greater of the two bounds on generated tokens;
* `Budgets`                       how many tokens of thinking an effort stands for.
-/

namespace ChatRelay

/-- a wire format -/
inductive Dialect where
  | openAi
  | anthropic
  | openRouter
  deriving DecidableEq, Repr, Inhabited

/-- the stable identifier of a wire format -/
def Dialect.id : Dialect → String
  | .openAi => "openai/chat_completions"
  | .anthropic => "anthropic/messages"
  | .openRouter => "openrouter/chat_completions"

/-- controls of sampling and length -/
structure Params where
  temperature : Option Float := none
  topP : Option Float := none
  topK : Option UInt32 := none
  maxTokens : Option TokenCount := none
  maxCompletionTokens : Option TokenCount := none
  frequencyPenalty : Option Float := none
  presencePenalty : Option Float := none
  seed : Option UInt64 := none
  deriving DecidableEq, Repr, Inhabited

/-- when to stop: at one text, or at any of several -/
inductive Stop where
  | one (text : String)
  | several (texts : List String)
  deriving DecidableEq, Repr

namespace Stop

/-- the texts to stop at -/
def toList : Stop → List String
  | .one t => [t]
  | .several ts => ts

/-- the condition for a list of texts, none for the empty list -/
def ofList? : List String → Option Stop
  | [] => none
  | [t] => some (.one t)
  | ts => some (.several ts)

theorem toList_of_ofList? {ts : List String} {s : Stop} (h : ofList? ts = some s) :
    s.toList = ts := by
  match ts, h with
  | [_], h => cases h; rfl
  | _ :: _ :: _, h => cases h; rfl

end Stop

/-- what a stream reports besides its fragments -/
structure StreamOptions where
  includeUsage : Bool := false
  deriving DecidableEq, Repr, Inhabited

/-- how hard to think -/
inductive Effort where
  | low
  | medium
  | high
  deriving DecidableEq, Repr, Inhabited

namespace Effort

/-- the name of an effort -/
def name : Effort → String
  | .low => "low"
  | .medium => "medium"
  | .high => "high"

/-- the effort of a caller's word; `minimal` is low -/
def ofWord? (word : String) : Option Effort :=
  if word = "minimal" ∨ word = "low" then some .low
  else if word = "medium" then some .medium
  else if word = "high" then some .high
  else none

theorem ofWord?_name (e : Effort) : ofWord? e.name = some e := by cases e <;> decide

end Effort

/-- the tokens of thinking that an effort stands for -/
structure Budgets where
  low : TokenCount := 5000
  medium : TokenCount := 15000
  high : TokenCount := 30000
  deriving DecidableEq, Repr, Inhabited

namespace Budgets

/-- the budget of an effort -/
def budget (b : Budgets) : Effort → TokenCount
  | .low => b.low
  | .medium => b.medium
  | .high => b.high

/-- the least effort whose budget covers a count; high where none does -/
def effort (b : Budgets) (count : TokenCount) : Effort :=
  if count ≤ b.low then .low else if count ≤ b.medium then .medium else .high

end Budgets

/-- a tool the model may call -/
structure ToolDefinition where
  kind : String := "function"
  name : String
  description : Option String := none
  parameters : Option Json.Value := none
  strict : Option Bool := none
  deriving DecidableEq, Repr

/-- which tools may be called -/
inductive ToolMode where
  | none
  | auto
  | required
  deriving DecidableEq, Repr

/-- how tools are chosen: by a mode, or one function by name -/
inductive ToolChoice where
  | mode (mode : ToolMode)
  | function (kind name : String)
  deriving DecidableEq, Repr

/-- the choice of one function -/
def ToolChoice.named (name : String) : ToolChoice := .function "function" name

/-- a completion request -/
structure Request where
  model : String := ""
  messages : List Message := []
  params : Params := {}
  stop : Option Stop := none
  stream : Bool := false
  streamOptions : Option StreamOptions := none
  tools : Option (List ToolDefinition) := none
  toolChoice : Option ToolChoice := none
  responseFormat : Option Json.Value := none
  effort : Option Effort := none
  metadata : Json.Members := .empty
  user : Option String := none
  dialect : Option Dialect := none
  deriving DecidableEq, Repr, Inhabited

namespace Request

/-- the greater of the two bounds on generated tokens, none when neither is set -/
def tokenBound (r : Request) : Option TokenCount :=
  match r.params.maxTokens, r.params.maxCompletionTokens with
  | some a, some b => some (max a b)
  | some a, none => some a
  | none, b => b

/-- whether the last fragment of a stream should report usage -/
def includeUsage (r : Request) : Bool := r.streamOptions.any (·.includeUsage)

end Request
end ChatRelay
