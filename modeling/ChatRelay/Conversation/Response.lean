import ChatRelay.Conversation.Message
import ChatRelay.Json.Value

/-!
# Responses

A response in the form shared by all dialects; it is also each fragment of a stream.  A stream ends
with a marker, the response whose object is `[DONE]`.

* `FinishReason.ofWord`, `FinishReason.word`  the wire words, unknown ones kept as they are;
* `Usage.merge`, `Usage.merge?`               usage of an earlier report joined with a later one;
* `Response.done`, `Response.isDone`          the end marker.
-/

namespace ChatRelay

/-- the `object` of the end marker -/
def doneMarker : String := "[DONE]"

/-- why the model stopped -/
inductive FinishReason where
  | stop
  | length
  | toolCalls
  | contentFilter
  | other (word : String)
  deriving DecidableEq, Repr

namespace FinishReason

/-- the wire word of a reason -/
def word : FinishReason → String
  | .stop => "stop"
  | .length => "length"
  | .toolCalls => "tool_calls"
  | .contentFilter => "content_filter"
  | .other w => w

/-- the reason of a wire word -/
def ofWord (w : String) : FinishReason :=
  if w = "stop" then .stop
  else if w = "length" then .length
  else if w = "tool_calls" ∨ w = "function_call" then .toolCalls
  else if w = "content_filter" then .contentFilter
  else .other w

end FinishReason

/-- what the tokens of the prompt were -/
structure PromptDetails where
  cached : TokenCount := 0
  written : Option TokenCount := none
  deriving DecidableEq, Repr, Inhabited

/-- what the tokens of the completion were -/
structure CompletionDetails where
  reasoning : TokenCount := 0
  deriving DecidableEq, Repr, Inhabited

/-- tokens used -/
structure Usage where
  prompt : TokenCount := 0
  completion : TokenCount := 0
  total : TokenCount := 0
  promptDetails : Option PromptDetails := none
  completionDetails : Option CompletionDetails := none
  deriving DecidableEq, Repr, Inhabited

namespace Usage

/-- usage with its total -/
def ofCounts (prompt completion : TokenCount) : Usage :=
  { prompt, completion, total := prompt.plus completion }

/-- the first count unless it is zero, then the second -/
def firstCount (a b : TokenCount) : TokenCount := if 0 < a then a else b

/-- usage reported earlier joined with usage reported later: the prompt of the earlier report and
the completion of the later one, a zero giving way to the other side -/
def merge (earlier later : Usage) : Usage :=
  let prompt := firstCount earlier.prompt later.prompt
  let completion := firstCount later.completion earlier.completion
  { prompt
    completion
    total := prompt.plus completion
    promptDetails := earlier.promptDetails.or later.promptDetails
    completionDetails := later.completionDetails.or earlier.completionDetails }

/-- `merge` where either report may be missing -/
def merge? : Option Usage → Option Usage → Option Usage
  | some a, some b => some (a.merge b)
  | some a, none => some a
  | none, b => b

@[simp] theorem merge?_none_left (u : Option Usage) : merge? none u = u := rfl
@[simp] theorem merge?_none_right (u : Option Usage) : merge? u none = u := by cases u <;> rfl

/-- prompt tokens served from the cache -/
def cached (u : Usage) : TokenCount := (u.promptDetails.map (·.cached)).getD 0

/-- prompt tokens written to the cache -/
def written (u : Usage) : TokenCount := (u.promptDetails.bind (·.written)).getD 0

end Usage

/-- an error in the form shared by all dialects -/
structure ErrorReport where
  status : UInt16
  kind : String
  code : Option String := none
  message : String
  requestId : Option String := none
  deriving DecidableEq, Repr, Inhabited

/-- the report on one line -/
def ErrorReport.display (e : ErrorReport) : String := s!"{e.kind} ({e.status}): {e.message}"

/-- one of several alternative answers: a whole message, or a fragment of one -/
structure Choice where
  index : UInt32 := 0
  message : Option Message := none
  delta : Option Message := none
  finish : Option FinishReason := none
  logprobs : Option Json.Value := none
  deriving DecidableEq, Repr, Inhabited

namespace Choice

/-- the fragment, or else the message -/
def fragment? (c : Choice) : Option Message := c.delta.or c.message

/-- the message, or else the fragment -/
def message? (c : Choice) : Option Message := c.message.or c.delta

end Choice

/-- a completion response, or a fragment of one -/
structure Response where
  id : String := ""
  object : String := ""
  created : UInt64 := 0
  model : String := ""
  choices : List Choice := []
  usage : Option Usage := none
  fingerprint : Option String := none
  serviceTier : Option String := none
  error : Option ErrorReport := none
  deriving DecidableEq, Repr, Inhabited

namespace Response

/-- the end marker of a stream -/
def done : Response := { object := doneMarker }

/-- whether a response is the end marker -/
def isDone (r : Response) : Bool := r.object = doneMarker

@[simp] theorem isDone_done : isDone done = true := rfl

end Response
end ChatRelay
