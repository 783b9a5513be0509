import ChatRelay.Conversation.Codec.Message
import ChatRelay.Conversation.Request

/-!
# Requests as JSON

The written form of requests.  Optional fields that are not set are left out, the dialect is never
written.
-/

namespace ChatRelay

open Json (Reader Problem Record field fieldOf?)

namespace Params

/-- the fields of the parameters -/
def names : List String :=
  ["temperature", "top_p", "top_k", "max_tokens", "max_completion_tokens", "frequency_penalty",
    "presence_penalty", "seed"]

/-- reads parameters -/
def ofJson : Reader Params := fun j => do
  let r ← Record.ofJson names j
  let temperature ← r.get? "temperature" Json.asFloat
  let topP ← r.get? "top_p" Json.asFloat
  let topK ← r.get? "top_k" Json.asWord32
  let maxTokens ← r.get? "max_tokens" Json.asWord32
  let maxCompletionTokens ← r.get? "max_completion_tokens" Json.asWord32
  let frequencyPenalty ← r.get? "frequency_penalty" Json.asFloat
  let presencePenalty ← r.get? "presence_penalty" Json.asFloat
  let seed ← r.get? "seed" Json.asWord64
  return { temperature, topP, topK, maxTokens, maxCompletionTokens, frequencyPenalty,
           presencePenalty, seed }

/-- writes parameters -/
def toJson (p : Params) : Json :=
  .object (fieldOf? "temperature" p.temperature Json.ofFloat
    ++ fieldOf? "top_p" p.topP Json.ofFloat
    ++ fieldOf? "top_k" p.topK Json.ofWord32
    ++ fieldOf? "max_tokens" p.maxTokens Json.ofWord32
    ++ fieldOf? "max_completion_tokens" p.maxCompletionTokens Json.ofWord32
    ++ fieldOf? "frequency_penalty" p.frequencyPenalty Json.ofFloat
    ++ fieldOf? "presence_penalty" p.presencePenalty Json.ofFloat
    ++ fieldOf? "seed" p.seed Json.ofWord64)

end Params

namespace Stop

/-- reads a stop condition -/
def ofJson : Reader Stop
  | .text s => .ok (.one s)
  | j => Json.held (fun j => (Json.asList Json.asText j).map .several) j

/-- writes a stop condition -/
def toJson : Stop → Json
  | .one t => .text t
  | .several ts => Json.ofList .text ts

end Stop

namespace StreamOptions

/-- reads stream options -/
def ofJson : Reader StreamOptions := fun j => do
  let r ← Record.ofJson ["include_usage"] j
  return { includeUsage := ← r.getD "include_usage" false Json.asBool }

/-- writes stream options -/
def toJson (o : StreamOptions) : Json := .object (field "include_usage" (.bool o.includeUsage))

end StreamOptions

namespace Effort

/-- reads an effort -/
def ofJson : Reader Effort := fun j => do
  let word ← Json.asWord j
  if word = "low" then return .low
  else if word = "medium" then return .medium
  else if word = "high" then return .high
  else .error (.unknownTag word)

/-- writes an effort -/
def toJson (e : Effort) : Json := .text e.name

end Effort

namespace ToolDefinition

/-- reads what follows the kind of a tool -/
def functionOfJson (kind : String) : Reader ToolDefinition := fun j => do
  let r ← Record.ofJson ["name", "description", "parameters", "strict"] j
  let name ← r.require "name" Json.asText
  let description ← r.get? "description" Json.asText
  let parameters ← r.get? "parameters" Json.asValue
  let strict ← r.get? "strict" Json.asBool
  return { kind, name, description, parameters, strict }

/-- reads a tool -/
def ofJson : Reader ToolDefinition := fun j => do
  let r ← Record.ofJson ["type", "function"] j
  let kind ← r.getD "type" "function" Json.asText
  r.require "function" (functionOfJson kind)

/-- writes what follows the kind of a tool -/
def functionToJson (t : ToolDefinition) : Json :=
  .object (field "name" (.text t.name) ++ fieldOf? "description" t.description .text
    ++ fieldOf? "parameters" t.parameters (·.json) ++ fieldOf? "strict" t.strict .bool)

/-- writes a tool -/
def toJson (t : ToolDefinition) : Json :=
  .object (field "type" (.text t.kind) ++ field "function" t.functionToJson)

end ToolDefinition

namespace ToolChoice

/-- the mode of a word -/
def modeOfWord? (word : String) : Option ToolMode :=
  if word = "none" then some .none
  else if word = "auto" then some .auto
  else if word = "required" then some .required
  else none

/-- the word of a mode -/
def modeWord : ToolMode → String
  | .none => "none"
  | .auto => "auto"
  | .required => "required"

/-- reads a mode -/
def modeOfJson : Reader ToolMode := fun j => do
  let word ← Json.asWord j
  match modeOfWord? word with
  | some m => return m
  | none => .error (.unknownTag word)

/-- reads the name of a function -/
def nameOfJson : Reader String := fun j => do
  let r ← Record.ofJson ["name"] j
  r.require "name" Json.asText

/-- reads the choice of one function -/
def functionOfJson : Reader ToolChoice := fun j => do
  let r ← Record.ofJson ["type", "function"] j
  let kind ← r.getD "type" "function" Json.asText
  let name ← r.require "function" nameOfJson
  return .function kind name

/-- reads a tool choice; it is set aside and tried as a mode before it is tried as a function -/
def ofJson : Reader ToolChoice := Json.held fun j =>
  match modeOfJson j with
  | .ok m => .ok (.mode m)
  | .error _ => functionOfJson j

theorem ofJson_modeWord (m : ToolMode) : ofJson (.text (modeWord m)) = .ok (.mode m) := by
  cases m <;> rfl

/-- writes a tool choice -/
def toJson : ToolChoice → Json
  | .mode m => .text (modeWord m)
  | .function kind name =>
    .object (field "type" (.text kind) ++ field "function" (.object (field "name" (.text name))))

end ToolChoice

namespace Request

/-- the fields of a request -/
def names : List String :=
  ["model", "messages", "params", "stop", "stream", "stream_options", "tools", "tool_choice",
    "response_format", "reasoning_effort", "metadata", "user"]

/-- reads a request -/
def ofJson : Reader Request := fun j => do
  let r ← Record.ofJson names j
  let model ← r.require "model" Json.asText
  let messages ← r.require "messages" (Json.asList Message.ofJson)
  let params ← r.getD "params" {} Params.ofJson
  let stop ← r.get? "stop" Stop.ofJson
  let stream ← r.getD "stream" false Json.asBool
  let streamOptions ← r.get? "stream_options" StreamOptions.ofJson
  let tools ← r.get? "tools" (Json.asList ToolDefinition.ofJson)
  let toolChoice ← r.get? "tool_choice" ToolChoice.ofJson
  let responseFormat ← r.get? "response_format" Json.asValue
  let effort ← r.get? "reasoning_effort" Effort.ofJson
  let metadata ← r.getD "metadata" .empty Json.asMembers
  let user ← r.get? "user" Json.asText
  return { model, messages, params, stop, stream, streamOptions, tools, toolChoice,
           responseFormat, effort, metadata, user }

/-- writes a request -/
def toJson (q : Request) : Json :=
  .object (field "model" (.text q.model)
    ++ field "messages" (Json.ofList Message.toJson q.messages)
    ++ field "params" q.params.toJson
    ++ fieldOf? "stop" q.stop Stop.toJson
    ++ field "stream" (.bool q.stream)
    ++ fieldOf? "stream_options" q.streamOptions StreamOptions.toJson
    ++ fieldOf? "tools" q.tools (Json.ofList ToolDefinition.toJson)
    ++ fieldOf? "tool_choice" q.toolChoice ToolChoice.toJson
    ++ fieldOf? "response_format" q.responseFormat (·.json)
    ++ fieldOf? "reasoning_effort" q.effort Effort.toJson
    ++ (if q.metadata.isEmpty then [] else field "metadata" q.metadata.toJson)
    ++ fieldOf? "user" q.user .text)

end Request
end ChatRelay
