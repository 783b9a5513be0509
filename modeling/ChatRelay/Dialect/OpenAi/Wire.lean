import ChatRelay.Conversation.Codec.Request
import ChatRelay.Conversation.Codec.Response

/-!
# Chat completions on the wire

The requests, answers, stream chunks and errors of the chat completions interface.  Content, usage,
stop conditions and stream options have the shared form; roles, efforts and finish reasons are words
here.

Reading accepts both fields for reasoning, `reasoning_content` and `reasoning`.
-/

namespace ChatRelay.OpenAi

open Json (Reader Problem Record Access field fieldOf? orNull)

/-! ## content -/

/-- reads a part: its payload lies in a field named like its tag -/
def partOfJson (access : Access) : Reader Part := fun j => do
  let tag ← Json.tagOf access Part.tags j
  if tag = "text" then
    let r ← Record.ofTagged ["text"] j
    return .text (← r.require "text" Json.asText)
  else if tag = "image_url" then
    let r ← Record.ofTagged ["image_url"] j
    r.require "image_url" fun j => do
      let r ← Record.ofJson ["url", "detail"] j
      return .image (← r.require "url" Json.asText) (← r.get? "detail" Json.asText)
  else
    let r ← Record.ofTagged ["input_audio"] j
    r.require "input_audio" fun j => do
      let r ← Record.ofJson ["data", "format"] j
      return .audio (← r.require "data" Json.asText) (← r.require "format" Json.asText)

/-- writes a part -/
def partToJson : Part → Json
  | .text t => Json.tagged "text" (field "text" (.text t))
  | .image url detail =>
    Json.tagged "image_url"
      (field "image_url" (.object (field "url" (.text url) ++ fieldOf? "detail" detail .text)))
  | .audio data format =>
    Json.tagged "input_audio"
      (field "input_audio" (.object (field "data" (.text data) ++ field "format" (.text format))))

/-- reads content -/
def contentOfJson : Reader Content
  | .text s => .ok (.text s)
  | j => Json.held (fun j => (Json.asList (partOfJson .held) j).map .parts) j

/-- writes content -/
def contentToJson : Content → Json
  | .text t => .text t
  | .parts ps => Json.ofList partToJson ps

/-! ## messages -/

/-- a tool call of a whole message -/
structure Call where
  id : String
  kind : String := "function"
  name : String
  arguments : String := ""
  deriving DecidableEq, Repr

/-- a message of a request or of an answer -/
structure Message where
  role : String
  content : Option Content := none
  name : Option String := none
  toolCalls : Option (List Call) := none
  toolCallId : Option String := none
  reasoningContent : Option String := none
  reasoning : Option String := none
  refusal : Option String := none
  deriving DecidableEq, Repr

namespace Call

/-- reads the name and arguments of a call -/
def functionOfJson : Reader (String × String) := fun j => do
  let r ← Record.ofJson ["name", "arguments"] j
  return (← r.require "name" Json.asText, ← r.getD "arguments" "" Json.asText)

/-- reads a tool call -/
def ofJson : Reader Call := fun j => do
  let r ← Record.ofJson ["id", "type", "function"] j
  let id ← r.require "id" Json.asText
  let kind ← r.getD "type" "function" Json.asText
  let (name, arguments) ← r.require "function" functionOfJson
  return { id, kind, name, arguments }

/-- writes a tool call -/
def toJson (c : Call) : Json :=
  .object (field "id" (.text c.id) ++ field "type" (.text c.kind)
    ++ field "function"
        (.object (field "name" (.text c.name) ++ field "arguments" (.text c.arguments))))

end Call

namespace Message

/-- the fields of a message -/
def names : List String :=
  ["role", "content", "name", "tool_calls", "tool_call_id", "reasoning_content", "reasoning",
    "refusal"]

/-- reads a message -/
def ofJson : Reader Message := fun j => do
  let r ← Record.ofJson names j
  let role ← r.require "role" Json.asText
  let content ← r.get? "content" contentOfJson
  let name ← r.get? "name" Json.asText
  let toolCalls ← r.get? "tool_calls" (Json.asList Call.ofJson)
  let toolCallId ← r.get? "tool_call_id" Json.asText
  let reasoningContent ← r.get? "reasoning_content" Json.asText
  let reasoning ← r.get? "reasoning" Json.asText
  let refusal ← r.get? "refusal" Json.asText
  return { role, content, name, toolCalls, toolCallId, reasoningContent, reasoning, refusal }

/-- writes a message; missing content is `null` -/
def toJson (m : Message) : Json :=
  .object (field "role" (.text m.role) ++ field "content" (orNull m.content contentToJson)
    ++ fieldOf? "name" m.name .text
    ++ fieldOf? "tool_calls" m.toolCalls (Json.ofList Call.toJson)
    ++ fieldOf? "tool_call_id" m.toolCallId .text
    ++ fieldOf? "reasoning_content" m.reasoningContent .text
    ++ fieldOf? "reasoning" m.reasoning .text
    ++ fieldOf? "refusal" m.refusal .text)

end Message

/-! ## requests -/

/-- a chat completion request -/
structure Request where
  model : String := ""
  messages : List Message := []
  temperature : Option Float := none
  topP : Option Float := none
  maxTokens : Option TokenCount := none
  maxCompletionTokens : Option TokenCount := none
  stop : Option Stop := none
  frequencyPenalty : Option Float := none
  presencePenalty : Option Float := none
  seed : Option UInt64 := none
  stream : Option Bool := none
  streamOptions : Option StreamOptions := none
  tools : Option (List ToolDefinition) := none
  toolChoice : Option Json.Value := none
  responseFormat : Option Json.Value := none
  reasoningEffort : Option String := none
  metadata : Option Json.Members := none
  user : Option String := none
  deriving DecidableEq, Repr

/-- reads a tool; its kind must be given -/
def toolOfJson : Reader ToolDefinition := fun j => do
  let r ← Record.ofJson ["type", "function"] j
  let kind ← r.require "type" Json.asText
  r.require "function" (ToolDefinition.functionOfJson kind)

namespace Request

/-- the fields of a request -/
def names : List String :=
  ["model", "messages", "temperature", "top_p", "max_tokens", "max_completion_tokens", "stop",
    "frequency_penalty", "presence_penalty", "seed", "stream", "stream_options", "tools",
    "tool_choice", "response_format", "reasoning_effort", "metadata", "user"]

/-- reads a request from its fields -/
def ofRecord (r : Record) : Except Problem Request := do
  let model ← r.getD "model" "" Json.asText
  let messages ← r.getD "messages" [] (Json.asList Message.ofJson)
  let temperature ← r.get? "temperature" Json.asFloat
  let topP ← r.get? "top_p" Json.asFloat
  let maxTokens ← r.get? "max_tokens" Json.asWord32
  let maxCompletionTokens ← r.get? "max_completion_tokens" Json.asWord32
  let stop ← r.get? "stop" Stop.ofJson
  let frequencyPenalty ← r.get? "frequency_penalty" Json.asFloat
  let presencePenalty ← r.get? "presence_penalty" Json.asFloat
  let seed ← r.get? "seed" Json.asWord64
  let stream ← r.get? "stream" Json.asBool
  let streamOptions ← r.get? "stream_options" StreamOptions.ofJson
  let tools ← r.get? "tools" (Json.asList toolOfJson)
  let toolChoice ← r.get? "tool_choice" Json.asValue
  let responseFormat ← r.get? "response_format" Json.asValue
  let reasoningEffort ← r.get? "reasoning_effort" Json.asText
  let metadata ← r.get? "metadata" Json.asMembers
  let user ← r.get? "user" Json.asText
  return { model, messages, temperature, topP, maxTokens, maxCompletionTokens, stop,
           frequencyPenalty, presencePenalty, seed, stream, streamOptions, tools, toolChoice,
           responseFormat, reasoningEffort, metadata, user }

/-- reads a request -/
def ofJson : Reader Request := fun j => do ofRecord (← Record.ofJson names j)

/-- the fields of a request to be written -/
def fields (q : Request) : List (String × Json) :=
  field "model" (.text q.model)
    ++ field "messages" (Json.ofList Message.toJson q.messages)
    ++ fieldOf? "temperature" q.temperature Json.ofFloat
    ++ fieldOf? "top_p" q.topP Json.ofFloat
    ++ fieldOf? "max_tokens" q.maxTokens Json.ofWord32
    ++ fieldOf? "max_completion_tokens" q.maxCompletionTokens Json.ofWord32
    ++ fieldOf? "stop" q.stop Stop.toJson
    ++ fieldOf? "frequency_penalty" q.frequencyPenalty Json.ofFloat
    ++ fieldOf? "presence_penalty" q.presencePenalty Json.ofFloat
    ++ fieldOf? "seed" q.seed Json.ofWord64
    ++ fieldOf? "stream" q.stream .bool
    ++ fieldOf? "stream_options" q.streamOptions StreamOptions.toJson
    ++ fieldOf? "tools" q.tools (Json.ofList ToolDefinition.toJson)
    ++ fieldOf? "tool_choice" q.toolChoice (·.json)
    ++ fieldOf? "response_format" q.responseFormat (·.json)
    ++ fieldOf? "reasoning_effort" q.reasoningEffort .text
    ++ fieldOf? "metadata" q.metadata (·.toJson)
    ++ fieldOf? "user" q.user .text

/-- writes a request -/
def toJson (q : Request) : Json := .object q.fields

end Request

/-! ## answers -/

/-- one alternative of an answer -/
structure Choice where
  index : UInt32 := 0
  message : Message
  finish : Option String := none
  logprobs : Option Json.Value := none
  deriving DecidableEq, Repr

/-- a complete answer -/
structure Completion where
  id : String
  object : String := "chat.completion"
  created : UInt64 := 0
  model : String := ""
  choices : List Choice
  usage : Option Usage := none
  fingerprint : Option String := none
  serviceTier : Option String := none
  deriving DecidableEq, Repr

namespace Choice

/-- reads an alternative -/
def ofJson : Reader Choice := fun j => do
  let r ← Record.ofJson ["index", "message", "finish_reason", "logprobs"] j
  let index ← r.getD "index" 0 Json.asWord32
  let message ← r.require "message" Message.ofJson
  let finish ← r.get? "finish_reason" Json.asText
  let logprobs ← r.get? "logprobs" Json.asValue
  return { index, message, finish, logprobs }

/-- writes an alternative -/
def toJson (c : Choice) : Json :=
  .object (field "index" (Json.ofWord32 c.index) ++ field "message" c.message.toJson
    ++ field "finish_reason" (orNull c.finish .text) ++ fieldOf? "logprobs" c.logprobs (·.json))

end Choice

namespace Completion

/-- the fields of an answer or a chunk -/
def names : List String :=
  ["id", "object", "created", "model", "choices", "usage", "system_fingerprint", "service_tier"]

/-- reads an answer -/
def ofJson : Reader Completion := fun j => do
  let r ← Record.ofJson names j
  let id ← r.require "id" Json.asText
  let object ← r.getD "object" "chat.completion" Json.asText
  let created ← r.getD "created" 0 Json.asWord64
  let model ← r.getD "model" "" Json.asText
  let choices ← r.require "choices" (Json.asList Choice.ofJson)
  let usage ← r.get? "usage" Usage.ofJson
  let fingerprint ← r.get? "system_fingerprint" Json.asText
  let serviceTier ← r.get? "service_tier" Json.asText
  return { id, object, created, model, choices, usage, fingerprint, serviceTier }

/-- writes an answer -/
def toJson (p : Completion) : Json :=
  .object (field "id" (.text p.id) ++ field "object" (.text p.object)
    ++ field "created" (Json.ofWord64 p.created) ++ field "model" (.text p.model)
    ++ field "choices" (Json.ofList Choice.toJson p.choices)
    ++ fieldOf? "usage" p.usage Usage.toJson
    ++ fieldOf? "system_fingerprint" p.fingerprint .text
    ++ fieldOf? "service_tier" p.serviceTier .text)

end Completion

/-! ## chunks -/

/-- the fragment of a tool call: identifier, kind and name come with the first one only -/
structure CallFragment where
  index : UInt32 := 0
  id : Option String := none
  kind : Option String := none
  function : Option (Option String × Option String) := none
  deriving DecidableEq, Repr

/-- the fragment of a message -/
structure Delta where
  role : Option String := none
  content : Option String := none
  reasoningContent : Option String := none
  reasoning : Option String := none
  refusal : Option String := none
  toolCalls : Option (List CallFragment) := none
  deriving DecidableEq, Repr

/-- one alternative of a chunk -/
structure ChunkChoice where
  index : UInt32 := 0
  delta : Delta := {}
  finish : Option String := none
  logprobs : Option Json.Value := none
  deriving DecidableEq, Repr

/-- one chunk of a stream -/
structure Chunk where
  id : String := ""
  object : String := "chat.completion.chunk"
  created : UInt64 := 0
  model : String := ""
  choices : List ChunkChoice := []
  usage : Option Usage := none
  fingerprint : Option String := none
  serviceTier : Option String := none
  deriving DecidableEq, Repr

namespace CallFragment

/-- reads name and arguments of a fragment -/
def functionOfJson : Reader (Option String × Option String) := fun j => do
  let r ← Record.ofJson ["name", "arguments"] j
  return (← r.get? "name" Json.asText, ← r.get? "arguments" Json.asText)

/-- reads the fragment of a tool call -/
def ofJson : Reader CallFragment := fun j => do
  let r ← Record.ofJson ["index", "id", "type", "function"] j
  let index ← r.getD "index" 0 Json.asWord32
  let id ← r.get? "id" Json.asText
  let kind ← r.get? "type" Json.asText
  let function ← r.get? "function" functionOfJson
  return { index, id, kind, function }

/-- writes the fragment of a tool call -/
def toJson (c : CallFragment) : Json :=
  .object (field "index" (Json.ofWord32 c.index) ++ fieldOf? "id" c.id .text
    ++ fieldOf? "type" c.kind .text
    ++ fieldOf? "function" c.function fun (name, arguments) =>
        .object (fieldOf? "name" name .text ++ fieldOf? "arguments" arguments .text))

end CallFragment

namespace Delta

/-- the fields of a delta -/
def names : List String :=
  ["role", "content", "reasoning_content", "reasoning", "refusal", "tool_calls"]

/-- reads a delta -/
def ofJson : Reader Delta := fun j => do
  let r ← Record.ofJson names j
  let role ← r.get? "role" Json.asText
  let content ← r.get? "content" Json.asText
  let reasoningContent ← r.get? "reasoning_content" Json.asText
  let reasoning ← r.get? "reasoning" Json.asText
  let refusal ← r.get? "refusal" Json.asText
  let toolCalls ← r.get? "tool_calls" (Json.asList CallFragment.ofJson)
  return { role, content, reasoningContent, reasoning, refusal, toolCalls }

/-- writes a delta -/
def toJson (d : Delta) : Json :=
  .object (fieldOf? "role" d.role .text ++ fieldOf? "content" d.content .text
    ++ fieldOf? "reasoning_content" d.reasoningContent .text
    ++ fieldOf? "reasoning" d.reasoning .text
    ++ fieldOf? "refusal" d.refusal .text
    ++ fieldOf? "tool_calls" d.toolCalls (Json.ofList CallFragment.toJson))

end Delta

namespace ChunkChoice

/-- reads an alternative of a chunk -/
def ofJson : Reader ChunkChoice := fun j => do
  let r ← Record.ofJson ["index", "delta", "finish_reason", "logprobs"] j
  let index ← r.getD "index" 0 Json.asWord32
  let delta ← r.getD "delta" {} Delta.ofJson
  let finish ← r.get? "finish_reason" Json.asText
  let logprobs ← r.get? "logprobs" Json.asValue
  return { index, delta, finish, logprobs }

/-- writes an alternative of a chunk -/
def toJson (c : ChunkChoice) : Json :=
  .object (field "index" (Json.ofWord32 c.index) ++ field "delta" c.delta.toJson
    ++ field "finish_reason" (orNull c.finish .text) ++ fieldOf? "logprobs" c.logprobs (·.json))

end ChunkChoice

namespace Chunk

/-- reads a chunk -/
def ofJson : Reader Chunk := fun j => do
  let r ← Record.ofJson Completion.names j
  let id ← r.getD "id" "" Json.asText
  let object ← r.getD "object" "chat.completion.chunk" Json.asText
  let created ← r.getD "created" 0 Json.asWord64
  let model ← r.getD "model" "" Json.asText
  let choices ← r.getD "choices" [] (Json.asList ChunkChoice.ofJson)
  let usage ← r.get? "usage" Usage.ofJson
  let fingerprint ← r.get? "system_fingerprint" Json.asText
  let serviceTier ← r.get? "service_tier" Json.asText
  return { id, object, created, model, choices, usage, fingerprint, serviceTier }

/-- writes a chunk -/
def toJson (c : Chunk) : Json :=
  .object (field "id" (.text c.id) ++ field "object" (.text c.object)
    ++ field "created" (Json.ofWord64 c.created) ++ field "model" (.text c.model)
    ++ field "choices" (Json.ofList ChunkChoice.toJson c.choices)
    ++ fieldOf? "usage" c.usage Usage.toJson
    ++ fieldOf? "system_fingerprint" c.fingerprint .text
    ++ fieldOf? "service_tier" c.serviceTier .text)

end Chunk

/-! ## errors -/

/-- the inside of an error envelope; the code is a string or a number, as the vendor likes -/
structure ErrorDetail where
  message : String
  kind : Option String := none
  param : Option String := none
  code : Option Json.Value := none
  deriving DecidableEq, Repr

namespace ErrorDetail

/-- reads the inside of an envelope -/
def ofJson : Reader ErrorDetail := fun j => do
  let r ← Record.ofJson ["message", "type", "param", "code"] j
  let message ← r.require "message" Json.asText
  let kind ← r.get? "type" Json.asText
  let param ← r.get? "param" Json.asText
  let code ← r.get? "code" Json.asValue
  return { message, kind, param, code }

/-- reads an error envelope -/
def ofEnvelope : Reader ErrorDetail := fun j => do
  let r ← Record.ofJson ["error"] j
  r.require "error" ofJson

/-- writes an error envelope -/
def toEnvelope (e : ErrorDetail) : Json :=
  .object (field "error"
    (.object (field "message" (.text e.message) ++ field "type" (orNull e.kind .text)
      ++ field "param" (orNull e.param .text) ++ field "code" (orNull e.code (·.json)))))

end ErrorDetail
end ChatRelay.OpenAi
