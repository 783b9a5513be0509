import ChatRelay.Conversation.Codec.Response
import ChatRelay.Dialect.Anthropic.Block

/-!
# The messages interface on the wire

Requests, answers, stream events and errors of the messages interface, built from content blocks.
The events of a stream are `message_start`, blocks that start, grow and stop under an index,
`message_delta` with the stop reason, and `message_stop`; `ping` and `error` may stand anywhere.
-/

namespace ChatRelay.Anthropic

open Json (Reader Problem Record Access field fieldOf? orNull)

/-! ## requests -/

/-- the system prompt: a text, or texts -/
inductive System where
  | text (s : String)
  | blocks (texts : List String)
  deriving DecidableEq, Repr

/-- what a turn says: a text, or blocks -/
inductive Speech where
  | text (s : String)
  | blocks (bs : List Block)
  deriving DecidableEq, Repr

/-- a turn of the conversation -/
structure Message where
  role : String
  content : Speech
  deriving DecidableEq, Repr

/-- a tool the model may use -/
structure Tool where
  name : String
  description : Option String := none
  schema : Json.Value
  deriving DecidableEq, Repr

/-- which tools may be used -/
inductive Choice where
  | auto
  | any
  | tool (name : String)
  | none
  deriving DecidableEq, Repr

/-- whether to think, and how much -/
inductive Thinking where
  | enabled (budget : TokenCount)
  | disabled
  deriving DecidableEq, Repr

/-- a request; the outer part of its metadata says whether the object is there at all -/
@[ext]
structure Request where
  model : String := ""
  maxTokens : Option TokenCount := none
  system : Option System := none
  messages : List Message := []
  temperature : Option Float := none
  topP : Option Float := none
  topK : Option UInt32 := none
  stopSequences : Option (List String) := none
  stream : Option Bool := none
  tools : Option (List Tool) := none
  toolChoice : Option Choice := none
  thinking : Option Thinking := none
  metadata : Option (Option String) := none
  deriving DecidableEq, Repr

namespace System

/-- reads one text of a system prompt -/
def blockOfJson : Reader String := fun j => do
  let r ← Record.ofJson ["type", "text"] j
  let _ ← r.require "type" Json.asText
  r.require "text" Json.asText

/-- reads a system prompt -/
def ofJson : Reader System
  | .text s => .ok (.text s)
  | j => Json.held (fun j => (Json.asList blockOfJson j).map .blocks) j

/-- writes a system prompt -/
def toJson : System → Json
  | .text s => .text s
  | .blocks ts =>
    Json.ofList (fun t => .object (field "type" (.text "text") ++ field "text" (.text t))) ts

end System

namespace Speech

/-- reads what a turn says -/
def ofJson : Reader Speech
  | .text s => .ok (.text s)
  | j => Json.held (fun j => (Json.asList (Block.ofJson .held) j).map .blocks) j

/-- writes what a turn says -/
def toJson : Speech → Json
  | .text s => .text s
  | .blocks bs => Json.ofList Block.toJson bs

end Speech

namespace Message

/-- reads a turn -/
def ofJson : Reader Message := fun j => do
  let r ← Record.ofJson ["role", "content"] j
  let role ← r.require "role" Json.asText
  let content ← r.require "content" Speech.ofJson
  return { role, content }

/-- writes a turn -/
def toJson (m : Message) : Json :=
  .object (field "role" (.text m.role) ++ field "content" m.content.toJson)

end Message

namespace Tool

/-- reads a tool -/
def ofJson : Reader Tool := fun j => do
  let r ← Record.ofJson ["name", "description", "input_schema"] j
  let name ← r.require "name" Json.asText
  let description ← r.get? "description" Json.asText
  let schema ← r.require "input_schema" Json.asValue
  return { name, description, schema }

/-- writes a tool -/
def toJson (t : Tool) : Json :=
  .object (field "name" (.text t.name) ++ fieldOf? "description" t.description .text
    ++ field "input_schema" t.schema.json)

end Tool

namespace Choice

/-- the tags of tool choices -/
def tags : List String := ["auto", "any", "tool", "none"]

/-- reads a tool choice -/
def ofJson : Reader Choice := fun j => do
  let tag ← Json.tagOf .direct tags j
  if tag = "tool" then
    let r ← Record.ofTagged ["name"] j
    return .tool (← r.require "name" Json.asText)
  else
    let _ ← Record.ofTagged [] j
    if tag = "auto" then return .auto
    else if tag = "any" then return .any
    else return .none

/-- writes a tool choice -/
def toJson : Choice → Json
  | .auto => Json.tagged "auto" []
  | .any => Json.tagged "any" []
  | .tool name => Json.tagged "tool" (field "name" (.text name))
  | .none => Json.tagged "none" []

end Choice

namespace Thinking

/-- the tags of thinking -/
def tags : List String := ["enabled", "disabled"]

/-- reads whether to think -/
def ofJson : Reader Thinking := fun j => do
  let tag ← Json.tagOf .direct tags j
  if tag = "enabled" then
    let r ← Record.ofTagged ["budget_tokens"] j
    return .enabled (← r.require "budget_tokens" Json.asWord32)
  else
    let _ ← Record.ofTagged [] j
    return .disabled

/-- writes whether to think -/
def toJson : Thinking → Json
  | .enabled budget => Json.tagged "enabled" (field "budget_tokens" (Json.ofWord32 budget))
  | .disabled => Json.tagged "disabled" []

end Thinking

namespace Request

/-- the fields of a request -/
def names : List String :=
  ["model", "max_tokens", "system", "messages", "temperature", "top_p", "top_k",
    "stop_sequences", "stream", "tools", "tool_choice", "thinking", "metadata"]

/-- reads the user of the metadata -/
def userOfJson : Reader (Option String) := fun j => do
  let r ← Record.ofJson ["user_id"] j
  r.get? "user_id" Json.asText

/-- reads a request -/
def ofJson : Reader Request := fun j => do
  let r ← Record.ofJson names j
  let model ← r.getD "model" "" Json.asText
  let maxTokens ← r.get? "max_tokens" Json.asWord32
  let system ← r.get? "system" System.ofJson
  let messages ← r.getD "messages" [] (Json.asList Message.ofJson)
  let temperature ← r.get? "temperature" Json.asFloat
  let topP ← r.get? "top_p" Json.asFloat
  let topK ← r.get? "top_k" Json.asWord32
  let stopSequences ← r.get? "stop_sequences" (Json.asList Json.asText)
  let stream ← r.get? "stream" Json.asBool
  let tools ← r.get? "tools" (Json.asList Tool.ofJson)
  let toolChoice ← r.get? "tool_choice" Choice.ofJson
  let thinking ← r.get? "thinking" Thinking.ofJson
  let metadata ← r.get? "metadata" userOfJson
  return { model, maxTokens, system, messages, temperature, topP, topK, stopSequences, stream,
           tools, toolChoice, thinking, metadata }

/-- writes a request -/
def toJson (q : Request) : Json :=
  .object (field "model" (.text q.model)
    ++ fieldOf? "max_tokens" q.maxTokens Json.ofWord32
    ++ fieldOf? "system" q.system System.toJson
    ++ field "messages" (Json.ofList Message.toJson q.messages)
    ++ fieldOf? "temperature" q.temperature Json.ofFloat
    ++ fieldOf? "top_p" q.topP Json.ofFloat
    ++ fieldOf? "top_k" q.topK Json.ofWord32
    ++ fieldOf? "stop_sequences" q.stopSequences (Json.ofList .text)
    ++ fieldOf? "stream" q.stream .bool
    ++ fieldOf? "tools" q.tools (Json.ofList Tool.toJson)
    ++ fieldOf? "tool_choice" q.toolChoice Choice.toJson
    ++ fieldOf? "thinking" q.thinking Thinking.toJson
    ++ fieldOf? "metadata" q.metadata fun user => .object (fieldOf? "user_id" user .text))

end Request

/-! ## answers -/

/-- tokens used; what was read from or written to the cache is not among the input tokens -/
structure Usage where
  input : TokenCount := 0
  output : TokenCount := 0
  cacheWritten : Option TokenCount := none
  cacheRead : Option TokenCount := none
  deriving DecidableEq, Repr, Inhabited

/-- a complete answer, also the shell of one that starts a stream -/
structure Answer where
  id : String
  kind : String := "message"
  role : String := "assistant"
  content : List Block := []
  model : String := ""
  stopReason : Option String := none
  stopSequence : Option String := none
  usage : Usage := {}
  deriving DecidableEq, Repr

namespace Usage

/-- reads usage -/
def ofJson : Reader Usage := fun j => do
  let r ← Record.ofJson ["input_tokens", "output_tokens", "cache_creation_input_tokens",
    "cache_read_input_tokens"] j
  let input ← r.getD "input_tokens" 0 Json.asWord32
  let output ← r.getD "output_tokens" 0 Json.asWord32
  let cacheWritten ← r.get? "cache_creation_input_tokens" Json.asWord32
  let cacheRead ← r.get? "cache_read_input_tokens" Json.asWord32
  return { input, output, cacheWritten, cacheRead }

/-- writes usage -/
def toJson (u : Usage) : Json :=
  .object (field "input_tokens" (Json.ofWord32 u.input)
    ++ field "output_tokens" (Json.ofWord32 u.output)
    ++ fieldOf? "cache_creation_input_tokens" u.cacheWritten Json.ofWord32
    ++ fieldOf? "cache_read_input_tokens" u.cacheRead Json.ofWord32)

end Usage

namespace Answer

/-- reads an answer -/
def ofJson (access : Access) : Reader Answer := fun j => do
  let r ← Record.ofJson ["id", "type", "role", "content", "model", "stop_reason",
    "stop_sequence", "usage"] j
  let id ← r.require "id" Json.asText
  let kind ← r.getD "type" "message" Json.asText
  let role ← r.getD "role" "assistant" Json.asText
  let content ← r.getD "content" [] (Json.asList (Block.ofJson access))
  let model ← r.getD "model" "" Json.asText
  let stopReason ← r.get? "stop_reason" Json.asText
  let stopSequence ← r.get? "stop_sequence" Json.asText
  let usage ← r.getD "usage" {} Usage.ofJson
  return { id, kind, role, content, model, stopReason, stopSequence, usage }

/-- writes an answer -/
def toJson (p : Answer) : Json :=
  .object (field "id" (.text p.id) ++ field "type" (.text p.kind) ++ field "role" (.text p.role)
    ++ field "content" (Json.ofList Block.toJson p.content)
    ++ field "model" (.text p.model)
    ++ field "stop_reason" (orNull p.stopReason .text)
    ++ field "stop_sequence" (orNull p.stopSequence .text)
    ++ field "usage" p.usage.toJson)

end Answer

/-! ## errors -/

/-- the inside of an error envelope -/
structure ErrorDetail where
  kind : String
  message : String
  deriving DecidableEq, Repr

namespace ErrorDetail

/-- reads the inside of an envelope -/
def ofJson : Reader ErrorDetail := fun j => do
  let r ← Record.ofJson ["type", "message"] j
  let kind ← r.require "type" Json.asText
  let message ← r.require "message" Json.asText
  return { kind, message }

/-- reads an error envelope -/
def ofEnvelope : Reader ErrorDetail := fun j => do
  let r ← Record.ofJson ["type", "error"] j
  let _ ← r.require "type" Json.asText
  r.require "error" ofJson

/-- writes the inside of an envelope -/
def toJson (e : ErrorDetail) : Json :=
  .object (field "type" (.text e.kind) ++ field "message" (.text e.message))

/-- writes an error envelope -/
def toEnvelope (e : ErrorDetail) : Json :=
  .object (field "type" (.text "error") ++ field "error" e.toJson)

end ErrorDetail

/-! ## stream events -/

/-- how a block grows -/
inductive Delta where
  | text (s : String)
  | inputJson (fragment : String)
  | thinking (thought : String)
  | signature (sign : String)
  deriving DecidableEq, Repr

/-- how a message ends -/
structure Ending where
  stopReason : Option String := none
  stopSequence : Option String := none
  deriving DecidableEq, Repr, Inhabited

/-- an event of a stream -/
inductive Event where
  | messageStart (message : Answer)
  | blockStart (index : UInt32) (block : Block)
  | blockDelta (index : UInt32) (delta : Delta)
  | blockStop (index : UInt32)
  | messageDelta (ending : Ending) (usage : Option Usage)
  | messageStop
  | ping
  | error (detail : ErrorDetail)
  deriving DecidableEq, Repr

namespace Delta

/-- the tags of deltas -/
def tags : List String := ["text_delta", "input_json_delta", "thinking_delta", "signature_delta"]

/-- reads a delta; it is part of an event and so was set aside -/
def ofJson : Reader Delta := fun j => do
  let tag ← Json.tagOf .held tags j
  if tag = "text_delta" then
    let r ← Record.ofTagged ["text"] j
    return .text (← r.require "text" Json.asText)
  else if tag = "input_json_delta" then
    let r ← Record.ofTagged ["partial_json"] j
    return .inputJson (← r.require "partial_json" Json.asText)
  else if tag = "thinking_delta" then
    let r ← Record.ofTagged ["thinking"] j
    return .thinking (← r.require "thinking" Json.asText)
  else
    let r ← Record.ofTagged ["signature"] j
    return .signature (← r.require "signature" Json.asText)

/-- writes a delta -/
def toJson : Delta → Json
  | .text s => Json.tagged "text_delta" (field "text" (.text s))
  | .inputJson f => Json.tagged "input_json_delta" (field "partial_json" (.text f))
  | .thinking t => Json.tagged "thinking_delta" (field "thinking" (.text t))
  | .signature s => Json.tagged "signature_delta" (field "signature" (.text s))

end Delta

namespace Ending

/-- reads how a message ends -/
def ofJson : Reader Ending := fun j => do
  let r ← Record.ofJson ["stop_reason", "stop_sequence"] j
  let stopReason ← r.get? "stop_reason" Json.asText
  let stopSequence ← r.get? "stop_sequence" Json.asText
  return { stopReason, stopSequence }

/-- writes how a message ends -/
def toJson (e : Ending) : Json :=
  .object (field "stop_reason" (orNull e.stopReason .text)
    ++ field "stop_sequence" (orNull e.stopSequence .text))

end Ending

namespace Event

/-- the tags of events -/
def tags : List String :=
  ["message_start", "content_block_start", "content_block_delta", "content_block_stop",
    "message_delta", "message_stop", "ping", "error"]

/-- the name of an event, which is also its tag -/
def name : Event → String
  | .messageStart _ => "message_start"
  | .blockStart .. => "content_block_start"
  | .blockDelta .. => "content_block_delta"
  | .blockStop _ => "content_block_stop"
  | .messageDelta .. => "message_delta"
  | .messageStop => "message_stop"
  | .ping => "ping"
  | .error _ => "error"

/-- reads an event -/
def ofJson : Reader Event := fun j => do
  let tag ← Json.tagOf .direct tags j
  if tag = "message_start" then
    let r ← Record.ofTagged ["message"] j
    return .messageStart (← r.require "message" (Answer.ofJson .held))
  else if tag = "content_block_start" then
    let r ← Record.ofTagged ["index", "content_block"] j
    return .blockStart (← r.require "index" Json.asWord32)
      (← r.require "content_block" (Block.ofJson .held))
  else if tag = "content_block_delta" then
    let r ← Record.ofTagged ["index", "delta"] j
    return .blockDelta (← r.require "index" Json.asWord32) (← r.require "delta" Delta.ofJson)
  else if tag = "content_block_stop" then
    let r ← Record.ofTagged ["index"] j
    return .blockStop (← r.require "index" Json.asWord32)
  else if tag = "message_delta" then
    let r ← Record.ofTagged ["delta", "usage"] j
    return .messageDelta (← r.require "delta" Ending.ofJson) (← r.get? "usage" Usage.ofJson)
  else if tag = "error" then
    let r ← Record.ofTagged ["error"] j
    return .error (← r.require "error" ErrorDetail.ofJson)
  else
    let _ ← Record.ofTagged [] j
    if tag = "message_stop" then return .messageStop
    else return .ping

/-- writes an event -/
def toJson (e : Event) : Json :=
  Json.tagged e.name <|
    match e with
    | .messageStart message => field "message" message.toJson
    | .blockStart index block =>
      field "index" (Json.ofWord32 index) ++ field "content_block" block.toJson
    | .blockDelta index delta => field "index" (Json.ofWord32 index) ++ field "delta" delta.toJson
    | .blockStop index => field "index" (Json.ofWord32 index)
    | .messageDelta ending usage =>
      field "delta" ending.toJson ++ fieldOf? "usage" usage Usage.toJson
    | .messageStop | .ping => []
    | .error detail => field "error" detail.toJson

end Event
end ChatRelay.Anthropic
