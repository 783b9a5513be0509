import ChatRelay.Conversation.Message
import ChatRelay.Json.Record

/-!
# Messages as JSON

The written form of messages and their parts.  Content is a string or an array of tagged parts; a
role that is left out is the assistant's.
-/

namespace ChatRelay

open Json (Reader Problem Record Access field fieldOf?)

/-- the role of a word -/
def Role.ofWord? (word : String) : Option Role :=
  if word = "system" then some .system
  else if word = "user" then some .user
  else if word = "assistant" then some .assistant
  else if word = "tool" then some .tool
  else none

/-- the word of a role -/
def Role.word : Role → String
  | .system => "system"
  | .user => "user"
  | .assistant => "assistant"
  | .tool => "tool"

theorem Role.ofWord?_word (r : Role) : Role.ofWord? r.word = some r := by cases r <;> decide

/-- reads a role -/
def Role.ofJson : Reader Role := fun j => do
  let word ← Json.asWord j
  match Role.ofWord? word with
  | some r => return r
  | none => .error (.unknownTag word)

namespace Part

/-- the tags of parts -/
def tags : List String := ["text", "image_url", "input_audio"]

/-- reads a part -/
def ofJson (access : Access) : Reader Part := fun j => do
  let tag ← Json.tagOf access tags j
  if tag = "text" then
    let r ← Record.ofTagged ["text"] j
    return .text (← r.require "text" Json.asText)
  else if tag = "image_url" then
    let r ← Record.ofTagged ["url", "detail"] j
    return .image (← r.require "url" Json.asText) (← r.get? "detail" Json.asText)
  else
    let r ← Record.ofTagged ["data", "format"] j
    return .audio (← r.require "data" Json.asText) (← r.require "format" Json.asText)

/-- writes a part -/
def toJson : Part → Json
  | .text t => Json.tagged "text" (field "text" (.text t))
  | .image url detail =>
    Json.tagged "image_url" (field "url" (.text url) ++ fieldOf? "detail" detail .text)
  | .audio data format =>
    Json.tagged "input_audio" (field "data" (.text data) ++ field "format" (.text format))

end Part

namespace Content

/-- reads content; parts are set aside before they are read -/
def ofJson : Reader Content
  | .text s => .ok (.text s)
  | .array xs => Json.held (fun j => (Json.asList (Part.ofJson .held) j).map .parts) (.array xs)
  | _ => .error (.expected "content")

/-- writes content -/
def toJson : Content → Json
  | .text t => .text t
  | .parts ps => Json.ofList Part.toJson ps

end Content

namespace ToolCall

/-- reads the name and arguments of a call -/
def functionOfJson : Reader (String × String) := fun j => do
  let r ← Record.ofJson ["name", "arguments"] j
  return (← r.getD "name" "" Json.asText, ← r.getD "arguments" "" Json.asText)

/-- reads a tool call -/
def ofJson : Reader ToolCall := fun j => do
  let r ← Record.ofJson ["index", "id", "type", "function"] j
  let index ← r.getD "index" 0 Json.asWord32
  let id ← r.getD "id" "" Json.asText
  let kind ← r.getD "type" "function" Json.asText
  let (name, arguments) ← r.getD "function" ("", "") functionOfJson
  return { index, id, kind, name, arguments }

/-- writes a tool call -/
def toJson (c : ToolCall) : Json :=
  .object (field "index" (Json.ofWord32 c.index) ++ field "id" (.text c.id)
    ++ field "type" (.text c.kind)
    ++ field "function"
        (.object (field "name" (.text c.name) ++ field "arguments" (.text c.arguments))))

end ToolCall

namespace Message

/-- the fields of a message -/
def names : List String :=
  ["role", "content", "name", "tool_calls", "tool_call_id", "tool_call_is_error",
    "reasoning_content", "reasoning_signature"]

/-- reads a message -/
def ofJson : Reader Message := fun j => do
  let r ← Record.ofJson names j
  let role ← r.getD "role" .assistant Role.ofJson
  let content ← r.get? "content" Content.ofJson
  let name ← r.get? "name" Json.asText
  let toolCalls ← r.get? "tool_calls" (Json.asList ToolCall.ofJson)
  let toolCallId ← r.get? "tool_call_id" Json.asText
  let toolFailed ← r.get? "tool_call_is_error" Json.asBool
  let reasoning ← r.get? "reasoning_content" Json.asText
  let signature ← r.get? "reasoning_signature" Json.asText
  return { role, content, name, toolCalls, toolCallId, toolFailed, reasoning, signature }

/-- writes a message -/
def toJson (m : Message) : Json :=
  .object (field "role" (.text m.role.word) ++ fieldOf? "content" m.content Content.toJson
    ++ fieldOf? "name" m.name .text
    ++ fieldOf? "tool_calls" m.toolCalls (Json.ofList ToolCall.toJson)
    ++ fieldOf? "tool_call_id" m.toolCallId .text
    ++ fieldOf? "tool_call_is_error" m.toolFailed .bool
    ++ fieldOf? "reasoning_content" m.reasoning .text
    ++ fieldOf? "reasoning_signature" m.signature .text)

end Message
end ChatRelay
