import ChatRelay.Conversation.Codec.Message
import ChatRelay.Conversation.Response

/-!
# Responses as JSON

The written form of responses, their choices, usage and error reports.
-/

namespace ChatRelay

open Json (Reader Problem Record field fieldOf?)

namespace FinishReason

/-- reads a finish reason; every word is one -/
def ofJson : Reader FinishReason := fun j => (Json.asText j).map ofWord

/-- writes a finish reason -/
def toJson (r : FinishReason) : Json := .text r.word

end FinishReason

namespace PromptDetails

/-- reads the details of a prompt -/
def ofJson : Reader PromptDetails := fun j => do
  let r ← Record.ofJson ["cached_tokens", "cache_write_tokens"] j
  let cached ← r.getD "cached_tokens" 0 Json.asWord32
  let written ← r.get? "cache_write_tokens" Json.asWord32
  return { cached, written }

/-- writes the details of a prompt -/
def toJson (d : PromptDetails) : Json :=
  .object (field "cached_tokens" (Json.ofWord32 d.cached)
    ++ fieldOf? "cache_write_tokens" d.written Json.ofWord32)

end PromptDetails

namespace CompletionDetails

/-- reads the details of a completion -/
def ofJson : Reader CompletionDetails := fun j => do
  let r ← Record.ofJson ["reasoning_tokens"] j
  return { reasoning := ← r.getD "reasoning_tokens" 0 Json.asWord32 }

/-- writes the details of a completion -/
def toJson (d : CompletionDetails) : Json :=
  .object (field "reasoning_tokens" (Json.ofWord32 d.reasoning))

end CompletionDetails

namespace Usage

/-- the fields of usage -/
def names : List String :=
  ["prompt_tokens", "completion_tokens", "total_tokens", "prompt_tokens_details",
    "completion_tokens_details"]

/-- reads usage -/
def ofJson : Reader Usage := fun j => do
  let r ← Record.ofJson names j
  let prompt ← r.getD "prompt_tokens" 0 Json.asWord32
  let completion ← r.getD "completion_tokens" 0 Json.asWord32
  let total ← r.getD "total_tokens" 0 Json.asWord32
  let promptDetails ← r.get? "prompt_tokens_details" PromptDetails.ofJson
  let completionDetails ← r.get? "completion_tokens_details" CompletionDetails.ofJson
  return { prompt, completion, total, promptDetails, completionDetails }

/-- writes usage -/
def toJson (u : Usage) : Json :=
  .object (field "prompt_tokens" (Json.ofWord32 u.prompt)
    ++ field "completion_tokens" (Json.ofWord32 u.completion)
    ++ field "total_tokens" (Json.ofWord32 u.total)
    ++ fieldOf? "prompt_tokens_details" u.promptDetails PromptDetails.toJson
    ++ fieldOf? "completion_tokens_details" u.completionDetails CompletionDetails.toJson)

end Usage

namespace ErrorReport

/-- reads an error report -/
def ofJson : Reader ErrorReport := fun j => do
  let r ← Record.ofJson ["status", "type", "code", "message", "request_id"] j
  let status ← r.require "status" Json.asWord16
  let kind ← r.require "type" Json.asText
  let code ← r.get? "code" Json.asText
  let message ← r.require "message" Json.asText
  let requestId ← r.get? "request_id" Json.asText
  return { status, kind, code, message, requestId }

/-- writes an error report -/
def toJson (e : ErrorReport) : Json :=
  .object (field "status" (Json.ofWord16 e.status) ++ field "type" (.text e.kind)
    ++ fieldOf? "code" e.code .text ++ field "message" (.text e.message)
    ++ fieldOf? "request_id" e.requestId .text)

end ErrorReport

namespace Choice

/-- reads a choice -/
def ofJson : Reader Choice := fun j => do
  let r ← Record.ofJson ["index", "message", "delta", "finish_reason", "logprobs"] j
  let index ← r.getD "index" 0 Json.asWord32
  let message ← r.get? "message" Message.ofJson
  let delta ← r.get? "delta" Message.ofJson
  let finish ← r.get? "finish_reason" FinishReason.ofJson
  let logprobs ← r.get? "logprobs" Json.asValue
  return { index, message, delta, finish, logprobs }

/-- writes a choice -/
def toJson (c : Choice) : Json :=
  .object (field "index" (Json.ofWord32 c.index)
    ++ fieldOf? "message" c.message Message.toJson
    ++ fieldOf? "delta" c.delta Message.toJson
    ++ fieldOf? "finish_reason" c.finish FinishReason.toJson
    ++ fieldOf? "logprobs" c.logprobs (·.json))

end Choice

namespace Response

/-- the fields of a response -/
def names : List String :=
  ["id", "object", "created", "model", "choices", "usage", "system_fingerprint", "service_tier",
    "error"]

/-- reads a response -/
def ofJson : Reader Response := fun j => do
  let r ← Record.ofJson names j
  let id ← r.getD "id" "" Json.asText
  let object ← r.getD "object" "" Json.asText
  let created ← r.getD "created" 0 Json.asWord64
  let model ← r.getD "model" "" Json.asText
  let choices ← r.getD "choices" [] (Json.asList Choice.ofJson)
  let usage ← r.get? "usage" Usage.ofJson
  let fingerprint ← r.get? "system_fingerprint" Json.asText
  let serviceTier ← r.get? "service_tier" Json.asText
  let error ← r.get? "error" ErrorReport.ofJson
  return { id, object, created, model, choices, usage, fingerprint, serviceTier, error }

/-- writes a response -/
def toJson (p : Response) : Json :=
  .object (field "id" (.text p.id) ++ field "object" (.text p.object)
    ++ field "created" (Json.ofWord64 p.created) ++ field "model" (.text p.model)
    ++ field "choices" (Json.ofList Choice.toJson p.choices)
    ++ fieldOf? "usage" p.usage Usage.toJson
    ++ fieldOf? "system_fingerprint" p.fingerprint .text
    ++ fieldOf? "service_tier" p.serviceTier .text
    ++ fieldOf? "error" p.error ErrorReport.toJson)

end Response
end ChatRelay
