import ChatRelay.Json.Record
import ChatRelay.Settings.Basic

/-!
# Settings from documents

Settings are read from a document in which every field must be known.

* `Settings.ofJson`  all settings;
* `RetrySettings.ofJson`, `DecoratorSettings.ofJson`  parts that stand alone as well.
-/

namespace ChatRelay

open Json (Reader Problem Record)

/-- an object all of whose fields are known, or an array, of which items beyond the fields are
passed over -/
def Json.Record.ofJsonClosed (known : List String) : Json → Except Problem Record
  | .array items => .ok ⟨known.zip items⟩
  | j => do
    let r ← Record.ofObject known j
    match r.fields.find? (·.1 ∉ known) with
    | some f => .error (.unknownField f.1)
    | none => return r

/-- a word out of several, which may be the only name in a table, with nothing under it -/
def Json.asTableWord : Reader String
  | .text s | .object [(s, .object [])] | .object [(s, .array [])] => .ok s
  | _ => .error (.expected "a word")

/-- reads an address -/
def Url.ofJson : Reader Url := fun j => do
  let s ← Json.asText j
  match Url.parse s with
  | .ok u => return u
  | .error _ => .error (.expected "an address")

/-- reads a channel -/
def ChannelSettings.ofJson : Reader ChannelSettings := fun j => do
  let r ← Record.ofJsonClosed ["name", "base_url", "api_key"] j
  let name ← r.require "name" Json.asText
  let baseUrl ← r.get? "base_url" Url.ofJson
  let apiKey ← r.get? "api_key" Json.asText
  return { name, baseUrl, apiKey }

/-- the format that a word names -/
def Dialect.ofWord? (word : String) : Option Dialect :=
  [("openai", .openAi), ("anthropic", .anthropic), ("openrouter", .openRouter)].lookup word

/-- the word that names a format -/
def Dialect.word : Dialect → String
  | .openAi => "openai"
  | .anthropic => "anthropic"
  | .openRouter => "openrouter"

theorem Dialect.ofWord?_word (d : Dialect) : Dialect.ofWord? d.word = some d := by
  cases d <;> decide

/-- reads a format -/
def Dialect.ofJson : Reader Dialect := fun j => do
  let word ← Json.asTableWord j
  match Dialect.ofWord? word with
  | some d => return d
  | none => .error (.unknownTag word)

/-- reads a backend -/
def BackendSettings.ofJson : Reader BackendSettings := fun j => do
  let r ← Record.ofJsonClosed ["format", "channels"] j
  let dialect ← r.require "format" Dialect.ofJson
  let channels ← r.getD "channels" [] (Json.asList ChannelSettings.ofJson)
  return { dialect, channels }

/-- reads when to try again -/
def RetrySettings.ofJson : Reader RetrySettings := fun j => do
  let r ← Record.ofJsonClosed ["max_retries", "retry_delay", "retryable_errors"] j
  let maxRetries ← r.getD "max_retries" 2 Json.asWord32
  let delay ← r.getD "retry_delay" "0s" Json.asText
  let retryable ← r.getD "retryable_errors" [] (Json.asList Json.asText)
  return { maxRetries, delay, retryable }

/-- reads which decorators are on -/
def DecoratorSettings.ofJson : Reader DecoratorSettings := fun j => do
  let r ← Record.ofJsonClosed
    ["default_max_tokens", "max_tokens_cap", "default_temperature", "force_stream_usage"] j
  let defaultMaxTokens ← r.get? "default_max_tokens" Json.asWord32
  let maxTokensCap ← r.get? "max_tokens_cap" Json.asWord32
  let defaultTemperature ← r.get? "default_temperature" Json.asFloat
  let forceStreamUsage ← r.getD "force_stream_usage" true Json.asBool
  return { defaultMaxTokens, maxTokensCap, defaultTemperature, forceStreamUsage }

/-- reads what the efforts stand for -/
def Budgets.ofJson : Reader Budgets := fun j => do
  let r ← Record.ofJsonClosed ["low", "medium", "high"] j
  let low ← r.getD "low" 5000 Json.asWord32
  let medium ← r.getD "medium" 15000 Json.asWord32
  let high ← r.getD "high" 30000 Json.asWord32
  return { low, medium, high }

/-- reads how a line of the log is written -/
def LogStyle.ofJson : Reader LogStyle := fun j => do
  let word ← Json.asTableWord j
  if word = "pretty" then return .pretty
  else if word = "json" then return .json
  else .error (.unknownTag word)

/-- reads what is logged and how -/
def TelemetrySettings.ofJson : Reader TelemetrySettings := fun j => do
  let r ← Record.ofJsonClosed ["log_filter", "format"] j
  let filter ← r.getD "log_filter" "info" Json.asText
  let style ← r.getD "format" .pretty LogStyle.ofJson
  return { filter, style }

/-- reads backends, each under its name -/
def backendsOfJson : Reader (List (String × BackendSettings))
  | .object fields => readFields fields
  | _ => .error (.expected "an object")
where
  /-- every field of a list as a backend under its name -/
  readFields : List (String × Json) → Except Problem (List (String × BackendSettings))
    | [] => .ok []
    | (name, j) :: fs => do
      let b ← BackendSettings.ofJson j
      let bs ← readFields fs
      return (name, b) :: bs

/-- reads all settings -/
def Settings.ofJson : Reader Settings := fun j => do
  let r ← Record.ofJsonClosed ["llm", "telemetry"] j
  let llm ← Record.ofJsonClosed ["backends", "pipeline", "decorators", "reasoning"]
    ((r.find? "llm").getD .empty)
  let backends ← llm.getD "backends" [] backendsOfJson
  let retry ← llm.getD "pipeline" {} RetrySettings.ofJson
  let decorators ← llm.getD "decorators" {} DecoratorSettings.ofJson
  let budgets ← llm.getD "reasoning" {} Budgets.ofJson
  let telemetry ← r.get? "telemetry" TelemetrySettings.ofJson
  return { backends, retry, decorators, budgets, telemetry }

end ChatRelay
