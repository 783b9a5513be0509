import ChatRelay.Backend.Reply
import ChatRelay.Conversation.Codec.Request
import ChatRelay.Proofs.FieldOrder

/-!
# The written form of requests and responses

What a request or a response is written as comes back as what was written: from the value that the
document means, whose fields are in the order of their keys, and from the text of an aggregated
stream.  Where a field may hold one of several forms (a text or parts, one stop or several, a mode
or a function) each form is written so that no other is read from it.  Not written is the dialect of
a request.  A free-form field that holds `null` would come back as none, and a reason that is spelt
like a named one as that one; both are left out.

* `Message.reads`, `Request.reads`, `Response.reads`   what is read from a document that was
  written, and the same for each of the types they are made of;
* `Request.Returnable`, `Response.Returnable`   which of them come back;
* `Backend.assembled`   the response that a recorded stream is aggregated from;
* `forms_return`        both, and the text of an aggregate.
-/

namespace ChatRelay

open Json

/-! ## messages -/

theorem Role.reads (r : Role) : Reads Role.ofJson (.text r.word) r := by
  refine .of_canonical rfl ?_
  simp only [Role.ofJson, asWord, r.ofWord?_word, bind, Except.bind]
  rfl

namespace Part

theorem reads (p : Part) (access : Access) : Reads (Part.ofJson access) p.toJson p := by
  intro w hw
  cases p with
  | text t =>
    obtain ⟨r, hr, htext, htag⟩ := hw.taggedText (by decide)
    simp only [ofJson, htag access tags (by decide), hr, htext, bind, Except.bind]
    rfl
  | image url detail =>
    simp only [toJson, field_eq_filled, fieldOf?_eq_filled, filled_append] at hw
    obtain ⟨r, hr, h, htag⟩ := hw.tagged ["url", "detail"] rfl (by decide)
    have hurl := h.require "url" rfl (.text url)
    have hdetail := h.text? "detail" rfl
    simp only [ofJson, htag access tags (by decide), hr, hurl, hdetail, bind, Except.bind]
    rfl
  | audio data format =>
    simp only [toJson, field_eq_filled, filled_append] at hw
    obtain ⟨r, hr, h, htag⟩ := hw.tagged ["data", "format"] rfl (by decide)
    have hdata := h.require "data" rfl (.text data)
    have hformat := h.require "format" rfl (.text format)
    simp only [ofJson, htag access tags (by decide), hr, hdata, hformat, bind, Except.bind]
    rfl

@[simp] theorem meaningful_toJson (p : Part) : p.toJson.Meaningful := by
  cases p <;> simp [toJson]

@[simp] theorem fits_toJson (p : Part) (n : Nat) : p.toJson.Fits (n + 1) := by
  cases p <;> simp [toJson]

end Part

namespace Content

theorem toJson_ne_null (c : Content) : c.toJson ≠ .null := by cases c <;> nofun

/-- a text comes back as a text, parts come back as parts -/
theorem reads (c : Content) : Reads ofJson c.toJson c := by
  cases c with
  | text t => exact .of_canonical rfl rfl
  | parts ps =>
    have hparts : Reads (asList (Part.ofJson .held)) (Content.parts ps).toJson ps :=
      .list fun p _ => p.reads .held
    intro w hw
    obtain ⟨ws, rfl, -⟩ := hw.items
    exact (hparts.map Content.parts).held _ hw

@[simp] theorem meaningful_toJson (c : Content) : c.toJson.Meaningful := by
  cases c <;> simp [toJson]

@[simp] theorem fits_toJson (c : Content) (n : Nat) : c.toJson.Fits (n + 2) := by
  cases c <;> simp [toJson]

end Content

namespace ToolCall

theorem functionReads (c : ToolCall) : Reads functionOfJson
    (.object (field "name" (.text c.name) ++ field "arguments" (.text c.arguments)))
    (c.name, c.arguments) := by
  intro w hw
  simp only [field_eq_filled, filled_append] at hw
  obtain ⟨r, hr, h⟩ := hw.record ["name", "arguments"] rfl (by decide)
  have hname := h.getD "name" "" rfl (.text c.name)
  have harguments := h.getD "arguments" "" rfl (.text c.arguments)
  simp only [functionOfJson, hr, hname, harguments, bind, Except.bind]
  rfl

theorem reads (c : ToolCall) : Reads ToolCall.ofJson c.toJson c := by
  intro w hw
  simp only [toJson, field_eq_filled, filled_append] at hw
  obtain ⟨r, hr, h⟩ := hw.record ["index", "id", "type", "function"] rfl (by decide)
  have hindex := h.getD "index" 0 rfl (.word32 c.index)
  have hid := h.getD "id" "" rfl (.text c.id)
  have hkind := h.getD "type" "function" rfl (.text c.kind)
  have hfunction := h.getD "function" ("", "") rfl c.functionReads
  simp only [ofJson, hr, hindex, hid, hkind, hfunction, bind, Except.bind]
  rfl

@[simp] theorem meaningful_toJson (c : ToolCall) : c.toJson.Meaningful := by simp [toJson]

@[simp] theorem fits_toJson (c : ToolCall) (n : Nat) : c.toJson.Fits (n + 2) := by simp [toJson]

end ToolCall

namespace Message

theorem reads (m : Message) : Reads ofJson m.toJson m := by
  intro w hw
  simp only [toJson, field_eq_filled, fieldOf?_eq_filled, filled_append] at hw
  obtain ⟨r, hr, h⟩ := hw.record names rfl (by decide)
  have hrole := h.getD "role" .assistant rfl m.role.reads
  have hcontent := h.get? "content" rfl fun c _ => ⟨c.toJson_ne_null, c.reads⟩
  have hname := h.text? "name" rfl
  have hcalls := h.get? "tool_calls" rfl fun cs _ => ⟨nofun, .list fun c _ => ToolCall.reads c⟩
  have hanswers := h.text? "tool_call_id" rfl
  have hfailed := h.bool? "tool_call_is_error" rfl
  have hreasoning := h.text? "reasoning_content" rfl
  have hsignature := h.text? "reasoning_signature" rfl
  simp only [ofJson, hr, hrole, hcontent, hname, hcalls, hanswers, hfailed, hreasoning,
    hsignature, bind, Except.bind]
  rfl

@[simp] theorem meaningful_toJson (m : Message) : m.toJson.Meaningful := by simp [toJson]

@[simp] theorem fits_toJson (m : Message) (n : Nat) : m.toJson.Fits (n + 4) := by simp [toJson]

end Message

/-! ## requests -/

/-- every number of some parameters is finite -/
structure Params.Finite (p : Params) : Prop where
  temperature : ∀ x ∈ p.temperature, x.isFinite = true
  topP : ∀ x ∈ p.topP, x.isFinite = true
  frequencyPenalty : ∀ x ∈ p.frequencyPenalty, x.isFinite = true
  presencePenalty : ∀ x ∈ p.presencePenalty, x.isFinite = true

theorem Params.reads {p : Params} (hp : p.Finite) : Reads ofJson p.toJson p := by
  intro w hw
  simp only [toJson, fieldOf?_eq_filled, filled_append] at hw
  obtain ⟨r, hr, h⟩ := hw.record names rfl (by decide)
  have htemperature := h.get? "temperature" rfl fun x hx => ⟨nofun, .float (hp.temperature x hx)⟩
  have htopP := h.get? "top_p" rfl fun x hx => ⟨nofun, .float (hp.topP x hx)⟩
  have htopK := h.word32? "top_k" rfl
  have hmax := h.word32? "max_tokens" rfl
  have hcompletion := h.word32? "max_completion_tokens" rfl
  have hfrequency := h.get? "frequency_penalty" rfl fun x hx =>
    ⟨nofun, .float (hp.frequencyPenalty x hx)⟩
  have hpresence := h.get? "presence_penalty" rfl fun x hx =>
    ⟨nofun, .float (hp.presencePenalty x hx)⟩
  have hseed := h.get? "seed" rfl fun n _ => ⟨nofun, .word64 n⟩
  simp only [ofJson, hr, htemperature, htopP, htopK, hmax, hcompletion, hfrequency, hpresence,
    hseed, bind, Except.bind]
  rfl

theorem Params.meaningful_toJson {p : Params} (hp : p.Finite) : p.toJson.Meaningful := by
  simpa [toJson] using ⟨hp.temperature, hp.topP, hp.frequencyPenalty, hp.presencePenalty⟩

namespace Stop

theorem toJson_ne_null (s : Stop) : s.toJson ≠ .null := by cases s <;> nofun

/-- one text comes back alone, several come back as a list -/
theorem reads (s : Stop) : Reads ofJson s.toJson s := by
  cases s with
  | one t => exact .of_canonical rfl rfl
  | several ts =>
    have hall : Reads (asList asText) (Stop.several ts).toJson ts := .list fun t _ => .text t
    intro w hw
    obtain ⟨ws, rfl, -⟩ := hw.items
    exact (hall.map Stop.several).held _ hw

@[simp] theorem meaningful_toJson (s : Stop) : s.toJson.Meaningful := by
  cases s <;> simp [toJson]

end Stop

theorem StreamOptions.reads (o : StreamOptions) : Reads ofJson o.toJson o := by
  intro w hw
  rw [toJson, field_eq_filled] at hw
  obtain ⟨r, hr, h⟩ := hw.record ["include_usage"] rfl (by decide)
  have husage := h.getD "include_usage" false rfl (.bool o.includeUsage)
  simp only [ofJson, hr, husage, bind, Except.bind]
  rfl

theorem Effort.reads (e : Effort) : Reads ofJson e.toJson e := by
  refine .of_canonical rfl ?_
  cases e <;> rfl

namespace ToolDefinition

/-- the schema of a tool is none, or other than `null` -/
def Present (t : ToolDefinition) : Prop := ∀ v ∈ t.parameters, v.json ≠ .null

theorem functionReads {t : ToolDefinition} (ht : t.Present) :
    Reads (functionOfJson t.kind) t.functionToJson t := by
  intro w hw
  simp only [functionToJson, field_eq_filled, fieldOf?_eq_filled, filled_append] at hw
  obtain ⟨r, hr, h⟩ := hw.record ["name", "description", "parameters", "strict"] rfl (by decide)
  have hname := h.require "name" rfl (.text t.name)
  have hdescription := h.text? "description" rfl
  have hparameters := h.get? "parameters" rfl fun v hv => ⟨ht v hv, .value v⟩
  have hstrict := h.bool? "strict" rfl
  simp only [functionOfJson, hr, hname, hdescription, hparameters, hstrict, bind, Except.bind]
  rfl

theorem reads {t : ToolDefinition} (ht : t.Present) : Reads ofJson t.toJson t := by
  intro w hw
  simp only [toJson, field_eq_filled, filled_append] at hw
  obtain ⟨r, hr, h⟩ := hw.record ["type", "function"] rfl (by decide)
  have hkind := h.getD "type" "function" rfl (.text t.kind)
  have hfunction := h.require "function" rfl (functionReads ht)
  simp only [ofJson, hr, hkind, hfunction, bind, Except.bind]

@[simp] theorem meaningful_toJson (t : ToolDefinition) : t.toJson.Meaningful := by
  simp [toJson, functionToJson]

end ToolDefinition

namespace ToolChoice

theorem toJson_ne_null (c : ToolChoice) : c.toJson ≠ .null := by cases c <;> nofun

theorem functionReads (kind name : String) :
    Reads functionOfJson (function kind name).toJson (.function kind name) := by
  intro w hw
  simp only [toJson, field_eq_filled, filled_append] at hw
  obtain ⟨r, hr, h⟩ := hw.record ["type", "function"] rfl (by decide)
  have hkind := h.getD "type" "function" rfl (.text kind)
  have hinner : Reads nameOfJson (.object (filled [("name", some (.text name))])) name := by
    intro w hw
    obtain ⟨r, hr, h⟩ := hw.record ["name"] rfl (by decide)
    have hname := h.require "name" rfl (.text name)
    simp only [nameOfJson, hr, hname, bind, Except.bind]
  have hname := h.require "function" rfl hinner
  simp only [functionOfJson, hr, hkind, hname, bind, Except.bind]
  rfl

/-- a mode comes back as a mode, a function as a function -/
theorem reads (c : ToolChoice) : Reads ofJson c.toJson c := by
  cases c with
  | mode m => exact .of_canonical rfl (ofJson_modeWord m)
  | function kind name =>
    refine .held fun w hw => ?_
    have hread := functionReads kind name w hw
    simp only [toJson, field_eq_filled, filled_append] at hw
    obtain ⟨gs, rfl, -, h⟩ := hw.object (show _ = ["type", "function"] from rfl) (by decide)
    -- the name of the function stands in an object, so this is no mode
    obtain ⟨f, hf, hgiven⟩ : ∃ f, Record.find? ⟨gs⟩ "function" = some f ∧ Given _ f :=
      h.find?_some rfl
    have hnull : f ≠ .null := fun e => nomatch hgiven.eq_null_iff.mp e
    obtain ⟨e, he⟩ := asWord_of_lookup hf hnull
    have hmode : modeOfJson (.object gs) = .error e := by rw [modeOfJson, he]; rfl
    rw [hmode]
    exact hread

@[simp] theorem meaningful_toJson (c : ToolChoice) : c.toJson.Meaningful := by
  cases c <;> simp [toJson]

end ToolChoice

namespace Request

/-- what a request must be to come back: its numbers finite, and no free-form field `null` -/
structure Returnable (q : Request) : Prop where
  params : q.params.Finite
  tools : ∀ ts ∈ q.tools, ∀ t ∈ ts, t.Present
  format : ∀ v ∈ q.responseFormat, v.json ≠ .null

theorem metadata_eq_empty {m : Members} (h : m.isEmpty = true) : m = .empty := by
  cases m with
  | mk fields canonical =>
    obtain rfl : fields = [] := List.isEmpty_iff.mp h
    rfl

/-- a request comes back, but for the dialect, which is never written -/
theorem reads {q : Request} (hq : q.Returnable) :
    Reads ofJson q.toJson { q with dialect := none } := by
  intro w hw
  simp only [toJson, field_eq_filled, unless_eq_filled, fieldOf?_eq_filled, filled_append] at hw
  obtain ⟨r, hr, h⟩ := hw.record names rfl (by decide)
  have hmodel := h.require "model" rfl (.text q.model)
  have hmessages := h.require "messages" rfl (.list fun m _ => m.reads)
  have hparams := h.getD "params" {} rfl (Params.reads hq.params)
  have hstop := h.get? "stop" rfl fun s _ => ⟨s.toJson_ne_null, s.reads⟩
  have hstream := h.getD "stream" false rfl (.bool q.stream)
  have hoptions := h.get? "stream_options" rfl fun o _ => ⟨nofun, StreamOptions.reads o⟩
  have htools := h.get? "tools" rfl fun ts hts =>
    ⟨nofun, .list fun t ht => ToolDefinition.reads (hq.tools ts hts t ht)⟩
  have hchoice := h.get? "tool_choice" rfl fun c _ => ⟨c.toJson_ne_null, c.reads⟩
  have hformat := h.get? "response_format" rfl fun v hv => ⟨hq.format v hv, .value v⟩
  have heffort := h.get? "reasoning_effort" rfl fun e _ => ⟨nofun, Effort.reads e⟩
  have hmetadata : r.getD "metadata" .empty asMembers = .ok q.metadata := by
    by_cases hempty : q.metadata.isEmpty
    · rw [if_pos hempty] at h
      rw [metadata_eq_empty hempty]
      exact h.getD_none "metadata" Members.empty rfl
    · rw [if_neg hempty] at h
      exact h.getD "metadata" Members.empty rfl (.members q.metadata)
  have huser := h.text? "user" rfl
  simp only [ofJson, hr, hmodel, hmessages, hparams, hstop, hstream, hoptions, htools, hchoice,
    hformat, heffort, hmetadata, huser, bind, Except.bind]
  rfl

theorem meaningful_toJson {q : Request} (hq : q.Returnable) : q.toJson.Meaningful := by
  simp [toJson, Params.meaningful_toJson hq.params, StreamOptions.toJson, Effort.toJson]

end Request

/-! ## responses -/

/-- a reason is one of the named ones, or a word that stands for none of them -/
def FinishReason.Proper (r : FinishReason) : Prop :=
  ∀ word, r = .other word → ofWord word = .other word

theorem FinishReason.reads {r : FinishReason} (hr : r.Proper) : Reads ofJson r.toJson r := by
  have hword : ofWord r.word = r := by
    cases r with
    | stop | length | toolCalls | contentFilter => rfl
    | other word => exact hr word rfl
  refine .of_canonical rfl ?_
  show Except.ok (ofWord r.word) = _
  rw [hword]

theorem PromptDetails.reads (d : PromptDetails) : Reads ofJson d.toJson d := by
  intro w hw
  simp only [toJson, field_eq_filled, fieldOf?_eq_filled, filled_append] at hw
  obtain ⟨r, hr, h⟩ := hw.record ["cached_tokens", "cache_write_tokens"] rfl (by decide)
  have hcached := h.getD "cached_tokens" 0 rfl (.word32 d.cached)
  have hwritten := h.word32? "cache_write_tokens" rfl
  simp only [ofJson, hr, hcached, hwritten, bind, Except.bind]
  rfl

theorem CompletionDetails.reads (d : CompletionDetails) : Reads ofJson d.toJson d := by
  intro w hw
  rw [toJson, field_eq_filled] at hw
  obtain ⟨r, hr, h⟩ := hw.record ["reasoning_tokens"] rfl (by decide)
  have hreasoning := h.getD "reasoning_tokens" 0 rfl (.word32 d.reasoning)
  simp only [ofJson, hr, hreasoning, bind, Except.bind]
  rfl

namespace Usage

theorem reads (u : Usage) : Reads ofJson u.toJson u := by
  intro w hw
  simp only [toJson, field_eq_filled, fieldOf?_eq_filled, filled_append] at hw
  obtain ⟨r, hr, h⟩ := hw.record names rfl (by decide)
  have hprompt := h.getD "prompt_tokens" 0 rfl (.word32 u.prompt)
  have hcompletion := h.getD "completion_tokens" 0 rfl (.word32 u.completion)
  have htotal := h.getD "total_tokens" 0 rfl (.word32 u.total)
  have hpromptDetails := h.get? "prompt_tokens_details" rfl fun d _ =>
    ⟨nofun, PromptDetails.reads d⟩
  have hcompletionDetails := h.get? "completion_tokens_details" rfl fun d _ =>
    ⟨nofun, CompletionDetails.reads d⟩
  simp only [ofJson, hr, hprompt, hcompletion, htotal, hpromptDetails, hcompletionDetails, bind,
    Except.bind]
  rfl

@[simp] theorem meaningful_toJson (u : Usage) : u.toJson.Meaningful := by
  simp [toJson, PromptDetails.toJson, CompletionDetails.toJson]

@[simp] theorem fits_toJson (u : Usage) (n : Nat) : u.toJson.Fits (n + 2) := by
  simp [toJson, PromptDetails.toJson, CompletionDetails.toJson]

end Usage

namespace ErrorReport

theorem reads (e : ErrorReport) : Reads ofJson e.toJson e := by
  intro w hw
  simp only [toJson, field_eq_filled, fieldOf?_eq_filled, filled_append] at hw
  obtain ⟨r, hr, h⟩ := hw.record ["status", "type", "code", "message", "request_id"] rfl
    (by decide)
  have hstatus := h.require "status" rfl (.word16 e.status)
  have hkind := h.require "type" rfl (.text e.kind)
  have hcode := h.text? "code" rfl
  have hmessage := h.require "message" rfl (.text e.message)
  have hid := h.text? "request_id" rfl
  simp only [ofJson, hr, hstatus, hkind, hcode, hmessage, hid, bind, Except.bind]
  rfl

@[simp] theorem meaningful_toJson (e : ErrorReport) : e.toJson.Meaningful := by simp [toJson]

@[simp] theorem fits_toJson (e : ErrorReport) (n : Nat) : e.toJson.Fits (n + 1) := by
  simp [toJson]

end ErrorReport

namespace Choice

/-- what a choice must be to come back: a proper reason, and no `null` for its log -/
structure Returnable (c : Choice) : Prop where
  finish : ∀ r ∈ c.finish, r.Proper
  logprobs : ∀ v ∈ c.logprobs, v.json ≠ .null

theorem reads {c : Choice} (hc : c.Returnable) : Reads ofJson c.toJson c := by
  intro w hw
  simp only [toJson, field_eq_filled, fieldOf?_eq_filled, filled_append] at hw
  obtain ⟨r, hr, h⟩ := hw.record ["index", "message", "delta", "finish_reason", "logprobs"] rfl
    (by decide)
  have hindex := h.getD "index" 0 rfl (.word32 c.index)
  have hmessage := h.get? "message" rfl fun m _ => ⟨nofun, Message.reads m⟩
  have hdelta := h.get? "delta" rfl fun m _ => ⟨nofun, Message.reads m⟩
  have hfinish := h.get? "finish_reason" rfl fun r hr =>
    ⟨nofun, FinishReason.reads (hc.finish r hr)⟩
  have hlogprobs := h.get? "logprobs" rfl fun v hv => ⟨hc.logprobs v hv, .value v⟩
  simp only [ofJson, hr, hindex, hmessage, hdelta, hfinish, hlogprobs, bind, Except.bind]
  rfl

@[simp] theorem meaningful_toJson (c : Choice) : c.toJson.Meaningful := by
  simp [toJson, FinishReason.toJson]

theorem fits_toJson {c : Choice} (hc : c.logprobs = none) (n : Nat) : c.toJson.Fits (n + 5) := by
  simp [toJson, FinishReason.toJson, hc]

end Choice

namespace Response

/-- a response comes back if each of its choices does -/
def Returnable (p : Response) : Prop := ∀ c ∈ p.choices, c.Returnable

theorem reads {p : Response} (hp : p.Returnable) : Reads ofJson p.toJson p := by
  intro w hw
  simp only [toJson, field_eq_filled, fieldOf?_eq_filled, filled_append] at hw
  obtain ⟨r, hr, h⟩ := hw.record names rfl (by decide)
  have hid := h.getD "id" "" rfl (.text p.id)
  have hobject := h.getD "object" "" rfl (.text p.object)
  have hcreated := h.getD "created" 0 rfl (.word64 p.created)
  have hmodel := h.getD "model" "" rfl (.text p.model)
  have hchoices := h.getD "choices" [] rfl (.list fun c hc => Choice.reads (hp c hc))
  have husage := h.get? "usage" rfl fun u _ => ⟨nofun, Usage.reads u⟩
  have hfingerprint := h.text? "system_fingerprint" rfl
  have htier := h.text? "service_tier" rfl
  have herror := h.get? "error" rfl fun e _ => ⟨nofun, ErrorReport.reads e⟩
  simp only [ofJson, hr, hid, hobject, hcreated, hmodel, hchoices, husage, hfingerprint, htier,
    herror, bind, Except.bind]
  rfl

@[simp] theorem meaningful_toJson (p : Response) : p.toJson.Meaningful := by simp [toJson]

theorem fits_toJson {p : Response} (hp : ∀ c ∈ p.choices, c.logprobs = none) :
    p.toJson.Fits 7 := by
  have hchoices (c : Choice) (hc : c ∈ p.choices) : c.toJson.Fits 5 :=
    Choice.fits_toJson (hp c hc) 0
  simpa [toJson] using hchoices

end Response

/-! ## aggregated responses -/

theorem Response.logprobs_assemble (chunks : List Response) :
    ∀ c ∈ (assemble chunks).choices, c.logprobs = none := by
  intro c hc
  obtain ⟨slot, -, rfl⟩ := List.mem_map.mp hc
  rfl

theorem Anthropic.logprobs_collect {now : UInt64} {events : List Event} {p : Response}
    (h : collect now events = .ok p) : ∀ c ∈ p.choices, c.logprobs = none := by
  obtain ⟨s, -, hs⟩ := ok_of_bind h
  rw [Collected.finish] at hs
  split at hs
  · exact nomatch hs
  · rw [← Except.ok.inj hs]
    exact List.forall_mem_singleton.mpr rfl

namespace Backend

/-- the response that a recorded stream is aggregated from -/
def assembled (b : Backend) (now : UInt64) (events : List ServerEvent) :
    Except Fault Response :=
  match b.dialect with
  | .anthropic => Anthropic.aggregate now events
  | .openAi | .openRouter => .ok (OpenAi.aggregate events)

theorem aggregate_eq_map (b : Backend) (now : UInt64) (events : List ServerEvent) :
    b.aggregate now events = (b.assembled now events).map .ofResponse := by
  unfold aggregate assembled
  cases b.dialect <;> rfl

theorem logprobs_assembled {b : Backend} {now : UInt64} {events : List ServerEvent}
    {p : Response} (h : b.assembled now events = .ok p) : ∀ c ∈ p.choices, c.logprobs = none := by
  unfold assembled at h
  cases hd : b.dialect with
  | anthropic =>
    rw [hd] at h
    exact Anthropic.logprobs_collect h
  | openAi | openRouter =>
    rw [hd] at h
    rw [← Except.ok.inj h]
    exact Response.logprobs_assemble _

end Backend

/-- **Written and read again.**  A request comes back from the value that it is written as, but for
its dialect, and so does a response.  A response that a recorded stream is aggregated from comes
back from the text of the aggregate. -/
theorem forms_return {q : Request} (hq : q.Returnable) {p : Response} (hp : p.Returnable) :
    (∃ v, Value.ofJson? q.toJson = some v ∧
      Request.ofJson v.json = .ok { q with dialect := none }) ∧
    (∃ v, Value.ofJson? p.toJson = some v ∧ Response.ofJson v.json = .ok p) ∧
    ∀ (b : Backend) (now : UInt64) (events : List ServerEvent),
      b.assembled now events = .ok p →
      ∃ a, b.aggregate now events = .ok a ∧ parse Response.ofJson a.body = .ok p := by
  refine ⟨?_, ?_, fun b now events h => ?_⟩
  · obtain ⟨v, hv, hgiven⟩ := (Request.meaningful_toJson hq).exists_value
    exact ⟨v, hv, Request.reads hq v.json hgiven⟩
  · obtain ⟨v, hv, hgiven⟩ := p.meaningful_toJson.exists_value
    exact ⟨v, hv, Response.reads hp v.json hgiven⟩
  · have hfits := Response.fits_toJson (Backend.logprobs_assembled h)
    refine ⟨.ofResponse p, ?_, (Response.reads hp).parse_render hfits (by decide)⟩
    rw [b.aggregate_eq_map, h]
    rfl

/-- a request with each of the forms that look alike: parts of one text, one stop in a list, the
choice of a function, a schema that is an empty object, metadata that is `null` -/
def exacting : Request where
  messages := [
    { role := .user, content := some (.parts [.text "[]"]) },
    { role := .user, content := some (.parts [.image "u" none, .audio "" "wav"]) },
    { content := some (.text ""), toolCalls := some [{ index := 4294967295, kind := "" }] },
    { role := .tool, toolCallId := some "", toolFailed := some false }]
  params := { temperature := some 0.5, topP := some 1, seed := some 18446744073709551615 }
  stop := some (.several ["end"])
  streamOptions := some {}
  tools := some [{ name := "f", parameters := some .empty }]
  toolChoice := some (.function "auto" "none")
  responseFormat := some (.ofString "json")
  effort := some .low
  metadata := ⟨[("key", .null)], rfl⟩
  dialect := some .openRouter

/-- two chunks of a stream, the second with a call, a reason of its own and the greatest count -/
def twoChunks : List ServerEvent :=
  ["\x7b\"id\":\"a\",\"created\":18446744073709551615,\"choices\":[\x7b\"index\":1,\"delta\":"
      ++ "\x7b\"content\":\"\\n\",\"reasoning_content\":\"so\"\x7d\x7d]\x7d",
    "\x7b\"choices\":[\x7b\"index\":1,\"finish_reason\":\"pause\",\"delta\":\x7b\"tool_calls\":["
      ++ "\x7b\"index\":3,\"id\":\"t\",\"function\":\x7b\"arguments\":\"\x7b\x7d\""
      ++ "\x7d\x7d]\x7d\x7d],\"usage\":\x7b\"prompt_tokens\":4294967295\x7d\x7d"
  ].map fun data => { data }

/-- what the two chunks add up to -/
def gathered : Response where
  id := "a"
  object := "chat.completion"
  created := 18446744073709551615
  choices := [{
    index := 1
    message := some {
      content := some (.text "\n")
      toolCalls := some [{ index := 3, id := "t", arguments := "\x7b\x7d" }]
      reasoning := some "so" }
    finish := some (.other "pause") }]
  usage := some { prompt := 4294967295, total := 4294967295 }

theorem forms_return_exacting :
    let b : Backend := { dialect := .openAi, channels := [] }
    exacting.Returnable ∧ gathered.Returnable ∧ b.assembled 0 twoChunks = .ok gathered ∧
    (∃ v, Value.ofJson? exacting.toJson = some v ∧
      Request.ofJson v.json = .ok { exacting with dialect := none }) ∧
    (∃ v, Value.ofJson? gathered.toJson = some v ∧ Response.ofJson v.json = .ok gathered) ∧
    ∃ a, b.aggregate 0 twoChunks = .ok a ∧ parse Response.ofJson a.body = .ok gathered := by
  intro b
  have hq : exacting.Returnable := by
    refine ⟨⟨?_, ?_, nofun, nofun⟩, ?_, ?_⟩
    · rintro x ⟨⟩
      decide +kernel
    · rintro x ⟨⟩
      decide +kernel
    · rintro ts ⟨⟩ t ht v hv
      obtain rfl := List.mem_singleton.mp ht
      cases hv
      exact nofun
    · rintro v ⟨⟩
      exact nofun
  have hp : gathered.Returnable := by
    intro c hc
    obtain rfl := List.mem_singleton.mp hc
    refine ⟨?_, nofun⟩
    rintro r ⟨⟩ word ⟨⟩
    decide
  have hgathered : b.assembled 0 twoChunks = .ok gathered := by decide +kernel
  obtain ⟨hrequest, hresponse, haggregate⟩ := forms_return hq hp
  exact ⟨hq, hp, hgathered, hrequest, hresponse, haggregate b 0 twoChunks hgathered⟩

end ChatRelay
