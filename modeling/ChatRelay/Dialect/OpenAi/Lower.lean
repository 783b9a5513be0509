import ChatRelay.Ambient
import ChatRelay.Dialect.OpenAi.Lift

/-!
# From the shared form to chat completions

The two vendors of this interface differ in the field that carries reasoning (`ReasoningField`);
everything else is written alike.  Reasoning is never sent to a backend.

* `lowerRequest`   a request for a backend;
* `renderResponse` a complete answer for a caller;
* `renderChunk`    a stream chunk for a caller;
* `renderError`    an error envelope.
-/

namespace ChatRelay.OpenAi

/-- the field that carries reasoning -/
inductive ReasoningField where
  | reasoningContent
  | reasoning
  deriving DecidableEq, Repr

namespace ReasoningField

/-- the text if the field is `reasoning_content` -/
def contentPart (f : ReasoningField) (text : Option String) : Option String :=
  if f = .reasoningContent then text else none

/-- the text if the field is `reasoning` -/
def plainPart (f : ReasoningField) (text : Option String) : Option String :=
  if f = .reasoning then text else none

end ReasoningField

/-! ## requests -/

/-- a tool call of a message to be written -/
def lowerCall (c : ToolCall) : Call :=
  { id := c.id, kind := c.kind, name := c.name, arguments := c.arguments }

/-- a message of a request -/
def lowerMessage (m : ChatRelay.Message) : Message :=
  { role := m.role.word
    content := m.content.map collapse
    name := m.name
    toolCalls := m.toolCalls.map (·.map lowerCall)
    toolCallId := m.toolCallId }

/-- a request; stream options are sent with streams only -/
def lowerRequest (q : ChatRelay.Request) : Request :=
  { model := q.model
    messages := q.messages.map lowerMessage
    temperature := q.params.temperature
    topP := q.params.topP
    maxTokens := q.params.maxTokens
    maxCompletionTokens := q.params.maxCompletionTokens
    stop := q.stop
    frequencyPenalty := q.params.frequencyPenalty
    presencePenalty := q.params.presencePenalty
    seed := q.params.seed
    stream := if q.stream then some true else none
    streamOptions := if q.stream then q.streamOptions else none
    tools := q.tools
    toolChoice := q.toolChoice.bind fun c => Json.Value.ofJson? c.toJson
    responseFormat := q.responseFormat
    reasoningEffort := q.effort.map Effort.name
    metadata := if q.metadata.isEmpty then none else some q.metadata
    user := q.user }

/-! ## answers -/

/-- nothing where a text is empty -/
def nonEmpty (s : String) : Option String := if s = "" then none else some s

/-- nothing where a list is empty -/
def nonEmptyList {α : Type} : List α → Option (List α)
  | [] => none
  | as => some as

/-- an assistant's message; a turn that only calls tools has no content -/
def renderMessage (f : ReasoningField) (m : ChatRelay.Message) : Message :=
  let reasoning := m.reasoning.bind nonEmpty
  let toolCalls := (m.toolCalls.bind nonEmptyList).map (·.map lowerCall)
  let text := m.plainText
  { role := "assistant"
    content := if text ≠ "" ∨ toolCalls.isNone then some (.text text) else none
    toolCalls
    reasoningContent := f.contentPart reasoning
    reasoning := f.plainPart reasoning }

/-- one alternative of an answer -/
def renderChoice (f : ReasoningField) (c : ChatRelay.Choice) : Choice :=
  { index := c.index
    message := (c.message?.map (renderMessage f)).getD { role := "assistant" }
    finish := c.finish.map FinishReason.word
    logprobs := c.logprobs }

/-- a complete answer, with an identifier and a time of its own where the backend gave none -/
def renderResponse (a : Ambient) (f : ReasoningField) (p : Response) : Completion :=
  { id := if p.id = "" then a.identifier "chatcmpl-" 0 else p.id
    object := "chat.completion"
    created := if 0 < p.created then p.created else a.now
    model := p.model
    choices := p.choices.map (renderChoice f)
    usage := p.usage
    fingerprint := p.fingerprint
    serviceTier := p.serviceTier }

/-! ## chunks -/

/-- the fragment of a tool call; the kind goes with the identifier -/
def renderFragment (c : ToolCall) : CallFragment :=
  { index := c.index
    id := nonEmpty c.id
    kind := if c.id = "" then none else some c.kind
    function := some (nonEmpty c.name, some c.arguments) }

/-- the fragment of a message -/
def renderDelta (f : ReasoningField) (m : ChatRelay.Message) : Delta :=
  { role := some "assistant"
    content := m.content.map Content.plainText
    reasoningContent := f.contentPart m.reasoning
    reasoning := f.plainPart m.reasoning
    toolCalls := (m.toolCalls.bind nonEmptyList).map (·.map renderFragment) }

/-- one alternative of a chunk -/
def renderChunkChoice (f : ReasoningField) (c : ChatRelay.Choice) : ChunkChoice :=
  { index := c.index
    delta := (c.fragment?.map (renderDelta f)).getD {}
    finish := c.finish.map FinishReason.word
    logprobs := c.logprobs }

/-- a stream chunk -/
def renderChunk (f : ReasoningField) (p : Response) : Chunk :=
  { id := p.id
    object := "chat.completion.chunk"
    created := p.created
    model := p.model
    choices := p.choices.map (renderChunkChoice f)
    usage := p.usage
    fingerprint := p.fingerprint
    serviceTier := p.serviceTier }

/-! ## errors -/

/-- the inside of the envelope of an error -/
def renderError (e : ErrorReport) : ErrorDetail :=
  { message := e.message
    kind := some e.kind
    code := e.code.map Json.Value.ofString }

end ChatRelay.OpenAi
