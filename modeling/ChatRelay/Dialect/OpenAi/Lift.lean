import ChatRelay.Dialect.OpenAi.Wire
import ChatRelay.Fault

/-!
# From chat completions to the shared form

* `Request.lift`     a request; an unknown role, effort or tool choice is a fault;
* `Completion.lift`  a complete answer; a refusal without content counts as filtered text;
* `Chunk.lift`       a stream chunk, which always has a shared form;
* `readError`        an error body laid over the report of its status.
-/

namespace ChatRelay.OpenAi

/-- content with a text part alone as plain text -/
def collapse : Content → Content
  | .text t => .text t
  | .parts ps => .ofParts ps

/-- the role of a message; developers speak as the system, functions as tools -/
def liftRole (word : String) : Except RequestFault Role :=
  if word = "system" ∨ word = "developer" then .ok .system
  else if word = "user" then .ok .user
  else if word = "assistant" then .ok .assistant
  else if word = "tool" ∨ word = "function" then .ok .tool
  else .error (.role word)

/-- tool calls with their positions as indices -/
def liftCalls (calls : List Call) : List ToolCall :=
  calls.mapIdx fun i c =>
    { index := UInt32.ofNat i, id := c.id, kind := c.kind, name := c.name,
      arguments := c.arguments }

/-- the shared form of a message; a refusal stands in for missing content -/
def Message.lift (m : Message) : Except RequestFault ChatRelay.Message := do
  let role ← liftRole m.role
  return {
    role
    content := (m.content.map collapse).or (m.refusal.map .text)
    name := m.name
    toolCalls := m.toolCalls.map liftCalls
    toolCallId := m.toolCallId
    reasoning := m.reasoningContent.or m.reasoning }

/-- every message of a list in its shared form; the first fault ends it -/
def liftMessages : List Message → Except RequestFault (List ChatRelay.Message)
  | [] => .ok []
  | m :: ms => do
    let x ← m.lift
    let xs ← liftMessages ms
    return x :: xs

/-- the tool choice a value says -/
def liftToolChoice : Option Json.Value → Except RequestFault (Option ToolChoice)
  | none => .ok none
  | some v =>
    match ToolChoice.ofJson v.json with
    | .ok c => .ok (some c)
    | .error p => .error (.toolChoice p)

/-- the effort a word says -/
def liftEffort : Option String → Except RequestFault (Option Effort)
  | none => .ok none
  | some w =>
    match Effort.ofWord? w with
    | some e => .ok (some e)
    | none => .error (.effortField w)

/-- the shared form of a request -/
def Request.lift (q : Request) : Except RequestFault ChatRelay.Request := do
  let messages ← liftMessages q.messages
  let toolChoice ← liftToolChoice q.toolChoice
  let effort ← liftEffort q.reasoningEffort
  return {
    model := q.model
    messages
    params := {
      temperature := q.temperature
      topP := q.topP
      maxTokens := q.maxTokens
      maxCompletionTokens := q.maxCompletionTokens
      frequencyPenalty := q.frequencyPenalty
      presencePenalty := q.presencePenalty
      seed := q.seed }
    stop := q.stop
    stream := q.stream.getD false
    streamOptions := q.streamOptions
    tools := q.tools
    toolChoice
    responseFormat := q.responseFormat
    effort
    metadata := q.metadata.getD .empty
    user := q.user }

/-- usage with its total filled in where the backend gave none -/
def liftUsage (u : Usage) : Usage :=
  if 0 < u.total then u else { u with total := u.prompt.plus u.completion }

/-- one alternative of an answer in the shared form -/
def Choice.lift (c : Choice) : Except TransformFault ChatRelay.Choice :=
  match c.message.lift with
  | .error cause => .error (.choice c.index cause)
  | .ok m =>
    let finish := c.finish.map FinishReason.ofWord
    let refused := c.message.content.isNone && c.message.refusal.isSome
    .ok {
      index := c.index
      message := some { m with role := .assistant }
      finish := if refused && finish.isNone then some .contentFilter else finish
      logprobs := c.logprobs }

/-- every alternative of a list; the first fault ends it -/
def liftChoices : List Choice → Except TransformFault (List ChatRelay.Choice)
  | [] => .ok []
  | c :: cs => do
    let x ← c.lift
    let xs ← liftChoices cs
    return x :: xs

/-- the shared form of a complete answer -/
def Completion.lift (p : Completion) : Except TransformFault Response := do
  let choices ← liftChoices p.choices
  return {
    id := p.id
    object := p.object
    created := p.created
    model := p.model
    choices
    usage := p.usage.map liftUsage
    fingerprint := p.fingerprint
    serviceTier := p.serviceTier }

/-- the role of a fragment, the assistant's unless it says otherwise -/
def liftDeltaRole (word : Option String) : Role :=
  if word = some "user" then .user
  else if word = some "tool" then .tool
  else if word = some "system" then .system
  else .assistant

/-- the fragment of a tool call in the shared form -/
def CallFragment.lift (c : CallFragment) : ToolCall :=
  let (name, arguments) := c.function.getD (none, none)
  { index := c.index
    id := c.id.getD ""
    kind := c.kind.getD "function"
    name := name.getD ""
    arguments := arguments.getD "" }

/-- the fragment of a message in the shared form -/
def Delta.lift (d : Delta) : ChatRelay.Message :=
  { role := liftDeltaRole d.role
    content := (d.content.or d.refusal).map .text
    toolCalls := d.toolCalls.map (·.map CallFragment.lift)
    reasoning := d.reasoningContent.or d.reasoning }

/-- one alternative of a chunk in the shared form -/
def ChunkChoice.lift (c : ChunkChoice) : ChatRelay.Choice :=
  { index := c.index
    delta := some c.delta.lift
    finish := c.finish.map FinishReason.ofWord
    logprobs := c.logprobs }

/-- a chunk in the shared form -/
def Chunk.lift (c : Chunk) : Response :=
  { id := c.id
    object := c.object
    created := c.created
    model := c.model
    choices := c.choices.map ChunkChoice.lift
    usage := c.usage.map liftUsage
    fingerprint := c.fingerprint
    serviceTier := c.serviceTier }

/-- the text of an error code: a string as it is, any other value as JSON -/
def codeText (code : Json.Value) : String :=
  match code.json with
  | .text s => s
  | j => j.render

/-- an error body laid over the report of its status -/
def readError (body : String) (fallback : ErrorReport) : ErrorReport :=
  match Json.parse ErrorDetail.ofEnvelope body with
  | .ok e =>
    { fallback with
      message := e.message
      kind := e.kind.getD fallback.kind
      code := e.code.map codeText }
  | .error _ => fallback.withBody body

end ChatRelay.OpenAi
