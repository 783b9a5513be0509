import ChatRelay.Ambient
import ChatRelay.Conversation.Request
import ChatRelay.Conversation.Turn
import ChatRelay.Dialect.Anthropic.Wire
import ChatRelay.Fault
import ChatRelay.Text.Cut

/-!
# From the messages interface to the shared form

The system prompt becomes a leading message and every tool result a message of its own, in front of
the turn that it came with.

* `Request.lift`   a request; an unknown role is a fault;
* `Answer.lift`    a complete answer;
* `Usage.lift`     usage, cached tokens counted with the prompt;
* `readError`      an error body laid over the report of its status.
-/

namespace ChatRelay.Anthropic

/-! ## requests -/

/-- the text of a system prompt, its texts on lines of their own -/
def System.plainText : System → String
  | .text s => s
  | .blocks ts => Text.join "\n" ts

/-- the address of an image; inline data becomes a data address -/
def ImageSource.address : ImageSource → String
  | .base64 mediaType data => "data:" ++ mediaType ++ ";base64," ++ data
  | .url address => address

/-- the role of a turn -/
def liftRole (word : String) : Except RequestFault Role :=
  if word = "user" then .ok .user
  else if word = "assistant" then .ok .assistant
  else .error (.role word)

/-- the message of a tool result, none for other blocks -/
def Block.toolMessage? : Block → Option ChatRelay.Message
  | .toolResult id output failed => some {
      role := .tool
      content := some (.text output.plainText)
      toolCallId := some id
      toolFailed := failed }
  | _ => none

/-- the part of a text or image block, none for other blocks -/
def Block.part? : Block → Option Part
  | .text s => some (.text s)
  | .image source => some (.image source.address none)
  | _ => none

/-- what a block of a request adds to the speaker's turn: thinking and tool uses -/
def addThought (t : Turn) : Block → Turn
  | .toolUse id name input => t.addCall id name input.render
  | .thinking thought signature => (t.addReasoning thought).sign signature
  | .redacted data => t.sign (some data)
  | .text _ | .image _ | .toolResult .. => t

/-- the messages of a turn: its tool results first, then what else it says, if anything; a turn
that says nothing at all is one empty message -/
def liftBlocks (role : Role) (bs : List Block) : List ChatRelay.Message :=
  let results := bs.filterMap Block.toolMessage?
  let parts := bs.filterMap Block.part?
  let turn := bs.foldl addThought {}
  let speech := { turn.message with
    role
    content := if parts.isEmpty then turn.message.content else some (.ofParts parts) }
  if parts.isEmpty && turn.isEmpty && !results.isEmpty then results else results ++ [speech]

/-- the messages of a turn -/
def Message.lift (m : Message) : Except RequestFault (List ChatRelay.Message) := do
  let role ← liftRole m.role
  match m.content with
  | .text s => return [.ofText role s]
  | .blocks bs => return liftBlocks role bs

/-- the messages of a list of turns; the first fault ends it -/
def liftMessages : List Message → Except RequestFault (List ChatRelay.Message)
  | [] => .ok []
  | m :: ms => do
    let xs ← m.lift
    let ys ← liftMessages ms
    return xs ++ ys

/-- the system prompt as messages: none where there is no text -/
def systemMessages (s : Option System) : List ChatRelay.Message :=
  match s.map System.plainText with
  | some text => if text = "" then [] else [.ofText .system text]
  | none => []

/-- a tool in the shared form -/
def Tool.lift (t : Tool) : ToolDefinition :=
  { name := t.name, description := t.description, parameters := some t.schema }

/-- a tool choice in the shared form -/
def Choice.lift : Choice → ToolChoice
  | .auto => .mode .auto
  | .any => .mode .required
  | .tool name => .named name
  | .none => .mode .none

/-- the effort whose budget covers the thinking -/
def Thinking.effort? (b : Budgets) : Thinking → Option Effort
  | .enabled budget => some (b.effort budget)
  | .disabled => none

/-- the shared form of a request -/
def Request.lift (b : Budgets) (q : Request) : Except RequestFault ChatRelay.Request := do
  let messages ← liftMessages q.messages
  return {
    model := q.model
    messages := systemMessages q.system ++ messages
    params := {
      temperature := q.temperature
      topP := q.topP
      topK := q.topK
      maxTokens := q.maxTokens }
    stop := q.stopSequences.bind Stop.ofList?
    stream := q.stream.getD false
    tools := q.tools.map (·.map Tool.lift)
    toolChoice := q.toolChoice.map Choice.lift
    effort := q.thinking.bind (Thinking.effort? b)
    user := q.metadata.bind id }

/-! ## answers -/

/-- the finish reason of a stop reason, an unknown one kept as it is -/
def finishOfStop (stopReason : String) : FinishReason :=
  if stopReason = "end_turn" ∨ stopReason = "stop_sequence" ∨ stopReason = "pause_turn" then .stop
  else if stopReason = "max_tokens" then .length
  else if stopReason = "tool_use" then .toolCalls
  else if stopReason = "refusal" then .contentFilter
  else .other stopReason

/-- usage in the shared form: the prompt counts what was read from and written to the cache -/
def Usage.lift (u : Usage) : ChatRelay.Usage :=
  let cached := u.cacheRead.getD 0
  let written := u.cacheWritten.getD 0
  let prompt := TokenCount.plus (u.input.plus cached) written
  { ChatRelay.Usage.ofCounts prompt u.output with
    promptDetails :=
      if 0 < cached ∨ 0 < written then
        some { cached, written := if 0 < written then some written else none }
      else none }

/-- what a block of an answer adds to the turn -/
def addBlock (t : Turn) : Block → Turn
  | .text s => t.addText s
  | .thinking thought signature => (t.addReasoning thought).sign signature
  | .redacted data => t.sign (some data)
  | .toolUse id name input => t.addCall id name input.render
  | .image _ | .toolResult .. => t

/-- the shared form of a complete answer, made now -/
def Answer.lift (now : UInt64) (p : Answer) : Response :=
  { id := p.id
    object := "chat.completion"
    created := now
    model := p.model
    choices := [{
      message := some (p.content.foldl addBlock {}).message
      finish := p.stopReason.map finishOfStop }]
    usage := some p.usage.lift }

/-- an error body laid over the report of its status -/
def readError (body : String) (fallback : ErrorReport) : ErrorReport :=
  match Json.parse ErrorDetail.ofEnvelope body with
  | .ok e => { fallback with kind := e.kind, message := e.message }
  | .error _ => fallback.withBody body

end ChatRelay.Anthropic
