import ChatRelay.Dialect.Anthropic.Lift

/-!
# From the shared form to the messages interface

System messages are joined into the prompt and consecutive tool results share one user turn.  A
request that thinks leaves room for the answer: its token bound is above the thinking budget.

* `lowerMessages`   messages as turns;
* `lowerRequest`    a request for a backend;
* `renderResponse`  a complete answer for a caller;
* `renderError`     an error envelope.
-/

namespace ChatRelay.Anthropic

/-- the token bound of a request whose caller set none -/
def defaultMaxTokens : TokenCount := 4096

/-! ## requests -/

/-- where the image of an address is; a data address holds the image -/
def sourceOfAddress (address : String) : ImageSource :=
  match (Text.afterStart? "data:".toList address.toList).bind (Text.cutAt? ',') with
  | some (kind, data) =>
    let mediaType := (Text.beforeEnd? ";base64".toList kind).getD kind
    .base64 (String.ofList mediaType) (String.ofList data)
  | none => .url address

/-- the block of a part; audio has none -/
def blockOfPart? : Part → Option Block
  | .text s => some (.text s)
  | .image address _ => some (.image (sourceOfAddress address))
  | .audio .. => none

/-- the thinking block of a message: open where there is reasoning, withheld where there is only a
signature -/
def thinkingBlocks (m : ChatRelay.Message) : List Block :=
  match m.reasoning, m.signature with
  | some thought, signature =>
    if thought ≠ "" then [.thinking thought signature]
    else (signature.map Block.redacted).toList
  | none, some data => [.redacted data]
  | none, none => []

/-- the tool use of a call; arguments that are not JSON are sent as no arguments -/
def toolUseBlock (c : ToolCall) : Block :=
  .toolUse c.id c.name ((Json.Value.parse? c.arguments).getD .empty)

/-- the blocks of an assistant's message: thinking, text, tool uses -/
def assistantBlocks (m : ChatRelay.Message) : List Block :=
  thinkingBlocks m ++ (if m.plainText = "" then [] else [.text m.plainText])
    ++ m.calls.map toolUseBlock

/-- blocks as speech: a text block alone is a text, no block the empty text -/
def speechOfBlocks : List Block → Speech
  | [] => .text ""
  | [.text s] => .text s
  | bs => .blocks bs

/-- the turn of a message that is neither the system's nor a tool's -/
def lowerMessage (m : ChatRelay.Message) : Message :=
  if m.role = .assistant then
    { role := "assistant", content := speechOfBlocks (assistantBlocks m) }
  else
    let parts := (m.content.map Content.toParts).getD []
    { role := "user", content := speechOfBlocks (parts.filterMap blockOfPart?) }

/-- the block of a tool's message -/
def resultBlock (m : ChatRelay.Message) : Block :=
  .toolResult (m.toolCallId.getD "") (.text m.plainText) m.toolFailed

/-- whether a block is the result of a tool -/
def Block.isToolResult : Block → Bool
  | .toolResult .. => true
  | _ => false

/-- the blocks of a user's turn that holds results of tools only -/
def Message.results? (t : Message) : Option (List Block) :=
  match t.content with
  | .blocks bs => if t.role = "user" ∧ bs.all Block.isToolResult then some bs else none
  | .text _ => none

/-- a tool's result behind some turns: it joins the last one if that holds results only, and has a
turn of its own otherwise -/
def addResult (ts : List Message) (b : Block) : List Message :=
  match ts.getLast?.bind Message.results? with
  | some bs => ts.dropLast ++ [{ role := "user", content := .blocks (bs ++ [b]) }]
  | none => ts ++ [{ role := "user", content := .blocks [b] }]

/-- a message behind some turns -/
def addTurn (ts : List Message) (m : ChatRelay.Message) : List Message :=
  if m.role = .tool then addResult ts (resultBlock m) else ts ++ [lowerMessage m]

/-- messages as turns, one message after the other -/
def lowerMessages (ms : List ChatRelay.Message) : List Message := ms.foldl addTurn []

/-- a tool for the backend; without a schema any object will do -/
def lowerTool (t : ToolDefinition) : Tool :=
  { name := t.name
    description := t.description
    schema := t.parameters.getD
      ⟨.object [("properties", .object []), ("type", .text "object")], by decide⟩ }

/-- a tool choice for the backend -/
def lowerToolChoice : ToolChoice → Choice
  | .mode .none => .none
  | .mode .auto => .auto
  | .mode .required => .any
  | .function _ name => .tool name

/-- the token bound of a request: above the thinking budget, if it thinks -/
def lowerTokenBound (bound : TokenCount) : Option TokenCount → TokenCount
  | some budget => if bound ≤ budget then budget.plus defaultMaxTokens else bound
  | none => bound

/-- the texts of the system's messages -/
def systemTexts (ms : List ChatRelay.Message) : List String :=
  (ms.filter (·.role = .system)).map ChatRelay.Message.plainText

/-- a request; a thinking model takes neither a temperature nor a top-k -/
def lowerRequest (b : Budgets) (q : ChatRelay.Request) : Request :=
  let budget := q.effort.map b.budget
  let system := systemTexts q.messages
  { model := q.model
    maxTokens := some (lowerTokenBound (q.tokenBound.getD defaultMaxTokens) budget)
    system := if system.isEmpty then none else some (.text (Text.join "\n" system))
    messages := lowerMessages (q.messages.filter (·.role ≠ .system))
    temperature := if budget.isSome then none else q.params.temperature
    topP := q.params.topP
    topK := if budget.isSome then none else q.params.topK
    stopSequences := q.stop.map Stop.toList
    stream := if q.stream then some true else none
    tools := q.tools.map (·.map lowerTool)
    toolChoice := q.toolChoice.map lowerToolChoice
    thinking := budget.map Thinking.enabled
    metadata := q.user.map some }

/-! ## answers -/

/-- the stop reason of a finish reason -/
def stopOfFinish : FinishReason → String
  | .stop => "end_turn"
  | .length => "max_tokens"
  | .toolCalls => "tool_use"
  | .contentFilter => "refusal"
  | .other word => word

/-- usage with the cached tokens taken out of the prompt -/
def lowerUsage (u : ChatRelay.Usage) : Usage :=
  { input := TokenCount.minus (u.prompt.minus u.cached) u.written
    output := u.completion
    cacheWritten := if 0 < u.written then some u.written else none
    cacheRead := if 0 < u.cached then some u.cached else none }

/-- whether a block uses a tool -/
def Block.isToolUse : Block → Bool
  | .toolUse .. => true
  | _ => false

/-- a complete answer: the first choice, with a stop reason of its own where none was given -/
def renderResponse (a : Ambient) (p : Response) : Answer :=
  let choice := p.choices.head?
  let content := ((choice.bind (·.message?)).map assistantBlocks).getD []
  { id := if p.id = "" then a.identifier "msg_" 0 else p.id
    content
    model := p.model
    stopReason := some <|
      match choice.bind (·.finish) with
      | some reason => stopOfFinish reason
      | none => if content.any Block.isToolUse then "tool_use" else "end_turn"
    usage := (p.usage.map lowerUsage).getD {} }

/-- the inside of the envelope of an error -/
def renderError (e : ErrorReport) : ErrorDetail := { kind := e.kind, message := e.message }

end ChatRelay.Anthropic
