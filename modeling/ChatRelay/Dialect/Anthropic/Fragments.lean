import ChatRelay.Dialect.Anthropic.Lift

/-!
# Block events as fragments

A state machine that reads the events of a stream and gives the fragments of the shared form.
Blocks are numbered across all their kinds; tool calls get numbers of their own, one per tool block,
in the order the blocks start.

* `Fragments.step`    one event: the fragments it gives, or the fault it reports;
* `Fragments.close`   the end of the stream: the end marker, once;
* `Fragments.run`     the fragments of a list of events, and the state behind them.
-/

namespace ChatRelay.Anthropic

/-- the arguments a tool block starts with; the empty object only announces fragments -/
def initialArguments (input : Json.Value) : String :=
  if input.isVoid then "" else input.render

/-- the fault that an error event reports -/
def ErrorDetail.fault (e : ErrorDetail) : Fault := .streaming (e.kind ++ ": " ++ e.message)

/-- the state between two events: who speaks since when, usage so far, the tool call of every tool
block (the latest block of an index first), and whether the end marker has been given -/
structure Fragments where
  id : String := ""
  model : String := ""
  created : UInt64
  usage : Option ChatRelay.Usage := none
  nextCall : UInt32 := 0
  calls : List (UInt32 × UInt32) := []
  done : Bool := false
  deriving DecidableEq, Repr

namespace Fragments

/-- the state before the first event of a stream that starts now -/
def start (now : UInt64) : Fragments := { created := now }

/-- a fragment with the given choices -/
def chunk (s : Fragments) (choices : List ChatRelay.Choice) (usage : Option ChatRelay.Usage) :
    Response :=
  { id := s.id
    object := "chat.completion.chunk"
    created := s.created
    model := s.model
    choices
    usage }

/-- a fragment of the message -/
def delta (s : Fragments) (m : ChatRelay.Message) : Response :=
  s.chunk [{ delta := some m }] none

/-- a fragment of text -/
def textDelta (s : Fragments) (text : String) : Response :=
  s.delta { content := some (.text text) }

/-- a fragment of reasoning -/
def thoughtDelta (s : Fragments) (thought : String) : Response :=
  s.delta { reasoning := some thought }

/-- a fragment of a tool call -/
def callDelta (s : Fragments) (c : ToolCall) : Response := s.delta { toolCalls := some [c] }

/-- the end of the stream: the end marker, once -/
def close (s : Fragments) : List Response × Fragments :=
  if s.done then ([], s) else ([.done], { s with done := true })

/-- a block that starts under an index -/
def startBlock (s : Fragments) (index : UInt32) : Block → List Response × Fragments
  | .toolUse id name input =>
    let next := { s with
      nextCall := s.nextCall + 1
      calls := (index, s.nextCall) :: s.calls }
    ([s.callDelta { index := s.nextCall, id, name, arguments := initialArguments input }], next)
  | .text text => (if text = "" then [] else [s.textDelta text], s)
  | .thinking thought _ => (if thought = "" then [] else [s.thoughtDelta thought], s)
  | .image _ | .toolResult .. | .redacted _ => ([], s)

/-- a block that grows; input for a block that is no tool's is passed over -/
def growBlock (s : Fragments) (index : UInt32) : Delta → List Response
  | .text text => [s.textDelta text]
  | .thinking thought => [s.thoughtDelta thought]
  | .inputJson fragment =>
    match s.calls.lookup index with
    | some call => [s.callDelta { index := call, arguments := fragment }]
    | none => []
  | .signature _ => []

/-- how the message ends: a fragment if there is a reason or usage to report -/
def endMessage (s : Fragments) (ending : Ending) (reported : Option Usage) :
    List Response × Fragments :=
  let finish := ending.stopReason.map finishOfStop
  let next := { s with usage := ChatRelay.Usage.merge? s.usage (reported.map Usage.lift) }
  if finish.isNone && reported.isNone then ([], next)
  else
    let choices := match finish with
      | some reason => [{ delta := some {}, finish := some reason }]
      | none => []
    ([next.chunk choices next.usage], next)

/-- one event -/
def step (s : Fragments) : Event → Except Fault (List Response × Fragments)
  | .messageStart m =>
    let usage := m.usage.lift
    .ok ([], { s with
      id := m.id
      model := m.model
      usage := if 0 < usage.total then some usage else none })
  | .blockStart index block => .ok (s.startBlock index block)
  | .blockDelta index delta => .ok (s.growBlock index delta, s)
  | .messageDelta ending usage => .ok (s.endMessage ending usage)
  | .messageStop => .ok s.close
  | .blockStop _ | .ping => .ok ([], s)
  | .error detail => .error detail.fault

/-- the fragments of a list of events and the state behind them; a reported fault ends it -/
def run (s : Fragments) : List Event → Except Fault (List Response × Fragments)
  | [] => .ok ([], s)
  | e :: es =>
    match s.step e with
    | .error f => .error f
    | .ok (out, next) =>
      match run next es with
      | .error f => .error f
      | .ok (rest, last) => .ok (out ++ rest, last)

@[simp] theorem run_nil (s : Fragments) : s.run [] = .ok ([], s) := rfl

/-- after the end marker there is no second one -/
theorem close_of_done {s : Fragments} (h : s.done = true) : s.close = ([], s) := by
  simp [close, h]

end Fragments
end ChatRelay.Anthropic
