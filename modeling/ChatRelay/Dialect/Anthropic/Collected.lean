import ChatRelay.Dialect.Anthropic.Fragments
import ChatRelay.Slots

/-!
# A response from block events

The events of a whole stream folded into one response.  Blocks are kept under their indices, so that
growth of several blocks may interleave; growth of a block that never started starts it, and growth
that does not fit its block is passed over.

* `Collected.push`      one event more, or the fault it reports;
* `Collected.finish`    the response, none where no event came;
* `collect`             the response of a list of events.
-/

namespace ChatRelay.Anthropic

/-- a block as far as it has come -/
inductive Growing where
  | text (s : String)
  | thinking (thought : String) (signature : Option String)
  | redacted (data : String)
  | toolUse (id name arguments : String)
  deriving DecidableEq, Repr

namespace Growing

/-- a block that starts; images and tool results are passed over -/
def ofBlock? : Block → Option Growing
  | .text s => some (.text s)
  | .thinking thought signature => some (.thinking thought signature)
  | .redacted data => some (.redacted data)
  | .toolUse id name input => some (.toolUse id name (initialArguments input))
  | .image _ | .toolResult .. => none

/-- the block that growth starts where none has started -/
def ofDelta : Delta → Growing
  | .text _ => .text ""
  | .thinking _ | .signature _ => .thinking "" none
  | .inputJson _ => .toolUse "" "" ""

/-- a block with more in it -/
def grow (b : Growing) (d : Delta) : Growing :=
  match b, d with
  | .text s, .text more => .text (s ++ more)
  | .thinking thought signature, .thinking more => .thinking (thought ++ more) signature
  | .thinking thought _, .signature sign => .thinking thought (some sign)
  | .toolUse id name arguments, .inputJson more => .toolUse id name (arguments ++ more)
  | b, _ => b

/-- what a block adds to the turn -/
def addTo (t : Turn) : Growing → Turn
  | .text s => t.addText s
  | .thinking thought signature => (t.addReasoning thought).sign signature
  | .redacted data => t.sign (some data)
  | .toolUse id name arguments => t.addCall id name arguments

end Growing

/-- the events of a stream as far as they have come -/
structure Collected where
  id : String := ""
  model : String := ""
  blocks : Slots Growing := []
  stopReason : Option String := none
  usage : Option ChatRelay.Usage := none
  count : Nat := 0
  deriving DecidableEq, Repr, Inhabited

namespace Collected

/-- what an event other than an error says -/
def note (s : Collected) : Event → Collected
  | .messageStart m =>
    { s with
      id := m.id
      model := m.model
      usage := ChatRelay.Usage.merge? s.usage (some m.usage.lift) }
  | .blockStart index block =>
    match Growing.ofBlock? block with
    | some b => { s with blocks := Slots.update index (fun _ => b) s.blocks }
    | none => s
  | .blockDelta index delta =>
    { s with blocks :=
        Slots.update index (fun b => (b.getD (Growing.ofDelta delta)).grow delta) s.blocks }
  | .messageDelta ending usage =>
    { s with
      stopReason := ending.stopReason.or s.stopReason
      usage := ChatRelay.Usage.merge? s.usage (usage.map Usage.lift) }
  | .blockStop _ | .messageStop | .ping | .error _ => s

/-- one event more; the fault that an error event reports comes beside the state, which counts the
event all the same -/
def push (s : Collected) (e : Event) : Option Fault × Collected :=
  let s := { s with count := s.count + 1 }
  match e with
  | .error detail => (some detail.fault, s)
  | e => (none, s.note e)

/-- the response, made now -/
def finish (now : UInt64) (s : Collected) : Except Fault Response :=
  if s.count = 0 then .error (.transform .noEvents)
  else
    let turn := s.blocks.values.foldl Growing.addTo {}
    let finish := match s.stopReason with
      | some reason => finishOfStop reason
      | none => if turn.calls.isEmpty then .stop else .toolCalls
    .ok {
      id := s.id
      object := "chat.completion"
      created := now
      model := s.model
      choices := [{ message := some turn.message, finish := some finish }]
      usage := s.usage }

/-- a state with every event of a list; a reported fault ends it -/
def pushAll (s : Collected) : List Event → Except Fault Collected
  | [] => .ok s
  | e :: es =>
    match s.push e with
    | (some fault, _) => .error fault
    | (none, next) => pushAll next es

end Collected

/-- the response of a list of events -/
def collect (now : UInt64) (events : List Event) : Except Fault Response := do
  (← Collected.pushAll {} events).finish now

end ChatRelay.Anthropic
