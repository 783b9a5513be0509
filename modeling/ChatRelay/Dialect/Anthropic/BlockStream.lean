import ChatRelay.Dialect.Anthropic.Lower
import ChatRelay.Slots

/-!
# Fragments as block events

A state machine that reads the fragments of the shared form and gives the events of a stream.  At
most one text or thinking block is open at a time.  Tool blocks stay open until the turn finishes,
since the fragments of several calls may interleave and nothing may follow the end of a block.  A
finish reason waits for usage, which may come with a later fragment, or for the end of the stream.

* `BlockStream.step`   one fragment: the events it gives;
* `BlockStream.run`    the events of a list of fragments, and the state behind them;
* `chunkEvents`        the events of one fragment on its own.
-/

namespace ChatRelay.Anthropic

/-- the block that is open besides tool blocks -/
inductive OpenBlock where
  | text (index : UInt32)
  | thinking (index : UInt32)
  deriving DecidableEq, Repr

/-- the index of an open block -/
def OpenBlock.index : OpenBlock → UInt32
  | .text i | .thinking i => i

/-- the state between two fragments -/
structure BlockStream where
  started : Bool := false
  finished : Bool := false
  pending : Option FinishReason := none
  usage : Option ChatRelay.Usage := none
  nextIndex : UInt32 := 0
  current : Option OpenBlock := none
  toolBlocks : Slots UInt32 := []
  openTools : List UInt32 := []
  deriving DecidableEq, Repr, Inhabited

namespace BlockStream

/-- events given so far in one step, and the state behind them -/
structure Progress where
  events : List Event
  state : BlockStream
  deriving DecidableEq, Repr

namespace Progress

/-- one event more -/
def emit (p : Progress) (e : Event) : Progress := { p with events := p.events ++ [e] }

/-- the start of the message, once; the identifier is invented where the fragment has none -/
def start (a : Ambient) (c : Response) (p : Progress) : Progress :=
  if p.state.started then p
  else
    let message : Answer :=
      { id := if c.id = "" then a.identifier "msg_" 0 else c.id, model := c.model }
    { p with state := { p.state with started := true } }.emit (.messageStart message)

/-- the end of the open text or thinking block -/
def closeCurrent (p : Progress) : Progress :=
  match p.state.current with
  | some b => { p with state := { p.state with current := none } }.emit (.blockStop b.index)
  | none => p

/-- the end of every open block -/
def closeAll (p : Progress) : Progress :=
  let p := p.closeCurrent
  { events := p.events ++ p.state.openTools.map .blockStop
    state := { p.state with openTools := [] } }

/-- a new block, the open text or thinking block ended first; its index is the one that was next -/
def openBlock (block : Block) (p : Progress) : Progress :=
  let p := p.closeCurrent
  { p with state := { p.state with nextIndex := p.state.nextIndex + 1 } }.emit
    (.blockStart p.state.nextIndex block)

/-- some text, in the open text block or a new one -/
def addText (text : String) (p : Progress) : Progress :=
  match p.state.current with
  | some (.text i) => p.emit (.blockDelta i (.text text))
  | _ =>
    let i := p.state.nextIndex
    let p := p.openBlock (.text "")
    { p with state := { p.state with current := some (.text i) } }.emit (.blockDelta i (.text text))

/-- some thinking or its signature, in the open thinking block or a new one -/
def addThinking (delta : Delta) (p : Progress) : Progress :=
  match p.state.current with
  | some (.thinking i) => p.emit (.blockDelta i delta)
  | _ =>
    let i := p.state.nextIndex
    let p := p.openBlock (.thinking "" none)
    { p with state := { p.state with current := some (.thinking i) } }.emit (.blockDelta i delta)

/-- arguments for an open tool block, if there are any -/
def addArguments (index : UInt32) (arguments : String) (p : Progress) : Progress :=
  if arguments = "" then p else p.emit (.blockDelta index (.inputJson arguments))

/-- a fragment of a tool call: a new call opens a block, one whose block has ended is passed over -/
def addCall (a : Ambient) (p : Progress) (c : ToolCall) : Progress :=
  match Slots.find? c.index p.state.toolBlocks with
  | some block => if block ∈ p.state.openTools then p.addArguments block c.arguments else p
  | none =>
    let i := p.state.nextIndex
    let id := if c.id = "" then a.identifier "toolu_" (i.toNat + 1) else c.id
    let p := p.openBlock (.toolUse id c.name .empty)
    { p with state := { p.state with
        toolBlocks := Slots.update c.index (fun _ => i) p.state.toolBlocks
        openTools := p.state.openTools ++ [i] } }.addArguments i c.arguments

/-- a text that is there and not empty -/
def nonEmpty? (s : Option String) : Option String := s.filter (· ≠ "")

/-- a fragment of the message: thinking, its signature, text, tool calls -/
def addDelta (a : Ambient) (m : ChatRelay.Message) (p : Progress) : Progress :=
  let p := match nonEmpty? m.reasoning with
    | some thought => p.addThinking (.thinking thought)
    | none => p
  let p := match nonEmpty? m.signature with
    | some sign => p.addThinking (.signature sign)
    | none => p
  let p := if m.plainText = "" then p else p.addText m.plainText
  m.calls.foldl (addCall a) p

/-- the end of the message: blocks, stop reason with usage, stop -/
def stop (reason : FinishReason) (p : Progress) : Progress :=
  let p := p.closeAll
  let ending : Ending := { stopReason := some (stopOfFinish reason) }
  let usage := (p.state.usage.map lowerUsage).getD {}
  { events := p.events ++ [.messageDelta ending (some usage), .messageStop]
    state := { p.state with finished := true } }

/-- a finish reason: every block ends, the reason waits -/
def finishWith (reason : Option FinishReason) (p : Progress) : Progress :=
  match reason with
  | some r =>
    let p := p.closeAll
    { p with state := { p.state with pending := some r } }
  | none => p

/-- usage: it is joined with what is known, and a reason that waits is given -/
def report (usage : Option ChatRelay.Usage) (p : Progress) : Progress :=
  match usage with
  | none => p
  | some u =>
    let usage := ChatRelay.Usage.merge? p.state.usage (some u)
    match p.state.pending with
    | some reason => { p with state := { p.state with usage, pending := none } }.stop reason
    | none => { p with state := { p.state with usage } }

/-- the end of the stream: the reason that waits, or one that fits -/
def finish (a : Ambient) (p : Progress) : Progress :=
  let p := p.start a {}
  let reason := p.state.pending.getD (if p.state.toolBlocks.isEmpty then .stop else .toolCalls)
  { p with state := { p.state with pending := none } }.stop reason

end Progress

/-- one fragment: the events it gives and the state behind it; after the end there are none -/
def step (a : Ambient) (s : BlockStream) (c : Response) : List Event × BlockStream :=
  if s.finished then ([], s)
  else
    let p : Progress := { events := [], state := s }
    let p :=
      if c.isDone then p.finish a
      else
        let p := p.start a c
        let p := match c.choices.head? with
          | some choice =>
            let p := match choice.fragment? with
              | some m => p.addDelta a m
              | none => p
            p.finishWith choice.finish
          | none => p
        p.report c.usage
    (p.events, p.state)

/-- the events of a list of fragments and the state behind them -/
def run (a : Ambient) (s : BlockStream) : List Response → List Event × BlockStream
  | [] => ([], s)
  | c :: cs =>
    let (out, next) := s.step a c
    let (rest, last) := run a next cs
    (out ++ rest, last)

@[simp] theorem run_nil (a : Ambient) (s : BlockStream) : s.run a [] = ([], s) := rfl

theorem run_cons (a : Ambient) (s : BlockStream) (c : Response) (cs : List Response) :
    s.run a (c :: cs) =
      ((s.step a c).1 ++ ((s.step a c).2.run a cs).1, ((s.step a c).2.run a cs).2) := rfl

theorem run_append (a : Ambient) (s : BlockStream) (cs ds : List Response) :
    s.run a (cs ++ ds) =
      ((s.run a cs).1 ++ ((s.run a cs).2.run a ds).1, ((s.run a cs).2.run a ds).2) := by
  induction cs generalizing s with
  | nil => simp
  | cons c cs ih => simp [run_cons, ih, List.append_assoc]

/-- after the end of the message nothing comes any more -/
theorem step_of_finished {a : Ambient} {s : BlockStream} (h : s.finished = true) (c : Response) :
    s.step a c = ([], s) := by simp [step, h]

theorem run_of_finished {a : Ambient} {s : BlockStream} (h : s.finished = true)
    (cs : List Response) : s.run a cs = ([], s) := by
  induction cs with
  | nil => rfl
  | cons c cs ih => simp [run_cons, step_of_finished h, ih]

end BlockStream

/-! ## one fragment on its own -/

/-- the growth that a fragment of a message says: thinking and text in block 0, every tool call in
the block after its index -/
def deltaEvents (m : ChatRelay.Message) : List Event :=
  ((BlockStream.Progress.nonEmpty? m.reasoning).map
      fun thought => Event.blockDelta 0 (.thinking thought)).toList
    ++ (if m.plainText = "" then [] else [.blockDelta 0 (.text m.plainText)])
    ++ m.calls.map fun c => .blockDelta (c.index + 1) (.inputJson c.arguments)

/-- the events of one fragment on its own: no start and no ends of blocks -/
def chunkEvents (c : Response) : List Event :=
  if c.isDone then [.messageStop]
  else
    match c.choices.head? with
    | none => []
    | some choice =>
      ((choice.fragment?.map deltaEvents).getD [])
        ++ (choice.finish.map fun reason =>
              Event.messageDelta { stopReason := some (stopOfFinish reason) }
                (c.usage.map lowerUsage)).toList

end ChatRelay.Anthropic
