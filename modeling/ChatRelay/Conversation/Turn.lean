import ChatRelay.Conversation.Message

/-!
# An assistant's turn

What an assistant says, collected piece by piece: text and reasoning grow at their ends, the last
signature stays, tool calls are numbered as they come.

* `Turn.message`   the message of a turn; it has no content only when there is no text but a call.
-/

namespace ChatRelay

/-- an assistant's output as far as it has come -/
structure Turn where
  text : String := ""
  reasoning : Option String := none
  signature : Option String := none
  calls : List ToolCall := []
  deriving DecidableEq, Repr, Inhabited

namespace Turn

/-- more text -/
def addText (t : Turn) (s : String) : Turn := { t with text := t.text ++ s }

/-- more reasoning -/
def addReasoning (t : Turn) (s : String) : Turn :=
  { t with reasoning := some (t.reasoning.getD "" ++ s) }

/-- the signature, if one is given -/
def sign (t : Turn) (s : Option String) : Turn := { t with signature := s.or t.signature }

/-- one more tool call -/
def addCall (t : Turn) (id name arguments : String) : Turn :=
  { t with calls := t.calls ++
      [{ index := UInt32.ofNat t.calls.length, id, name, arguments }] }

/-- whether nothing has come yet -/
def isEmpty (t : Turn) : Bool :=
  t.text = "" && t.reasoning.isNone && t.signature.isNone && t.calls.isEmpty

/-- the tool calls, none when there are none -/
def calls? (t : Turn) : Option (List ToolCall) :=
  if t.calls.isEmpty then none else some t.calls

/-- the message of a turn -/
def message (t : Turn) : Message :=
  { role := .assistant
    content := if t.text ≠ "" ∨ t.calls.isEmpty then some (.text t.text) else none
    toolCalls := t.calls?
    reasoning := t.reasoning
    signature := t.signature }

@[simp] theorem message_role (t : Turn) : t.message.role = .assistant := rfl

theorem calls_message (t : Turn) : t.message.calls = t.calls := by
  show (if t.calls.isEmpty then none else some t.calls).getD [] = t.calls
  cases t.calls <;> rfl

end Turn
end ChatRelay
