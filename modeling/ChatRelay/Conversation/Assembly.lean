import ChatRelay.Conversation.Response
import ChatRelay.Slots

/-!
# A response from its fragments

Fragments are gathered by the index of their choice and, within a choice, tool calls by their own
index.  Text, reasoning and arguments grow at their ends; the first identifier and name that are not
empty stay, of signatures and finish reasons the last; end markers say nothing.

* `Draft.add`            one fragment more of a choice;
* `Response.assemble`    the response of a list of fragments.
-/

namespace ChatRelay

/-- the first text unless it is empty, then the second -/
def firstText (a b : String) : String := if a = "" then b else a

/-- a choice as far as it has come -/
structure Draft where
  text : String := ""
  reasoning : Option String := none
  signature : Option String := none
  calls : Slots ToolCall := []
  finish : Option FinishReason := none
  deriving DecidableEq, Repr, Inhabited

namespace Draft

/-- a tool call joined with one more fragment of it -/
def joinCall (fragment : ToolCall) (present : Option ToolCall) : ToolCall :=
  let c := present.getD { index := fragment.index }
  { c with
    id := firstText c.id fragment.id
    name := firstText c.name fragment.name
    arguments := c.arguments ++ fragment.arguments }

/-- more reasoning, if the fragment has some -/
def joinReasoning (present fragment : Option String) : Option String :=
  match fragment with
  | some s => some (present.getD "" ++ s)
  | none => present

/-- the fragment's signature unless it is missing or empty, then the present one -/
def joinSignature (present fragment : Option String) : Option String :=
  match fragment with
  | some s => if s = "" then present else some s
  | none => present

/-- a choice with one more fragment -/
def add (d : Draft) (m : Message) : Draft :=
  { d with
    text := d.text ++ m.plainText
    reasoning := joinReasoning d.reasoning m.reasoning
    signature := joinSignature d.signature m.signature
    calls := m.calls.foldl (fun calls c => Slots.update c.index (joinCall c) calls) d.calls }

/-- the finish reason, if one is given that is not empty -/
def finishWith (d : Draft) : Option FinishReason → Draft
  | some r => if r.word = "" then d else { d with finish := some r }
  | none => d

/-- a choice with what one chunk says about it -/
def addChoice (d : Draft) (c : Choice) : Draft :=
  ((c.fragment?.map d.add).getD d).finishWith c.finish

/-- the choice of a draft -/
def choice (index : UInt32) (d : Draft) : Choice :=
  let calls := d.calls.values
  { index
    message := some {
      role := .assistant
      content := if d.text ≠ "" ∨ calls.isEmpty then some (.text d.text) else none
      toolCalls := if calls.isEmpty then none else some calls
      reasoning := d.reasoning
      signature := d.signature }
    finish := some (d.finish.getD (if calls.isEmpty then .stop else .toolCalls)) }

theorem calls_choice (index : UInt32) (d : Draft) :
    ((d.choice index).message.map Message.calls).getD [] = d.calls.values := by
  show (if d.calls.values.isEmpty then none else some d.calls.values).getD [] = d.calls.values
  cases d.calls.values <;> rfl

end Draft

/-- a response as far as it has come -/
structure Assembly where
  id : String := ""
  model : String := ""
  created : UInt64 := 0
  fingerprint : Option String := none
  serviceTier : Option String := none
  usage : Option Usage := none
  drafts : Slots Draft := []
  deriving DecidableEq, Repr, Inhabited

namespace Assembly

/-- a response with one more fragment -/
def add (a : Assembly) (c : Response) : Assembly :=
  if c.isDone then a
  else
    { id := firstText a.id c.id
      model := firstText a.model c.model
      created := if a.created = 0 then c.created else a.created
      fingerprint := c.fingerprint.or a.fingerprint
      serviceTier := c.serviceTier.or a.serviceTier
      usage := Usage.merge? a.usage c.usage
      drafts := c.choices.foldl
        (fun drafts x => Slots.update x.index (fun d => (d.getD {}).addChoice x) drafts) a.drafts }

/-- the response of an assembly -/
def response (a : Assembly) : Response :=
  { id := a.id
    object := "chat.completion"
    created := a.created
    model := a.model
    choices := a.drafts.map fun (index, d) => d.choice index
    usage := a.usage
    fingerprint := a.fingerprint
    serviceTier := a.serviceTier }

end Assembly

/-- the response of a list of fragments -/
def Response.assemble (chunks : List Response) : Response :=
  (chunks.foldl Assembly.add {}).response

@[simp] theorem Response.assemble_nil : Response.assemble [] = { object := "chat.completion" } :=
  rfl

end ChatRelay
