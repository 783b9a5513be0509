import ChatRelay.TokenCount

/-!
# Messages

A message has a role and content, which is a text or a list of parts; an assistant's message may
call tools and carry its reasoning, a tool's message answers one call.  A message is also the
fragment of one that a stream delivers.

* `Content.ofParts`, `Content.parts`  between part lists and content;
* `Content.text`, `Message.text`      the text of the text parts.
-/

namespace ChatRelay

/-- who speaks -/
inductive Role where
  | system
  | user
  | assistant
  | tool
  deriving DecidableEq, Repr, Inhabited

/-- a part of a message's content -/
inductive Part where
  | text (text : String)
  | image (url : String) (detail : Option String)
  | audio (data format : String)
  deriving DecidableEq, Repr, Inhabited

/-- the content of a message: a text, or parts in order -/
inductive Content where
  | text (text : String)
  | parts (parts : List Part)
  deriving DecidableEq, Repr

/-- texts one after the other -/
def concat (texts : List String) : String := texts.foldr (· ++ ·) ""

@[simp] theorem concat_nil : concat [] = "" := rfl
@[simp] theorem concat_cons (s : String) (texts : List String) :
    concat (s :: texts) = s ++ concat texts := rfl

theorem concat_append (xs ys : List String) : concat (xs ++ ys) = concat xs ++ concat ys := by
  induction xs with
  | nil => simp
  | cons x xs ih => simp [ih, String.append_assoc]

theorem concat_eq_empty {xs : List String} (h : ∀ x ∈ xs, x = "") : concat xs = "" := by
  induction xs with
  | nil => rfl
  | cons x xs ih =>
    rw [concat_cons, h x List.mem_cons_self, ih fun y hy => h y (List.mem_cons_of_mem _ hy)]
    rfl

/-- the text of a text part -/
def Part.text? : Part → Option String
  | .text t => some t
  | .image .. | .audio .. => none

namespace Content

/-- content of the given parts; a text part alone is plain text -/
def ofParts : List Part → Content
  | [.text t] => .text t
  | ps => .parts ps

/-- the content as parts; plain text is one text part -/
def toParts : Content → List Part
  | .text t => [.text t]
  | .parts ps => ps

/-- the text of all text parts, one after the other -/
def plainText : Content → String
  | .text t => t
  | .parts ps => concat (ps.filterMap Part.text?)

@[simp] theorem plainText_text (t : String) : (Content.text t).plainText = t := rfl

end Content

/-- a call of a tool; on a stream its fragments share `index`, the identifier and the name come
once and the arguments piece by piece -/
structure ToolCall where
  index : UInt32 := 0
  id : String := ""
  kind : String := "function"
  name : String := ""
  arguments : String := ""
  deriving DecidableEq, Repr, Inhabited

/-- a message, or a fragment of one -/
structure Message where
  role : Role := .assistant
  content : Option Content := none
  name : Option String := none
  toolCalls : Option (List ToolCall) := none
  toolCallId : Option String := none
  toolFailed : Option Bool := none
  reasoning : Option String := none
  signature : Option String := none
  deriving DecidableEq, Repr, Inhabited

namespace Message

/-- a message of plain text -/
def ofText (role : Role) (text : String) : Message := { role, content := some (.text text) }

/-- the text of the content, empty when there is none -/
def plainText (m : Message) : String := (m.content.map Content.plainText).getD ""

/-- the tool calls, none when there is no list -/
def calls (m : Message) : List ToolCall := m.toolCalls.getD []

end Message
end ChatRelay
