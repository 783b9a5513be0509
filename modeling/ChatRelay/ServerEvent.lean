import ChatRelay.Conversation.Response
import ChatRelay.Text.Blank
import ChatRelay.Text.Cut

/-!
# Server-sent events

An event has data and may have a name.  On the wire every line of the data gets a field of its own,
and a blank line ends the event.

* `ServerEvent.render`            the wire text;
* `ServerEvent.isDone`            whether this is the terminator that callers are sent;
* `ServerEvent.isDoneFromBackend` whether a backend means the terminator, blanks around it or not.
-/

namespace ChatRelay

/-- an event of an event stream -/
structure ServerEvent where
  name : Option String := none
  data : String
  deriving DecidableEq, Repr, Inhabited

namespace ServerEvent

/-- the terminator of a stream -/
def done : ServerEvent := { data := doneMarker }

/-- whether an event is the terminator -/
def isDone (e : ServerEvent) : Bool := e.name.isNone && e.data = doneMarker

/-- whether the data of an event are those of the terminator, up to blanks around them -/
def isDoneFromBackend (e : ServerEvent) : Bool := Text.trim e.data = doneMarker

@[simp] theorem isDone_done : isDone done = true := rfl

/-- a field of an event -/
def fieldLine (name value : List Char) : List Char := name ++ ':' :: ' ' :: value ++ ['\n']

/-- the characters of an event on the wire -/
def chars (e : ServerEvent) : List Char :=
  (match e.name with
    | some name => fieldLine "event".toList name.toList
    | none => [])
  ++ (Text.split (· = '\n') e.data.toList).flatMap (fieldLine "data".toList) ++ ['\n']

/-- an event on the wire -/
def render (e : ServerEvent) : String := String.ofList e.chars

end ServerEvent
end ChatRelay
