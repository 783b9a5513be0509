import ChatRelay.Dialect.Anthropic.BlockStream
import ChatRelay.Dialect.Anthropic.Collected
import ChatRelay.Feed.Basic
import ChatRelay.ServerEvent

/-!
# Streams of block events

* `liftFeed`    a backend's stream in the shared form, with one end marker where it ends without a
                fault;
* `aggregate`   the response that a recorded stream adds up to;
* `renderFeed`  a stream of the shared form for a caller.
-/

namespace ChatRelay.Anthropic

/-- the block event that a server-sent event carries -/
def eventOf? (e : ServerEvent) : Option Event :=
  match Json.parse Event.ofJson e.data with
  | .ok event => some event
  | .error _ => none

/-- one event of a backend; what is not understood is passed over -/
def liftStep (s : Fragments) (e : ServerEvent) : Except Fault (List Response × Fragments) :=
  if e.isDoneFromBackend then .ok s.close
  else
    match eventOf? e with
    | some event => s.step event
    | none => .ok ([], s)

/-- the end marker, unless it has come -/
def liftTrailer (s : Fragments) : Except Fault (List Response) := .ok s.close.1

/-- a backend's stream in the shared form -/
def liftFeed (now : UInt64) (x : Feed ServerEvent) : Feed Response :=
  x.scan liftStep liftTrailer (.start now)

/-- the response that a recorded stream adds up to -/
def aggregate (now : UInt64) (events : List ServerEvent) : Except Fault Response :=
  collect now ((events.filter (!·.isDoneFromBackend)).filterMap eventOf?)

/-- a block event as a server-sent event -/
def renderEvent (e : Event) : ServerEvent := { name := some e.name, data := e.toJson.render }

/-- a stream of the shared form for a caller -/
def renderFeed (a : Ambient) (x : Feed Response) : Feed ServerEvent :=
  x.scan
    (fun s c =>
      let (events, next) := BlockStream.step a s c
      .ok (events.map renderEvent, next))
    (fun _ => .ok []) {}

end ChatRelay.Anthropic
