import ChatRelay.Conversation.Codec.Response
import ChatRelay.Conversation.Assembly
import ChatRelay.Dialect.OpenAi.Lift
import ChatRelay.Feed.Basic
import ChatRelay.ServerEvent

/-!
# Streams of chunks

An event is the terminator, an error envelope, a chunk, or nothing that is understood.  A stream
that ends without a fault ends with the end marker, whether the backend sent one or not; it has no
other.

* `liftEvent`   what one event says;
* `liftFeed`    a stream in the shared form;
* `aggregate`   the response that a recorded stream adds up to.
-/

namespace ChatRelay.OpenAi

/-- the fault that an error envelope in a stream reports -/
def ErrorDetail.fault (e : ErrorDetail) : Fault :=
  .streaming (e.kind.getD "error" ++ ": " ++ e.message)

/-- what one event says: the end, a fault, a chunk, or nothing -/
def liftEvent (e : ServerEvent) : Except Fault (List Response) :=
  if e.isDoneFromBackend then .ok [.done]
  else
    match Json.parse ErrorDetail.ofEnvelope e.data with
    | .ok detail => .error detail.fault
    | .error _ =>
      match Json.parse Chunk.ofJson e.data with
      | .ok chunk => .ok [chunk.lift]
      | .error _ => .ok []

/-- one event, where `seen` says whether the end marker has come: it comes once -/
def liftStep (seen : Bool) (e : ServerEvent) : Except Fault (List Response × Bool) :=
  match liftEvent e with
  | .error f => .error f
  | .ok chunks =>
    let kept := if seen then chunks.filter (!·.isDone) else chunks
    .ok (kept, seen || kept.any Response.isDone)

/-- the end marker, unless it has come -/
def liftTrailer (seen : Bool) : Except Fault (List Response) :=
  .ok (if seen then [] else [.done])

/-- a stream in the shared form -/
def liftFeed (x : Feed ServerEvent) : Feed Response := x.scan liftStep liftTrailer false

/-- the chunk an event carries -/
def chunkOf? (e : ServerEvent) : Option Response :=
  match Json.parse Chunk.ofJson e.data with
  | .ok chunk => some chunk.lift
  | .error _ => none

/-- the response that a recorded stream adds up to -/
def aggregate (events : List ServerEvent) : Response :=
  .assemble ((events.filter (!·.isDoneFromBackend)).filterMap chunkOf?)

end ChatRelay.OpenAi
