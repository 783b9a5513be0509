import ChatRelay.Dialect.Anthropic.Stream
import ChatRelay.Dialect.OpenRouter
import ChatRelay.Http

/-!
# Callers

A caller speaks one wire format: its requests are read and checked, and whatever comes back is
written in its format.

* `Caller.readRequest`     a request body in the shared form;
* `Caller.renderResponse`  a complete response;
* `Caller.renderChunk`     one fragment without regard to those before it;
* `Caller.renderFeed`      a stream;
* `Caller.renderError`     an error.
-/

namespace ChatRelay

/-- who is answered: in which format, and with which thinking budgets -/
structure Caller where
  dialect : Dialect
  budgets : Budgets := {}
  deriving DecidableEq, Repr

/-- what every request must have -/
def Request.check (q : Request) : Except RequestFault Unit :=
  if Text.isBlankText q.model then .error .noModel
  else if q.messages.isEmpty then .error .noMessages
  else .ok ()

/-- a positive bound on the tokens of the answer is there -/
def Anthropic.Request.isBounded (q : Anthropic.Request) : Bool := q.maxTokens.any (0 < ·)

namespace Caller

/-- a body in the caller's format -/
def parseBody {α : Type} (read : Json.Reader α) (body : ByteArray) : Except RequestFault α :=
  (Json.parseBytes read body).mapError .malformedBody

/-- a body in the shared form, before it is checked -/
def liftBody (c : Caller) (body : ByteArray) : Except RequestFault Request :=
  match c.dialect with
  | .openAi => do (← parseBody OpenAi.Request.ofJson body).lift
  | .openRouter => do (← parseBody OpenRouter.Request.ofJson body).lift c.budgets
  | .anthropic => do
    let wire ← parseBody Anthropic.Request.ofJson body
    if wire.isBounded then wire.lift c.budgets else throw .noTokenBound

/-- a request body in the shared form -/
def readRequest (c : Caller) (body : ByteArray) : Except RequestFault Request := do
  let q ← c.liftBody body
  q.check
  return { q with dialect := some c.dialect }

/-- the field that carries reasoning to a caller of chat completions -/
def reasoningField (d : Dialect) : OpenAi.ReasoningField :=
  match d with
  | .openRouter => .reasoning
  | .openAi | .anthropic => .reasoningContent

/-- a complete response -/
def renderResponse (c : Caller) (a : Ambient) (p : Response) : String :=
  match c.dialect with
  | .anthropic => (Anthropic.renderResponse a p).toJson.render
  | d => (OpenAi.renderResponse a (reasoningField d) p).toJson.render

/-- a fragment as an event of chat completions -/
def renderCompletionChunk (f : OpenAi.ReasoningField) (p : Response) : ServerEvent :=
  if p.isDone then .done else { data := (OpenAi.renderChunk f p).toJson.render }

/-- one fragment without regard to those before it -/
def renderChunk (c : Caller) (p : Response) : List ServerEvent :=
  match c.dialect with
  | .anthropic => (Anthropic.chunkEvents p).map Anthropic.renderEvent
  | d => [renderCompletionChunk (reasoningField d) p]

/-- a stream -/
def renderFeed (c : Caller) (a : Ambient) (x : Feed Response) : Feed ServerEvent :=
  match c.dialect with
  | .anthropic => Anthropic.renderFeed a x
  | d => x.map (renderCompletionChunk (reasoningField d))

/-- the body of an error -/
def errorBody (c : Caller) (e : ErrorReport) : Json :=
  match c.dialect with
  | .anthropic => (Anthropic.renderError e).toEnvelope
  | .openAi | .openRouter => (OpenAi.renderError e).toEnvelope

/-- an error -/
def renderError (c : Caller) (e : ErrorReport) : Http.Answer :=
  .ofError e (c.errorBody e).render

end Caller
end ChatRelay
