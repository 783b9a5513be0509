import ChatRelay.Dialect.OpenAi.Lower

/-!
# The router's additions to chat completions

Requests may carry a `reasoning` object, whose effort wins over the plain field and whose budget is
an effort too, and a `usage` object that asks for usage at the end of a stream.  The plain fields
are set aside before they are read.

* `Request.ofJson`, `Request.toJson`   the wire form;
* `Request.lift`, `lowerRequest`       to and from the shared form.
-/

namespace ChatRelay.OpenRouter

open Json (Reader Problem Record field fieldOf?)

/-- how to think -/
structure Reasoning where
  effort : Option String := none
  maxTokens : Option TokenCount := none
  exclude : Option Bool := none
  deriving DecidableEq, Repr

/-- whether to account for usage -/
structure UsageOptions where
  wanted : Bool := false
  deriving DecidableEq, Repr

/-- a request -/
structure Request where
  base : OpenAi.Request := {}
  reasoning : Option Reasoning := none
  usage : Option UsageOptions := none
  deriving DecidableEq, Repr

namespace Reasoning

/-- reads the reasoning object -/
def ofJson : Reader Reasoning := fun j => do
  let r ← Record.ofJson ["effort", "max_tokens", "exclude"] j
  let effort ← r.get? "effort" Json.asText
  let maxTokens ← r.get? "max_tokens" Json.asWord32
  let exclude ← r.get? "exclude" Json.asBool
  return { effort, maxTokens, exclude }

/-- writes the reasoning object -/
def toJson (x : Reasoning) : Json :=
  .object (fieldOf? "effort" x.effort .text ++ fieldOf? "max_tokens" x.maxTokens Json.ofWord32
    ++ fieldOf? "exclude" x.exclude .bool)

end Reasoning

namespace UsageOptions

/-- reads the usage object -/
def ofJson : Reader UsageOptions := fun j => do
  let r ← Record.ofJson ["include"] j
  return { wanted := ← r.getD "include" false Json.asBool }

/-- writes the usage object -/
def toJson (x : UsageOptions) : Json := .object (field "include" (.bool x.wanted))

end UsageOptions

namespace Request

/-- the fields that the router adds -/
def ownNames : List String := ["reasoning", "usage"]

/-- nothing set aside is unreadable -/
def restReadable : Json → Bool
  | .object fs => fs.all fun f => f.1 ∈ ownNames || f.2.readable
  | _ => true

/-- reads a request, which is an object and no array -/
def ofJson : Reader Request := fun j => do
  let r ← Record.ofObject (ownNames ++ OpenAi.Request.names) j
  if restReadable j then
    let reasoning ← r.get? "reasoning" Reasoning.ofJson
    let usage ← r.get? "usage" UsageOptions.ofJson
    let base ← OpenAi.Request.ofRecord r
    return { base, reasoning, usage }
  else .error .unreadable

/-- writes a request -/
def toJson (q : Request) : Json :=
  .object (q.base.fields ++ fieldOf? "reasoning" q.reasoning Reasoning.toJson
    ++ fieldOf? "usage" q.usage UsageOptions.toJson)

end Request

/-- the effort a reasoning object asks for, `plain` where it asks for none -/
def Reasoning.effortOr (b : Budgets) (plain : Option Effort) (x : Reasoning) :
    Except RequestFault (Option Effort) :=
  match x.effort, x.maxTokens with
  | some word, _ =>
    match Effort.ofWord? word with
    | some e => .ok (some e)
    | none => .error (.effortOption word)
  | none, some count => .ok (some (b.effort count))
  | none, none => .ok plain

/-- the shared form of a request -/
def Request.lift (b : Budgets) (q : Request) : Except RequestFault ChatRelay.Request := do
  let base ← q.base.lift
  let effort ← match q.reasoning with
    | some x => x.effortOr b base.effort
    | none => pure base.effort
  let streamOptions :=
    if base.stream && q.usage.any (·.wanted) then some { includeUsage := true }
    else base.streamOptions
  return { base with effort, streamOptions }

/-- a request for a backend: the effort moves into the reasoning object, usage is always asked
for -/
def lowerRequest (q : ChatRelay.Request) : Request :=
  { base := { OpenAi.lowerRequest q with reasoningEffort := none }
    reasoning := q.effort.map fun e => { effort := some e.name }
    usage := some { wanted := true } }

end ChatRelay.OpenRouter
