import ChatRelay.Backend.Basic
import ChatRelay.Dialect.Anthropic.Stream
import ChatRelay.Dialect.OpenAi.Stream

/-!
# What a backend answers

* `Backend.lift`       a complete answer in the shared form;
* `Backend.liftFeed`   a stream in the shared form;
* `Backend.aggregate`  the response that a recorded stream adds up to;
* `Backend.report`     the report of a fault; the body of an error answer is read for it.
-/

namespace ChatRelay

/-- a recorded stream as one response: its text and the usage in it -/
structure Aggregated where
  body : String
  usage : Option Usage
  deriving DecidableEq, Repr

/-- a response as the text that it is aggregated to -/
def Aggregated.ofResponse (p : Response) : Aggregated :=
  { body := p.toJson.render, usage := p.usage }

/-- a complete chat completion.  An error envelope in its place counts as a bad gateway. -/
def OpenAi.liftReply (r : Http.Reply) : Except Fault Response :=
  match Json.parseBytes Completion.ofJson r.body with
  | .ok completion => completion.lift.mapError .transform
  | .error problem =>
    match Json.parseBytes ErrorDetail.ofEnvelope r.body with
    | .ok _ => .error (.backend 502 (Text.Utf8.lenient r.body) r.requestId)
    | .error _ => .error (.transform (.response problem))

/-- a complete message -/
def Anthropic.liftReply (now : UInt64) (r : Http.Reply) : Except Fault Response :=
  match Json.parseBytes (Answer.ofJson .direct) r.body with
  | .ok answer => .ok (answer.lift now)
  | .error problem => .error (.transform (.response problem))

namespace Backend

/-- a complete answer in the shared form -/
def lift (b : Backend) (now : UInt64) (r : Http.Reply) : Except Fault Response :=
  match b.dialect with
  | .anthropic => Anthropic.liftReply now r
  | .openAi | .openRouter => OpenAi.liftReply r

/-- a stream in the shared form -/
def liftFeed (b : Backend) (now : UInt64) (x : Feed ServerEvent) : Feed Response :=
  match b.dialect with
  | .anthropic => Anthropic.liftFeed now x
  | .openAi | .openRouter => OpenAi.liftFeed x

/-- the response that a recorded stream adds up to -/
def aggregate (b : Backend) (now : UInt64) (events : List ServerEvent) :
    Except Fault Aggregated :=
  match b.dialect with
  | .anthropic => (Anthropic.aggregate now events).map .ofResponse
  | .openAi | .openRouter => .ok (.ofResponse (OpenAi.aggregate events))

/-- the body of an error answer laid over the report of its status -/
def readError (d : Dialect) (body : String) (fallback : ErrorReport) : ErrorReport :=
  match d with
  | .anthropic => Anthropic.readError body fallback
  | .openAi | .openRouter => OpenAi.readError body fallback

/-- the report of a fault -/
def report (b : Backend) (f : Fault) : ErrorReport :=
  match f with
  | .backend _ body _ => readError b.dialect body f.report
  | _ => f.report

end Backend
end ChatRelay
