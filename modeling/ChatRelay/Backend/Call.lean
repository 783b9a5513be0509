import ChatRelay.Backend.Basic
import ChatRelay.Dialect.Anthropic.Lower
import ChatRelay.Dialect.OpenRouter

/-!
# Calls to a backend

* `Backend.lowerBody`   the body of a request in the backend's format;
* `Backend.call`        the whole call, with the key of the active channel;
* `call_eq_ok_iff`      what a call is made of.
-/

namespace ChatRelay.Backend

/-- a request in the backend's format -/
def lowerBody (b : Backend) (q : Request) : Json :=
  match b.dialect with
  | .openAi => (OpenAi.lowerRequest q).toJson
  | .anthropic => (Anthropic.lowerRequest b.budgets q).toJson
  | .openRouter => (OpenRouter.lowerRequest q).toJson

/-- the headers of a call; the messages interface wants its version -/
def callHeaders (d : Dialect) : List (String × String) :=
  match d with
  | .anthropic => [("anthropic-version", "2023-06-01"), Http.jsonHeader]
  | .openAi | .openRouter => [Http.jsonHeader]

/-- how a key is sent -/
def auth (d : Dialect) (key : String) : Http.Auth :=
  match d with
  | .anthropic => .header "x-api-key" key
  | .openAi | .openRouter => .bearer key

/-- the call that a request makes on the active channel -/
def call (b : Backend) (q : Request) : Except Fault Http.Call := do
  let channel ← b.current
  let url ← channel.endpoint (requestPath b.dialect)
  return {
    url := url.render
    headers := callHeaders b.dialect
    body := (b.lowerBody q).render
    auth := channel.apiKey.map (auth b.dialect) }

/-- a call is made where there is an active channel whose address can be built, of that address and
of what the channel and the request bring -/
theorem call_eq_ok_iff {b : Backend} {q : Request} {call : Http.Call} :
    b.call q = .ok call ↔ ∃ c u, b.channels[b.active]? = some c ∧
      c.endpoint (requestPath b.dialect) = .ok u ∧
      call = {
        method := "POST"
        url := u.render
        headers := callHeaders b.dialect
        body := (b.lowerBody q).render
        auth := c.apiKey.map (auth b.dialect) } := by
  constructor
  · intro h
    obtain ⟨c, hc, h⟩ := ok_of_bind h
    obtain ⟨u, hu, h⟩ := ok_of_bind h
    exact ⟨c, u, current_eq_ok_iff.mp hc, hu, (Except.ok.inj h).symm⟩
  · rintro ⟨c, u, hc, hu, rfl⟩
    simp only [Backend.call, current_eq_ok_iff.mpr hc, hu, bind, Except.bind, pure, Except.pure]

end ChatRelay.Backend
