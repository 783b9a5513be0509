import ChatRelay.Relay

/-!
# Hubs

A hub has the backends that settings name.  Its relays share one chain and one policy.

* `Hub.ofSettings`  the hub of settings;
* `Hub.relay`       the relay between a caller's format and a backend.
-/

namespace ChatRelay

/-- backends by name, with the chain and the policy of every relay -/
structure Hub where
  backends : List (String × Backend)
  budgets : Budgets
  chain : Chain
  policy : RetryPolicy

/-- a channel with the address it has unless one is configured -/
def ChannelSettings.channel (defaultBase : String) (s : ChannelSettings) :
    Except Fault Channel :=
  match s.baseUrl with
  | some baseUrl => .ok { name := s.name, baseUrl, apiKey := s.apiKey }
  | none =>
    match Url.parse defaultBase with
    | .ok baseUrl => .ok { name := s.name, baseUrl, apiKey := s.apiKey }
    | .error p =>
      .error (.internal ("invalid default base URL '" ++ defaultBase ++ "': " ++ p.message))

/-- every item of a list changed; the first fault ends it -/
def changeAll {α β : Type} (f : α → Except Fault β) : List α → Except Fault (List β)
  | [] => .ok []
  | a :: as => do
    let b ← f a
    let bs ← changeAll f as
    return b :: bs

/-- a backend of settings, its first channel active -/
def BackendSettings.backend (budgets : Budgets) (s : BackendSettings) : Except Fault Backend := do
  let channels ← changeAll (ChannelSettings.channel (Backend.defaultBase s.dialect)) s.channels
  return { dialect := s.dialect, channels, budgets }

namespace Hub

/-- the hub of settings -/
def ofSettings (durations : Duration.Reader) (s : Settings) : Except Fault Hub := do
  let backends ← changeAll (fun (name, b) => do return (name, ← b.backend s.budgets)) s.backends
  let policy ← (RetryPolicy.ofSettings durations s.retry).mapError fun p => .internal p.message
  return { backends, budgets := s.budgets, chain := .ofSettings s.decorators, policy }

/-- the names of the backends in the order of the settings -/
def names (h : Hub) : List String := h.backends.map (·.1)

/-- the relay between a caller's format and a backend -/
def relay (h : Hub) (d : Dialect) (name : String) : Except Fault Relay :=
  match h.backends.lookup name with
  | some backend =>
    .ok {
      caller := { dialect := d, budgets := h.budgets }
      backend
      chain := h.chain
      policy := h.policy }
  | none => .error (.unknownBackend name)

end Hub
end ChatRelay
