import ChatRelay.Channel
import ChatRelay.Conversation.Request

/-!
# Backends

A backend is one wire format behind one or more channels, one of them active.

* `Backend.at?`       the same backend with another channel active;
* `Backend.current`   the active channel.
-/

namespace ChatRelay

/-- a wire format behind channels -/
structure Backend where
  dialect : Dialect
  channels : List Channel
  active : Nat := 0
  budgets : Budgets := {}
  /-- whether another channel may be tried when one fails -/
  mayFailOver : Bool := true
  /-- whether the backend brings its own executor -/
  ownExecutor : Bool := false
  deriving DecidableEq, Repr

namespace Backend

/-- the active channel -/
def current (b : Backend) : Except Fault Channel :=
  match b.channels[b.active]? with
  | some c => .ok c
  | none => .error (.internal "backend has no channel configured")

theorem current_eq_ok_iff {b : Backend} {c : Channel} :
    b.current = .ok c ↔ b.channels[b.active]? = some c := by
  unfold current
  cases b.channels[b.active]? with
  | none => exact ⟨nofun, nofun⟩
  | some x => exact ⟨fun h => congrArg some (Except.ok.inj h), fun h => by rw [Option.some.inj h]⟩

/-- the name of the active channel, the empty text where there is none -/
def channelName (b : Backend) : String := (b.channels[b.active]?.map (·.name)).getD ""

/-- the same backend with channel `i` active, none where there is no such channel -/
def at? (b : Backend) (i : Nat) : Option Backend :=
  if i < b.channels.length then some { b with active := i } else none

theorem at?_eq_some_iff {b c : Backend} {i : Nat} :
    b.at? i = some c ↔ i < b.channels.length ∧ c = { b with active := i } := by
  simp [at?, eq_comm]

/-- the address that backends of a dialect have unless configured otherwise -/
def defaultBase : Dialect → String
  | .openAi => "https://api.openai.com/v1"
  | .anthropic => "https://api.anthropic.com/v1"
  | .openRouter => "https://openrouter.ai/api/v1"

/-- where requests go below the base address -/
def requestPath : Dialect → String
  | .anthropic => "messages"
  | .openAi | .openRouter => "chat/completions"

end Backend
end ChatRelay
