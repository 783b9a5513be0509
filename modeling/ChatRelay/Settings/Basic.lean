import ChatRelay.Conversation.Request
import ChatRelay.Url.Basic

/-!
# Settings

What an operator configures: backends with their channels, when to try again, which decorators are
on, what the efforts stand for, and how to log.

A pause is configured as a text.  How such a text is to be read is left open: settings are checked
and used with a reader of durations, and with any reader the same follows.

* `Settings.Problem`     what can be wrong with settings;
* `Duration.Reader`      a reader of durations;
* `RetrySettings.pause`  the pause that settings ask for.
-/

namespace ChatRelay

/-- a channel as configured; without an address it has the one of its backend's format -/
structure ChannelSettings where
  name : String
  baseUrl : Option Url := none
  apiKey : Option String := none
  deriving DecidableEq, Repr

/-- a backend as configured -/
structure BackendSettings where
  dialect : Dialect
  channels : List ChannelSettings := []
  deriving DecidableEq, Repr

/-- when to try again: how often, after which pause, and on which failures; no texts mean all -/
structure RetrySettings where
  maxRetries : UInt32 := 2
  delay : String := "0s"
  retryable : List String := []
  deriving DecidableEq, Repr

/-- which decorators are on: one whose value is missing is off -/
structure DecoratorSettings where
  defaultMaxTokens : Option TokenCount := none
  maxTokensCap : Option TokenCount := none
  defaultTemperature : Option Float := none
  forceStreamUsage : Bool := true
  deriving DecidableEq, Repr

/-- how a line of the log is written -/
inductive LogStyle where
  | pretty
  | json
  deriving DecidableEq, Repr

/-- what is logged and how -/
structure TelemetrySettings where
  filter : String := "info"
  style : LogStyle := .pretty
  deriving DecidableEq, Repr

/-- everything that is configured, the backends in the order of the file -/
structure Settings where
  backends : List (String × BackendSettings) := []
  retry : RetrySettings := {}
  decorators : DecoratorSettings := {}
  budgets : Budgets := {}
  telemetry : Option TelemetrySettings := none
  deriving DecidableEq, Repr

/-- why a placeholder cannot be replaced -/
inductive PlaceholderProblem where
  | scope (key : String)
  | unset (name : String)
  deriving DecidableEq, Repr

/-- the wording of a placeholder's problem -/
def PlaceholderProblem.message : PlaceholderProblem → String
  | .scope key => "only variables scoped with 'env.' are supported: \x60" ++ key ++ "\x60"
  | .unset name => "environment variable not found: \x60" ++ name ++ "\x60"

/-- what is wrong with settings -/
inductive Settings.Problem where
  | file (path reason : String)
  | placeholder (problem : PlaceholderProblem)
  | grammar (reason : String)
  | noBackend
  | noChannel (backend : String)
  | repeatedChannel (backend channel : String)
  | delay (text reason : String)
  | emptyRetryable
  | capBelowDefault (cap default : TokenCount)
  | zeroBound
  | budgets (b : Budgets)
  deriving DecidableEq, Repr

/-- the wording of a problem -/
def Settings.Problem.message : Settings.Problem → String
  | file path reason => "failed to read config file " ++ path ++ ": " ++ reason
  | placeholder p => "config variable expansion failed: " ++ p.message
  | grammar reason => "failed to parse config: " ++ reason
  | noBackend => "at least one backend must be configured under [llm.backends]"
  | noChannel backend => "backend '" ++ backend ++ "' must define at least one channel"
  | repeatedChannel backend channel =>
    "backend '" ++ backend ++ "' has duplicate channel '" ++ channel ++ "'"
  | delay text reason => "invalid retry_delay '" ++ text ++ "': " ++ reason
  | emptyRetryable => "pipeline.retryable_errors must not contain empty strings"
  | capBelowDefault cap default =>
    s!"decorators.max_tokens_cap ({cap}) is below decorators.default_max_tokens ({default})"
  | zeroBound => "decorator token bounds must be greater than 0"
  | budgets b =>
    s!"reasoning budgets must strictly increase (low {b.low}, medium {b.medium}, high {b.high})"

/-- reads a text as a duration: its nanoseconds, or what is wrong with the text -/
abbrev Duration.Reader := String → Except String Nat

/-- the nanoseconds to wait before trying again -/
def RetrySettings.pause (durations : Duration.Reader) (s : RetrySettings) :
    Except Settings.Problem Nat :=
  (durations s.delay).mapError (.delay s.delay)

end ChatRelay
