import ChatRelay.Settings.Codec
import ChatRelay.Settings.Placeholder
import ChatRelay.Text.Utf8
import ChatRelay.Toml.Document

/-!
# Settings files

* `Settings.check`   the first thing that does not fit together in settings;
* `Settings.parse`   the settings of a text: placeholders replaced, read, checked;
* `Settings.load`    the settings of a file.
-/

namespace ChatRelay.Settings

/-- the first name of a list that has come before -/
def repeatedName? : (seen : List String) → List String → Option String
  | _, [] => none
  | seen, name :: names =>
    if name ∈ seen then some name else repeatedName? (name :: seen) names

/-- what is wrong with a backend: it has no channel, or two of one name -/
def backendProblem? (name : String) (b : BackendSettings) : Option Problem :=
  if b.channels.isEmpty then some (.noChannel name)
  else (repeatedName? [] (b.channels.map (·.name))).map (.repeatedChannel name)

/-- what is wrong with the backends -/
def backendsProblem? (bs : List (String × BackendSettings)) : Option Problem :=
  if bs.isEmpty then some .noBackend
  else bs.findSome? fun (name, b) => backendProblem? name b

/-- what is wrong with when to try again -/
def retryProblem? (durations : Duration.Reader) (s : RetrySettings) : Option Problem :=
  match s.pause durations with
  | .error p => some p
  | .ok _ => if s.retryable.contains "" then some .emptyRetryable else none

/-- what is wrong with the decorators: a cap below the default, or a bound of zero -/
def decoratorsProblem? (s : DecoratorSettings) : Option Problem :=
  let zero : Option Problem :=
    if s.maxTokensCap = some 0 ∨ s.defaultMaxTokens = some 0 then some .zeroBound else none
  match s.defaultMaxTokens, s.maxTokensCap with
  | some bound, some cap => if cap < bound then some (.capBelowDefault cap bound) else zero
  | _, _ => zero

/-- what is wrong with the budgets: they do not grow -/
def budgetsProblem? (b : Budgets) : Option Problem :=
  if b.low < b.medium ∧ b.medium < b.high then none else some (.budgets b)

/-- the first thing that is wrong with settings -/
def problem? (durations : Duration.Reader) (s : Settings) : Option Problem :=
  (backendsProblem? s.backends).or <| (retryProblem? durations s.retry).or <|
    (decoratorsProblem? s.decorators).or (budgetsProblem? s.budgets)

/-- whether everything fits together -/
def check (durations : Duration.Reader) (s : Settings) : Except Problem Unit :=
  match s.problem? durations with
  | some p => .error p
  | none => .ok ()

/-- the settings of a text -/
def parse (durations : Duration.Reader) (env : Environment) (text : String) :
    Except Problem Settings := do
  let text ← (expand env text).mapError .placeholder
  match Toml.read? text with
  | none => throw (.grammar "the text is no settings file")
  | some j =>
    let s ← (ofJson j).mapError fun p => .grammar p.message
    s.check durations
    return s

/-- the settings of a file, whose content is none where there is no such file -/
def load (durations : Duration.Reader) (env : Environment) (path : String)
    (content : Option ByteArray) : Except Problem Settings :=
  match content with
  | none => .error (.file path "No such file or directory (os error 2)")
  | some bytes =>
    match Text.Utf8.strict? bytes with
    | none => .error (.file path "stream did not contain valid UTF-8")
    | some text => parse durations env text

end ChatRelay.Settings
