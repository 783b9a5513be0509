import ChatRelay.Fault
import ChatRelay.Settings.Basic

/-!
# Decorators

A decorator changes requests before they are sent and complete responses before they are answered.
A chain runs its decorators in order, each on what the one before made of it; a name stands in a
chain at most once.

* `Chain.register`, `Chain.remove`           what stands in a chain;
* `Chain.applyRequest`, `Chain.applyResponse`  what it does;
* `Chain.ofSettings`                         the decorators that settings turn on.
-/

namespace ChatRelay

/-- a named change of requests and responses -/
structure Decorator where
  name : String
  onRequest : Request → Except Fault Request := .ok
  onResponse : Response → Except Fault Response := .ok

/-- decorators in the order they run -/
structure Chain where
  decorators : List Decorator := []

/-- where a chain failed: the decorator, what it was given, and its fault -/
structure Stuck (α : Type) where
  decorator : String
  last : α
  fault : Fault
  deriving Repr

namespace Chain

/-! ## what stands in a chain -/

/-- the names in order -/
def names (c : Chain) : List String := c.decorators.map (·.name)

/-- decorators with one more: in place of the one with its name, else at the end -/
def put (d : Decorator) : List Decorator → List Decorator
  | [] => [d]
  | x :: xs => if x.name = d.name then d :: xs else x :: put d xs

/-- a chain with one more decorator: in place of the one with its name, else at the end -/
def register (c : Chain) (d : Decorator) : Chain := ⟨put d c.decorators⟩

/-- a chain without a decorator -/
def remove (c : Chain) (name : String) : Chain := ⟨c.decorators.filter (·.name ≠ name)⟩

/-- whether taking a name out of a chain leaves it shorter -/
def removes (c : Chain) (name : String) : Bool :=
  (c.remove name).decorators.length ≠ c.decorators.length

/-- whether a decorator stands in a chain -/
def has (c : Chain) (name : String) : Bool := name ∈ c.names

/-- the decorator with a name -/
def find? (c : Chain) (name : String) : Option Decorator := c.decorators.find? (·.name = name)

/-! ## what a chain does -/

/-- steps in order, each on what the one before made; the first fault ends the run -/
def run {α : Type} (step : Decorator → α → Except Fault α) :
    List Decorator → α → Except (Stuck α) α
  | [], a => .ok a
  | d :: ds, a =>
    match step d a with
    | .ok next => run step ds next
    | .error fault => .error { decorator := d.name, last := a, fault }

/-- a request after every decorator -/
def applyRequest (c : Chain) (q : Request) : Except (Stuck Request) Request :=
  run Decorator.onRequest c.decorators q

/-- a response after every decorator -/
def applyResponse (c : Chain) (p : Response) : Except (Stuck Response) Response :=
  run Decorator.onResponse c.decorators p

theorem run_append {α : Type} (step : Decorator → α → Except Fault α) (ds es : List Decorator)
    (a : α) : run step (ds ++ es) a = (run step ds a).bind (run step es) := by
  induction ds generalizing a with
  | nil => rfl
  | cons d ds ih =>
    simp only [List.cons_append, run]
    split
    · exact ih _
    · rfl

theorem run_append_of_ok {α : Type} {step : Decorator → α → Except Fault α}
    {ds : List Decorator} {a b : α} (h : run step ds a = .ok b) (es : List Decorator) :
    run step (ds ++ es) a = run step es b := by
  rw [run_append, h]
  rfl

end Chain

/-! ## the decorators that settings know -/

namespace Decorator

/-- a bound for requests that have none -/
def defaultMaxTokens (bound : TokenCount) : Decorator :=
  { name := "default_max_tokens"
    onRequest := fun q =>
      .ok (if q.tokenBound.isSome then q
        else { q with params := { q.params with maxTokens := some bound } }) }

/-- no bound above a cap -/
def maxTokensCap (cap : TokenCount) : Decorator :=
  { name := "max_tokens_cap"
    onRequest := fun q =>
      .ok { q with params := { q.params with
        maxTokens := q.params.maxTokens.map (min · cap)
        maxCompletionTokens := q.params.maxCompletionTokens.map (min · cap) } } }

/-- a temperature for requests that have none -/
def defaultTemperature (temperature : Float) : Decorator :=
  { name := "default_temperature"
    onRequest := fun q =>
      .ok (if q.params.temperature.isSome then q
        else { q with params := { q.params with temperature := some temperature } }) }

/-- usage at the end of every stream -/
def streamUsage : Decorator :=
  { name := "stream_usage"
    onRequest := fun q =>
      .ok (if q.stream then { q with streamOptions := some { includeUsage := true } } else q) }

end Decorator

/-- the decorators that settings turn on -/
def DecoratorSettings.decorators (s : DecoratorSettings) : List Decorator :=
  (s.defaultMaxTokens.map .defaultMaxTokens).toList
    ++ (s.maxTokensCap.map .maxTokensCap).toList
    ++ (s.defaultTemperature.map .defaultTemperature).toList
    ++ (if s.forceStreamUsage then [.streamUsage] else [])

/-- the chain of the decorators that settings turn on -/
def Chain.ofSettings (s : DecoratorSettings) : Chain := s.decorators.foldl .register {}

end ChatRelay
