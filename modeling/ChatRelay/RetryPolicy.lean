import ChatRelay.Fault
import ChatRelay.Settings.Basic
import ChatRelay.Text.Cut

/-!
# When to try again

* `RetryPolicy.allows`      whether a fault allows another attempt, however many there were;
* `RetryPolicy.pause`       how long to wait before it;
* `RetryPolicy.ofSettings`  the policy of settings.
-/

namespace ChatRelay

/-- the faults that allow another attempt -/
inductive Retryable where
  | all
  | containing (texts : List String)
  deriving DecidableEq, Repr

/-- how often to try again, after how many nanoseconds, and on which faults -/
structure RetryPolicy where
  maxRetries : UInt32 := 2
  delay : Nat := 0
  retryable : Retryable := .all
  deriving DecidableEq, Repr

namespace RetryPolicy

/-- whether a fault allows another attempt: one that trying again may cure, and whose wording has
one of the texts if there are any -/
def allows (p : RetryPolicy) (f : Fault) : Bool :=
  f.isRetryable &&
    match p.retryable with
    | .all => true
    | .containing texts => texts.any (Text.contains f.message)

theorem isRetryable_of_allows {p : RetryPolicy} {f : Fault} (h : p.allows f = true) :
    f.isRetryable = true := by
  simp only [allows, Bool.and_eq_true] at h
  exact h.1

/-- how long to wait before another attempt: never longer than thirty years -/
def pause (p : RetryPolicy) : Nat := min p.delay 946080000000000000

/-- the policy of settings; no texts mean every fault -/
def ofSettings (durations : Duration.Reader) (s : RetrySettings) :
    Except Settings.Problem RetryPolicy := do
  let delay ← s.pause durations
  return {
    maxRetries := s.maxRetries
    delay
    retryable := if s.retryable.isEmpty then .all else .containing s.retryable }

end RetryPolicy
end ChatRelay
