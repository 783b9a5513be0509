import ChatRelay.Backend.Call
import ChatRelay.Backend.Reply
import ChatRelay.Caller
import ChatRelay.Decorator
import ChatRelay.Feed.Handle
import ChatRelay.RetryPolicy

/-!
# The way of a request

A relay joins a caller with a backend.  A request is read, decorated, sent, and what comes back is
brought into the caller's format.  A failed attempt is made again on the next channel, as long as
the policy allows it and there is one; a backend that may not fail over is asked again itself.
Every failure is reported by the backend that failed and written in the caller's format.

The network is a function of the number of the call, so that a run depends on nothing else.

* `Relay.attempt`   one attempt;
* `Relay.attempts`  attempts until one succeeds or none may follow;
* `Relay.run`       the whole way of a request body.
-/

namespace ChatRelay

/-- a call as it was sent: by which executor, whether as a stream, and when -/
structure Sent where
  call : Http.Call
  ownExecutor : Bool
  stream : Bool
  time : Nat
  deriving DecidableEq, Repr

/-- what backends answer to the calls of a run, by the number of the call -/
structure Network where
  reply : Nat → Http.Call → Except Fault Http.Reply
  events : Nat → Http.Call → Except Fault (List (Except Fault ServerEvent))

/-- what a caller is given -/
inductive Delivery where
  | answer (a : Http.Answer)
  | stream (events : Feed ServerEvent)
  deriving Repr

/-- what a caller is told about a failure -/
structure Failure where
  answer : Http.Answer
  report : ErrorReport
  deriving DecidableEq, Repr

/-- what a run comes to, the calls it made and the time it ended -/
structure Run where
  result : Except Failure Delivery
  sent : List Sent
  time : Nat

/-- a run after another call -/
def Run.after (sent : Option Sent) (r : Run) : Run := { r with sent := sent.toList ++ r.sent }

/-- a caller joined with a backend -/
structure Relay where
  caller : Caller
  backend : Backend
  chain : Chain := {}
  policy : RetryPolicy := {}

namespace Relay

/-- a failure in the caller's format -/
def fail (r : Relay) (b : Backend) (f : Fault) : Failure :=
  { answer := r.caller.renderError (b.report f), report := b.report f }

/-- a complete answer of a backend in the caller's format -/
def answer (r : Relay) (a : Ambient) (b : Backend) (reply : Http.Reply) :
    Except Fault Delivery := do
  let p ← b.lift a.now reply
  let p ← (r.chain.applyResponse p).mapError Stuck.fault
  return .answer { body := r.caller.renderResponse a p }

/-- a stream of a backend in the caller's format -/
def stream (r : Relay) (a : Ambient) (b : Backend) (events : List (Except Fault ServerEvent)) :
    Delivery :=
  .stream (r.caller.renderFeed a (b.liftFeed a.now (.ofSource events)))

/-- what call `n` brings, for a request that was lowered to it -/
def receive (r : Relay) (a : Ambient) (net : Network) (b : Backend) (streamed : Bool) (n : Nat)
    (call : Http.Call) : Except Fault Delivery :=
  if streamed then (net.events n call).map (r.stream a b)
  else net.reply n call >>= r.answer a b

/-- one attempt, as call `n`: what was sent, and what came of it -/
def attempt (r : Relay) (a : Ambient) (net : Network) (b : Backend) (q : Request) (n time : Nat) :
    Option Sent × Except Fault Delivery :=
  match b.call q with
  | .error f => (none, .error f)
  | .ok call =>
    (some { call, ownExecutor := b.ownExecutor, stream := q.stream, time },
      r.receive a net b q.stream n call)

/-- the backend for the attempt after one on channel `i`, none where no channel is left -/
def next? (r : Relay) (i : Nat) : Option Backend :=
  if r.backend.mayFailOver then r.backend.at? (i + 1) else some r.backend

/-- attempts from channel `i` on, as calls from `n` on, with `left` more after the first -/
def attempts (r : Relay) (a : Ambient) (net : Network) (q : Request) :
    (left : Nat) → (b : Backend) → (i n time : Nat) → Run
  | left, b, i, n, time =>
    let (sent, outcome) := r.attempt a net b q n time
    match outcome with
    | .ok d => { result := .ok d, sent := sent.toList, time }
    | .error f =>
      let failed : Run := { result := .error (r.fail b f), sent := sent.toList, time }
      match left with
      | 0 => failed
      | left + 1 =>
        if r.policy.allows f then
          match r.next? i with
          | none => failed
          | some c =>
            (r.attempts a net q left c (i + 1) (n + sent.toList.length)
              (time + r.policy.pause)).after sent
        else failed

/-- a request body as it is to be sent: read and decorated -/
def prepare (r : Relay) (body : ByteArray) : Except Fault Request := do
  let q ← (r.caller.readRequest body).mapError .invalidRequest
  (r.chain.applyRequest q).mapError Stuck.fault

/-- the whole way of a request body that comes at a time, its first call being call `n` -/
def run (r : Relay) (a : Ambient) (net : Network) (body : ByteArray) (n time : Nat) : Run :=
  match r.prepare body with
  | .error f => { result := .error (r.fail r.backend f), sent := [], time }
  | .ok q => r.attempts a net q r.policy.maxRetries.toNat r.backend 0 n time

end Relay
end ChatRelay
