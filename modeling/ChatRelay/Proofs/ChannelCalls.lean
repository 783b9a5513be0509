import ChatRelay.Proofs.Attempts
import Mathlib

/-!
# Calls and channels

A backend that fails over changes its channel and nothing else.  So call `i` of a run goes to the
address of channel `i` and bears the key of that channel, or none where it has none, while the rest
of the call is the same on every channel: it is made of the prepared request alone.

* `map_auth_eq_some_iff`       whose key a call bears;
* `call_of_getElem?_attempts`  call `j` of the attempts from channel `i` on;
* `sent_on_channel`            the calls of a run.
-/

namespace ChatRelay

namespace Backend

theorem auth_inj {d : Dialect} {k l : String} (h : auth d k = auth d l) : k = l := by
  cases d with
  | anthropic => exact (Http.Auth.header.inj h).2
  | openAi | openRouter => exact Http.Auth.bearer.inj h

/-- a key is sent exactly where the channel has it -/
theorem map_auth_eq_some_iff {d : Dialect} {apiKey : Option String} {key : String} :
    apiKey.map (auth d) = some (auth d key) ↔ apiKey = some key := by
  constructor
  · intro h
    obtain ⟨k, hk, hauth⟩ := Option.map_eq_some_iff.mp h
    rw [hk, auth_inj hauth]
  · rintro rfl
    rfl

end Backend

namespace Relay

variable {r : Relay} {a : Ambient} {net : Network} {q : Request}

theorem call_of_attempt {b : Backend} {n time : Nat} {s : Sent}
    (h : (r.attempt a net b q n time).1 = some s) : b.call q = .ok s.call := by
  unfold attempt at h
  split at h
  · exact nomatch h
  · next call hcall => rw [hcall, ← Option.some.inj h]

theorem attempt_of_call {b : Backend} {call : Http.Call} (h : b.call q = .ok call) (n time : Nat) :
    r.attempt a net b q n time =
      (some { call, ownExecutor := b.ownExecutor, stream := q.stream, time },
        r.receive a net b q.stream n call) := by
  rw [attempt, h]

/-- another attempt is made on the next channel -/
theorem eq_tried_of_next? {i : Nat} {c : Backend} (h : r.next? i = some c) :
    c = r.tried (i + 1) := by
  unfold next? at h
  unfold tried
  split at h
  · next hover =>
    obtain ⟨-, rfl⟩ := Backend.at?_eq_some_iff.mp h
    rw [if_pos hover]
  · next hover => rw [if_neg hover, Option.some.inj h]

/-- an attempt that is the last makes call `0` at most -/
theorem call_of_last {i n time j : Nat} {s : Sent}
    (h : (r.attempt a net (r.tried i) q n time).1.toList[j]? = some s) :
    (r.tried (i + j)).call q = .ok s.call := by
  cases hsent : (r.attempt a net (r.tried i) q n time).1 with
  | none =>
    rw [hsent] at h
    exact nomatch h
  | some x =>
    rw [hsent] at h
    cases j with
    | zero =>
      obtain rfl : x = s := Option.some.inj h
      exact call_of_attempt hsent
    | succ j => exact nomatch h

/-- call `j` of the attempts from channel `i` on is the call on channel `i + j` -/
theorem call_of_getElem?_attempts {left i n time j : Nat} {s : Sent}
    (h : (r.attempts a net q left (r.tried i) i n time).sent[j]? = some s) :
    (r.tried (i + j)).call q = .ok s.call := by
  -- by induction on the retries left; the channel and the place of the call move on together
  induction left generalizing i n time j with
  | zero =>
    cases ho : (r.attempt a net (r.tried i) q n time).2 with
    | ok d => rw [attempts_of_ok ho] at h; exact call_of_last h
    | error f => rw [attempts_zero ho] at h; exact call_of_last h
  | succ left ih =>
    cases ho : (r.attempt a net (r.tried i) q n time).2 with
    | ok d => rw [attempts_of_ok ho] at h; exact call_of_last h
    | error f =>
      rw [attempts_succ ho] at h
      split at h
      · next hallows =>
        split at h
        · exact call_of_last h
        · next c hnext =>
          rw [eq_tried_of_next? hnext] at h
          -- a fault that allows another attempt came from a call
          obtain ⟨x, hx⟩ := sent_of_allows ho hallows
          rw [hx] at h
          cases j with
          | zero =>
            obtain rfl : x = s := Option.some.inj h
            exact call_of_attempt hx
          | succ j =>
            have hrest : (r.tried (i + 1 + j)).call q = .ok s.call := ih h
            rwa [Nat.add_right_comm i 1 j] at hrest
      · exact call_of_last h

/-- **Every call on its channel.**  A body that is refused makes no call.  Of any other, call `i`
goes to the address of channel `i`, with the key of that channel and of no other; method, headers
and body are made of the prepared request and are the same for all calls.  The backend is as it was
made: every backend that settings make has its first channel active (`Backend.Ready.fresh`), and
only a run goes on to the next. -/
theorem sent_on_channel (r : Relay) (hover : r.backend.mayFailOver = true)
    (hfirst : r.backend.active = 0) (a : Ambient) (net : Network) (body : ByteArray)
    (n time : Nat) :
    (∀ f, r.prepare body = .error f → (r.run a net body n time).sent = []) ∧
    ∀ q, r.prepare body = .ok q → ∀ (i : Nat) (s : Sent),
      (r.run a net body n time).sent[i]? = some s →
      ∃ (c : Channel) (u : Url), r.backend.channels[i]? = some c ∧
        c.endpoint (Backend.requestPath r.backend.dialect) = .ok u ∧
        (∀ key, s.call.auth = some (Backend.auth r.backend.dialect key) ↔ c.apiKey = some key) ∧
        s.call = {
          method := "POST"
          url := u.render
          headers := Backend.callHeaders r.backend.dialect
          body := (r.backend.lowerBody q).render
          auth := c.apiKey.map (Backend.auth r.backend.dialect) } := by
  constructor
  · intro f hf
    rw [run, hf]
  · intro q hq i s hs
    have htried : ∀ i, r.tried i = { r.backend with active := i } := fun i => if_pos hover
    have hstart : r.tried 0 = r.backend := by rw [htried, ← hfirst]
    rw [run, hq] at hs
    have hcall : (r.tried (0 + i)).call q = .ok s.call :=
      call_of_getElem?_attempts (by rw [hstart]; exact hs)
    rw [Nat.zero_add, htried, Backend.call_eq_ok_iff] at hcall
    obtain ⟨c, u, hc, hu, hcall⟩ := hcall
    refine ⟨c, u, hc, hu, fun key => ?_, hcall⟩
    rw [hcall]
    exact Backend.map_auth_eq_some_iff

/-- two channels with keys of their own -/
def keyed (key : String → String) : Relay :=
  { paired with
    backend := { paired.backend with
      dialect := .anthropic
      channels := paired.backend.channels.map fun c => { c with apiKey := some (key c.name) } } }

theorem prepare_keyed (key : String → String) : ∃ q, (keyed key).prepare question = .ok q := by
  have hread : (paired.prepare question).isOk = true := by decide +kernel
  exact exists_ok_of_isOk hread

theorem call_keyed (key : String → String) (q : Request) {i : Nat} (hi : i < 2) :
    ∃ call, ((keyed key).tried i).call q = .ok call := by
  have hsite : ∀ c ∈ (keyed key).backend.channels,
      (c.endpoint (Backend.requestPath .anthropic)).isOk = true := by
    refine List.forall_mem_cons.mpr ⟨?_, List.forall_mem_singleton.mpr ?_⟩ <;> cbv
  have hchannel : (keyed key).backend.channels[i]? = some (keyed key).backend.channels[i] :=
    List.getElem?_eq_getElem hi
  obtain ⟨u, hu⟩ := exists_ok_of_isOk (hsite _ (List.getElem_mem hi))
  exact ⟨_, Backend.call_eq_ok_iff.mpr ⟨_, u, hchannel, hu, rfl⟩⟩

theorem sent_keyed (key : String → String) :
    ((keyed key).run ⟨0, fun _ => ""⟩ down question 0 0).sent.length = 2 := by
  obtain ⟨q, hq⟩ := prepare_keyed key
  obtain ⟨first, hfirst⟩ := call_keyed key q (i := 0) (by decide)
  obtain ⟨second, hsecond⟩ := call_keyed key q (i := 1) (by decide)
  have hdown : ∀ {b : Backend} {call : Http.Call} (n : Nat), b.call q = .ok call →
      (keyed key).attempt ⟨0, fun _ => ""⟩ down b q n 0 = (some {
        call, ownExecutor := b.ownExecutor, stream := q.stream, time := 0 },
        .error (.transport "down")) := by
    intro b call n hcall
    rw [attempt_of_call hcall, receive]
    cases q.stream <;> rfl
  rw [run, hq]
  show ((keyed key).attempts ⟨0, fun _ => ""⟩ down q 2 ((keyed key).tried 0) 0 0 0).sent.length = 2
  rw [attempts_succ (by rw [hdown 0 hfirst]), hdown 0 hfirst]
  show ((keyed key).attempts ⟨0, fun _ => ""⟩ down q 1 ((keyed key).tried 1) 1 1 0).sent.length + 1
    = 2
  rw [attempts_succ (by rw [hdown 1 hsecond]), hdown 1 hsecond]
  rfl

theorem sent_on_channel_keyed :
    ∃ s, ((keyed ("key of " ++ ·)).run ⟨0, fun _ => ""⟩ down question 0 0).sent[1]? = some s ∧
      s.call.auth = some (.header "x-api-key" "key of b") := by
  obtain ⟨q, hq⟩ := prepare_keyed ("key of " ++ ·)
  have hsecond :
      1 < ((keyed ("key of " ++ ·)).run ⟨0, fun _ => ""⟩ down question 0 0).sent.length := by
    rw [sent_keyed]
    decide
  have hs := List.getElem?_eq_getElem hsecond
  obtain ⟨c, u, hc, -, hkey, -⟩ :=
    (sent_on_channel (keyed ("key of " ++ ·)) rfl rfl ⟨0, fun _ => ""⟩ down question 0 0).2
      q hq 1 _ hs
  refine ⟨_, hs, (hkey "key of b").mpr ?_⟩
  rw [← Option.some.inj hc]
  rfl

end Relay
end ChatRelay
