import ChatRelay.Relay

/-!
# Which attempts a run makes

Attempt `i` of a run is made on channel `i`, or on the one backend where it may not fail over.
A run stops at the first attempt that succeeds or that none may follow: because the policy rejects
its fault, because retries are used up, or because there is no channel left.

* `Relay.nth`, `Relay.Stops`   the attempts of a run, and which one is its last;
* `Spent.attempts`             attempts are made one after the other until one is the last;
* `run_spent`                  the whole way of a request body.
-/

namespace ChatRelay

theorem Backend.isRetryable_of_call {b : Backend} {q : Request} {f : Fault}
    (h : b.call q = .error f) : f.isRetryable = false := by
  unfold Backend.call Backend.current Channel.endpoint at h
  cases hc : b.channels[b.active]? with
  | none =>
    rw [hc] at h
    obtain rfl : Fault.internal _ = f := Except.error.inj h
    rfl
  | some c =>
    rw [hc] at h
    cases hu : Url.parseChars (c.endpointChars (Backend.requestPath b.dialect).toList) with
    | error p =>
      simp only [bind, Except.bind, hu] at h
      obtain rfl : Fault.transform _ = f := Except.error.inj h
      rfl
    | ok u => simp [bind, Except.bind, hu, pure, Except.pure] at h

namespace Relay

/-- the backend of attempt `i` -/
def tried (r : Relay) (i : Nat) : Backend :=
  if r.backend.mayFailOver then { r.backend with active := i } else r.backend

/-- attempt `i` of a run whose first call is call `n`: what was sent, and what came of it -/
def nth (r : Relay) (a : Ambient) (net : Network) (q : Request) (n time i : Nat) :
    Option Sent × Except Fault Delivery :=
  r.attempt a net (r.tried i) q (n + i) (time + i * r.policy.pause)

/-- whether no attempt may follow attempt `i` -/
def Stops (r : Relay) (i : Nat) (outcome : Except Fault Delivery) : Prop :=
  (∃ d, outcome = .ok d) ∨ (∃ f, outcome = .error f ∧ r.policy.allows f = false) ∨
    i = r.policy.maxRetries.toNat ∨
    (r.backend.mayFailOver = true ∧ i + 1 = r.backend.channels.length)

/-- a backend that fails over begins with the first of its channels -/
def Fresh (b : Backend) : Prop := b.mayFailOver = true → b.active = 0 ∧ 0 < b.channels.length

/-- a run that made the attempts from `i` to `k`, one after the other, and no others -/
structure Spent (r : Relay) (a : Ambient) (net : Network) (q : Request) (n time i k : Nat)
    (run : Run) : Prop where
  order : i ≤ k
  went : ∀ j, i ≤ j → j < k → ¬ r.Stops j (r.nth a net q n time j).2
  stopped : r.Stops k (r.nth a net q n time k).2
  each : ∀ j, i ≤ j → j < k → (r.nth a net q n time j).1.isSome = true
  sent : run.sent
    = (List.range' i (k + 1 - i)).flatMap fun j => (r.nth a net q n time j).1.toList
  result : run.result = (r.nth a net q n time k).2.mapError (r.fail (r.tried k))
  ended : run.time = time + k * r.policy.pause

variable {r : Relay} {a : Ambient} {net : Network} {q : Request} {n time : Nat}

theorem tried_zero (h : Fresh r.backend) : r.tried 0 = r.backend := by
  unfold tried
  split
  · next hf => rw [← (h hf).1]
  · rfl

/-- where another attempt may follow, it is on the next channel -/
theorem next?_eq {i : Nat} (h : r.backend.mayFailOver = true → i < r.backend.channels.length) :
    (r.next? i = none ∧ r.backend.mayFailOver = true ∧ i + 1 = r.backend.channels.length) ∨
      (r.next? i = some (r.tried (i + 1)) ∧
        (r.backend.mayFailOver = true → i + 1 < r.backend.channels.length)) := by
  unfold next? tried Backend.at?
  by_cases hf : r.backend.mayFailOver = true
  · have hi := h hf
    rw [if_pos hf, if_pos hf]
    by_cases hlt : i + 1 < r.backend.channels.length
    · exact .inr ⟨if_pos hlt, fun _ => hlt⟩
    · exact .inl ⟨if_neg hlt, hf, by omega⟩
  · rw [if_neg hf, if_neg hf]
    exact .inr ⟨rfl, fun h => absurd h hf⟩

/-- an attempt that sent nothing failed for good -/
theorem sent_of_allows {b : Backend} {f : Fault} (h : (r.attempt a net b q n time).2 = .error f)
    (hf : r.policy.allows f = true) : ∃ s, (r.attempt a net b q n time).1 = some s := by
  unfold attempt at h ⊢
  split at h
  · next g hg =>
    obtain rfl := Except.error.inj h
    have hno := Backend.isRetryable_of_call hg
    rw [RetryPolicy.isRetryable_of_allows hf] at hno
    simp at hno
  · exact ⟨_, rfl⟩

/-- a run that ends with a failed attempt -/
def failed (r : Relay) (b : Backend) (f : Fault) (sent : Option Sent) (time : Nat) : Run :=
  { result := .error (r.fail b f), sent := sent.toList, time }

section

variable {b : Backend} {i : Nat}

theorem attempts_of_ok {d : Delivery} (h : (r.attempt a net b q n time).2 = .ok d) (left : Nat) :
    r.attempts a net q left b i n time
      = { result := .ok d, sent := (r.attempt a net b q n time).1.toList, time } := by
  unfold attempts
  generalize r.attempt a net b q n time = x at h ⊢
  obtain ⟨sent, outcome⟩ := x
  obtain rfl : outcome = .ok d := h
  rfl

theorem attempts_zero {f : Fault} (h : (r.attempt a net b q n time).2 = .error f) :
    r.attempts a net q 0 b i n time = r.failed b f (r.attempt a net b q n time).1 time := by
  unfold attempts
  generalize r.attempt a net b q n time = x at h ⊢
  obtain ⟨sent, outcome⟩ := x
  obtain rfl : outcome = .error f := h
  rfl

theorem attempts_succ {f : Fault} (h : (r.attempt a net b q n time).2 = .error f) (left : Nat) :
    r.attempts a net q (left + 1) b i n time =
      if r.policy.allows f then
        match r.next? i with
        | none => r.failed b f (r.attempt a net b q n time).1 time
        | some c => (r.attempts a net q left c (i + 1)
            (n + (r.attempt a net b q n time).1.toList.length) (time + r.policy.pause)).after
              (r.attempt a net b q n time).1
      else r.failed b f (r.attempt a net b q n time).1 time := by
  rw [attempts]
  generalize r.attempt a net b q n time = x at h ⊢
  obtain ⟨sent, outcome⟩ := x
  obtain rfl : outcome = .error f := h
  rfl

end

namespace Spent

theorem single {i : Nat} {run : Run} (h : r.Stops i (r.nth a net q n time i).2)
    (hs : run.sent = (r.nth a net q n time i).1.toList)
    (hr : run.result = (r.nth a net q n time i).2.mapError (r.fail (r.tried i)))
    (ht : run.time = time + i * r.policy.pause) : Spent r a net q n time i i run where
  order := Nat.le_refl i
  went := by omega
  stopped := h
  each := by omega
  sent := by
    rw [hs, Nat.add_sub_cancel_left]
    simp
  result := hr
  ended := ht

theorem cons {i k : Nat} {run : Run} {s : Sent} (h : Spent r a net q n time (i + 1) k run)
    (hs : (r.nth a net q n time i).1 = some s)
    (hgo : ¬ r.Stops i (r.nth a net q n time i).2) :
    Spent r a net q n time i k (run.after (some s)) where
  order := by have := h.order; omega
  went := by
    intro j hij hjk
    rcases Nat.eq_or_lt_of_le hij with rfl | hlt
    · exact hgo
    · exact h.went j hlt hjk
  stopped := h.stopped
  each := by
    intro j hij hjk
    rcases Nat.eq_or_lt_of_le hij with rfl | hlt
    · rw [hs]; rfl
    · exact h.each j hlt hjk
  sent := by
    have hlen : k + 1 - i = (k + 1 - (i + 1)) + 1 := by have := h.order; omega
    rw [hlen, List.range'_succ, List.flatMap_cons, hs, ← h.sent]
    rfl
  result := h.result
  ended := h.ended

theorem of_ok {i : Nat} {d : Delivery} (ho : (r.nth a net q n time i).2 = .ok d) (left : Nat) :
    Spent r a net q n time i i
      (r.attempts a net q left (r.tried i) i (n + i) (time + i * r.policy.pause)) := by
  refine single (.inl ⟨d, ho⟩) ?_ ?_ ?_ <;> rw [attempts_of_ok ho]
  · rfl
  · rw [ho]
    rfl

/-- the last attempt fails, and its fault is the result -/
theorem of_error {i : Nat} {f : Fault} (h : r.Stops i (r.nth a net q n time i).2)
    (ho : (r.nth a net q n time i).2 = .error f) :
    Spent r a net q n time i i
      (r.failed (r.tried i) f (r.nth a net q n time i).1 (time + i * r.policy.pause)) := by
  refine single h rfl ?_ rfl
  rw [ho]
  rfl

/-- a fault that the policy allows is not the last while retries and channels are left -/
theorem not_stops {i left : Nat} {f : Fault} (ho : (r.nth a net q n time i).2 = .error f)
    (hf : r.policy.allows f = true) (hleft : i + (left + 1) = r.policy.maxRetries.toNat)
    (hnext : r.backend.mayFailOver = true → i + 1 < r.backend.channels.length) :
    ¬ r.Stops i (r.nth a net q n time i).2 := by
  rintro (⟨d, hd⟩ | ⟨g, hg, hrejects⟩ | hm | ⟨hfail, hend⟩)
  · simp [ho] at hd
  · obtain rfl : f = g := Except.error.inj (ho.symm.trans hg)
    simp [hf] at hrejects
  · omega
  · have := hnext hfail
    omega

/-- attempts from channel `i` on, with as many left as the policy allows behind it -/
theorem attempts (left i : Nat) (hleft : i + left = r.policy.maxRetries.toNat)
    (hi : r.backend.mayFailOver = true → i < r.backend.channels.length) :
    ∃ k, Spent r a net q n time i k
      (r.attempts a net q left (r.tried i) i (n + i) (time + i * r.policy.pause)) := by
  -- by induction on the retries left, while the channel moves on
  induction left generalizing i with
  | zero =>
    cases ho : (r.nth a net q n time i).2 with
    | ok d => exact ⟨i, of_ok ho 0⟩
    | error f =>
      have hlast : r.Stops i (r.nth a net q n time i).2 := .inr (.inr (.inl hleft))
      rw [attempts_zero ho]
      exact ⟨i, of_error hlast ho⟩
  | succ left ih =>
    cases ho : (r.nth a net q n time i).2 with
    | ok d => exact ⟨i, of_ok ho (left + 1)⟩
    | error f =>
      rw [attempts_succ ho]
      by_cases hf : r.policy.allows f = true
      · rw [if_pos hf]
        rcases next?_eq hi with ⟨hnone, hfail, hend⟩ | ⟨hsome, hnext⟩
        · rw [hnone]
          exact ⟨i, of_error (.inr (.inr (.inr ⟨hfail, hend⟩))) ho⟩
        · obtain ⟨s, hs⟩ : ∃ s, (r.nth a net q n time i).1 = some s := sent_of_allows ho hf
          obtain ⟨k, hk⟩ := ih (i + 1) (by omega) hnext
          have htime : time + (i + 1) * r.policy.pause
              = time + i * r.policy.pause + r.policy.pause := by rw [Nat.succ_mul, Nat.add_assoc]
          rw [htime] at hk
          refine ⟨k, ?_⟩
          rw [hsome]
          -- one call was made, so the next attempt has the next number
          change Spent r a net q n time i k ((r.attempts a net q left (r.tried (i + 1)) (i + 1)
            (n + i + (r.nth a net q n time i).1.toList.length)
            (time + i * r.policy.pause + r.policy.pause)).after (r.nth a net q n time i).1)
          rw [hs]
          exact hk.cons hs (not_stops ho hf hleft hnext)
      · rw [if_neg hf]
        exact ⟨i, of_error (.inr (.inl ⟨f, ho, by simpa using hf⟩)) ho⟩

end Spent

/-- an attempt in front of the last is made within the retries and the channels -/
theorem Spent.bounds {k : Nat} {run : Run} (h : Spent r a net q n time 0 k run)
    (hfresh : Fresh r.backend) :
    k ≤ r.policy.maxRetries.toNat ∧
      (r.backend.mayFailOver = true → k + 1 ≤ r.backend.channels.length) := by
  refine ⟨Nat.le_of_not_lt fun hlt => ?_, fun hf => Nat.le_of_not_lt fun hlt => ?_⟩
  · exact h.went r.policy.maxRetries.toNat (Nat.zero_le _) hlt (.inr (.inr (.inl rfl)))
  · have hpos := (hfresh hf).2
    exact h.went (r.backend.channels.length - 1) (Nat.zero_le _) (by omega)
      (.inr (.inr (.inr ⟨hf, by omega⟩)))

/-- **The attempts of a run.**  A body that is refused makes no call.  Any other makes attempts on
the channels in their order, each once, up to the first that is the last, and what that one comes to
is the result.  The backend is as it was made: its first channel is active, which it is in every
backend that settings make (`Backend.Ready.fresh`), since only a run goes on to the next. -/
theorem run_spent (r : Relay) (a : Ambient) (net : Network) (body : ByteArray) (n time : Nat)
    (hfresh : Fresh r.backend) :
    (∀ f, r.prepare body = .error f →
      (r.run a net body n time).sent = [] ∧
      (r.run a net body n time).result = .error (r.fail r.backend f)) ∧
    (∀ q, r.prepare body = .ok q → ∃ k,
      (∀ i < k, ¬ r.Stops i (r.nth a net q n time i).2) ∧
      r.Stops k (r.nth a net q n time k).2 ∧
      (∀ i < k, (r.nth a net q n time i).1.isSome = true) ∧
      (r.run a net body n time).sent
        = (List.range (k + 1)).flatMap (fun i => (r.nth a net q n time i).1.toList) ∧
      (r.run a net body n time).result
        = (r.nth a net q n time k).2.mapError (r.fail (r.tried k)) ∧
      k + 1 ≤ r.policy.maxRetries.toNat + 1 ∧
      (r.backend.mayFailOver = true → k + 1 ≤ r.backend.channels.length)) := by
  constructor
  · intro f hf
    rw [run, hf]
    exact ⟨rfl, rfl⟩
  · intro q hq
    have hspent : ∃ k, Spent r a net q n time 0 k
        (r.attempts a net q r.policy.maxRetries.toNat (r.tried 0) 0 (n + 0)
          (time + 0 * r.policy.pause)) :=
      Spent.attempts _ 0 (Nat.zero_add _) fun hf => (hfresh hf).2
    obtain ⟨k, hk⟩ := hspent
    rw [tried_zero hfresh, Nat.add_zero, Nat.zero_mul, Nat.add_zero] at hk
    have hrun : r.run a net body n time
        = r.attempts a net q r.policy.maxRetries.toNat r.backend 0 n time := by rw [run, hq]
    obtain ⟨hretries, hchannels⟩ := hk.bounds hfresh
    rw [hrun]
    refine ⟨k, fun i hi => hk.went i (Nat.zero_le i) hi, hk.stopped,
      fun i hi => hk.each i (Nat.zero_le i) hi, ?_, hk.result, Nat.succ_le_succ hretries, hchannels⟩
    rw [hk.sent, List.range_eq_range', Nat.sub_zero]

def paired : Relay :=
  { caller := { dialect := .openAi }
    backend :=
      { dialect := .openAi
        channels := ["a", "b"].map fun name => {
          name
          baseUrl := { scheme := "https".toList, host := some name.toList, path := .parts [] } } } }

def question : ByteArray :=
  "\x7b\"model\":\"m\",\"messages\":[\x7b\"role\":\"user\",\"content\":\"q\"\x7d]\x7d".toUTF8

def down : Network :=
  { reply := fun _ _ => .error (.transport "down")
    events := fun _ _ => .error (.transport "down") }

theorem run_spent_paired : ∃ q k, paired.prepare question = .ok q ∧ k < 2 ∧
    paired.Stops k (paired.nth ⟨0, fun _ => ""⟩ down q 0 0 k).2 ∧
    (paired.run ⟨0, fun _ => ""⟩ down question 0 0).sent
      = (List.range (k + 1)).flatMap
          (fun i => (paired.nth ⟨0, fun _ => ""⟩ down q 0 0 i).1.toList) := by
  have hfresh : Fresh paired.backend := fun _ => ⟨rfl, by decide⟩
  have hok : ∃ q, paired.prepare question = .ok q := by
    have hread : (paired.prepare question).isOk = true := by decide +kernel
    cases hq : paired.prepare question with
    | ok q => exact ⟨q, rfl⟩
    | error f => simp [hq, Except.isOk, Except.toBool] at hread
  obtain ⟨q, hq⟩ := hok
  obtain ⟨k, -, hstops, -, hsent, -, -, hchannels⟩ :=
    (run_spent paired ⟨0, fun _ => ""⟩ down question 0 0 hfresh).2 q hq
  exact ⟨q, k, hq, hchannels rfl, hstops, hsent⟩

end Relay
end ChatRelay
