import ChatRelay.Proofs.ChannelCalls

/-!
# What stays inside

Two things of a run are for nobody else: the keys of the channels and the text that an internal
fault wraps.  A key goes into the credentials of a call and nowhere else.  The text of an internal
fault goes nowhere at all: such a fault allows no other attempt, and its report does not have it.

Masks take both away.  A run is compared with the run of the same relay without its keys: what is
left of the two after masking is the same.

* `Feed.blind_scan`      operations on feeds carry faults on and do not look at them;
* `attempt_keyless`      one attempt;
* `attempts_keyless`     all of them;
* `run_keyless`          the whole way of a request body;
* `run_indistinct`       two relays that differ in the values of their keys.
-/

namespace ChatRelay

/-! ## faults -/

namespace Fault

/-- a fault without the text that stays inside -/
def masked : Fault → Fault
  | internal _ => internal ""
  | f => f

@[simp] theorem masked_masked (f : Fault) : f.masked.masked = f.masked := by cases f <;> rfl

end Fault

theorem RetryPolicy.allows_masked (p : RetryPolicy) (f : Fault) :
    p.allows f.masked = p.allows f := by cases f <;> rfl

/-- the policy does not look at what stays inside -/
theorem RetryPolicy.allows_congr {p : RetryPolicy} {f g : Fault} (h : f.masked = g.masked) :
    p.allows f = p.allows g := by
  rw [← p.allows_masked, h, p.allows_masked]

theorem Backend.report_masked (b : Backend) (f : Fault) : b.report f.masked = b.report f := by
  cases f <;> rfl

/-- nor does a report -/
theorem Backend.report_congr {b : Backend} {f g : Fault} (h : f.masked = g.masked) :
    b.report f = b.report g := by
  rw [← b.report_masked, h, b.report_masked]

/-- a result, its value under a mask -/
def maskedBy {α : Type} (mask : α → α) (x : Except Fault α) : Except Fault α :=
  (x.map mask).mapError Fault.masked

theorem maskedBy_eq_ok {α : Type} {mask : α → α} {x : Except Fault α} {b : α}
    (h : maskedBy mask x = .ok b) : ∃ a, x = .ok a ∧ mask a = b := by
  cases x with
  | ok a => exact ⟨a, rfl, Except.ok.inj h⟩
  | error f => exact nomatch h

theorem maskedBy_eq_error {α : Type} {mask : α → α} {x : Except Fault α} {g : Fault}
    (h : maskedBy mask x = .error g) : ∃ f, x = .error f ∧ f.masked = g := by
  cases x with
  | ok a => exact nomatch h
  | error f => exact ⟨f, rfl, Except.error.inj h⟩

/-! ## feeds -/

namespace Feed

variable {α β γ σ : Type}

/-- a feed whose fault is masked -/
def masked : Feed α → Feed α
  | done => done
  | fail f => fail f.masked
  | item a rest => item a (masked rest)
  | pull rest => pull (masked rest)

@[simp] theorem items_masked (x : Feed α) : x.masked.items = x.items := by
  induction x with
  | done | fail f => rfl
  | item a rest ih => exact congrArg (a :: ·) ih
  | pull rest ih => exact ih

@[simp] theorem fault?_masked (x : Feed α) : x.masked.fault? = x.fault?.map Fault.masked := by
  induction x with
  | done | fail f => rfl
  | item a rest ih | pull rest ih => exact ih

@[simp] theorem masked_prepend (as : List α) (x : Feed α) :
    (prepend as x).masked = prepend as x.masked := by
  induction as with
  | nil => rfl
  | cons a as ih => exact congrArg (item a) ih

theorem masked_ofSource (source : List (Except Fault α)) :
    (ofSource source).masked = ofSource (source.map (maskedBy id)) := by
  induction source with
  | nil => rfl
  | cons x rest ih =>
    cases x with
    | ok a => exact congrArg (fun y => pull (item a y)) ih
    | error f => rfl

/-- an operation of which nothing depends on the text of an internal fault but that text -/
def Blind (op : Feed α → Feed β) : Prop := ∀ x, (op x.masked).masked = (op x).masked

theorem Blind.comp {op : Feed β → Feed γ} {first : Feed α → Feed β} (h : Blind op)
    (hfirst : Blind first) : Blind fun x => op (first x) := by
  intro x
  calc (op (first x.masked)).masked
      = (op (first x.masked).masked).masked := (h _).symm
    _ = (op (first x).masked).masked := by rw [hfirst x]
    _ = (op (first x)).masked := h _

theorem blind_scan (step : σ → α → Except Fault (List β × σ))
    (trailer : σ → Except Fault (List β)) (s : σ) : Blind (scan step trailer s) := by
  intro x
  induction x generalizing s with
  | done => rfl
  | fail f => exact congrArg fail f.masked_masked
  | item a rest ih =>
    simp only [masked, scan]
    split
    · next bs next _ => rw [masked_prepend, masked_prepend, ih next]
    · rfl
  | pull rest ih => exact congrArg pull (ih s)

end Feed

theorem Backend.blind_liftFeed (b : Backend) (now : UInt64) : Feed.Blind (b.liftFeed now) := by
  unfold liftFeed
  cases b.dialect with
  | anthropic => exact Feed.blind_scan _ _ _
  | openAi | openRouter => exact Feed.blind_scan _ _ _

theorem Caller.blind_renderFeed (c : Caller) (a : Ambient) : Feed.Blind (c.renderFeed a) := by
  unfold renderFeed
  cases c.dialect with
  | anthropic => exact Feed.blind_scan _ _ _
  | openAi | openRouter => exact Feed.blind_scan _ _ _

/-! ## what a caller and a backend are given -/

/-- what a caller is given, the fault of a stream masked -/
def Delivery.masked : Delivery → Delivery
  | .answer x => .answer x
  | .stream x => .stream x.masked

/-- a call without its credentials -/
def Http.Call.unsigned (c : Http.Call) : Http.Call := { c with auth := none }

/-- what was sent, without its credentials -/
def Sent.unsigned (s : Sent) : Sent := { s with call := s.call.unsigned }

/-- a run without credentials and masked -/
def Run.masked (x : Run) : Run :=
  { result := x.result.map Delivery.masked, sent := x.sent.map Sent.unsigned, time := x.time }

/-- networks whose answers to the same calls, whatever their credentials, are the same under the
mask -/
structure Network.Alike (net other : Network) : Prop where
  reply : ∀ n {c d : Http.Call}, c.unsigned = d.unsigned →
    maskedBy id (net.reply n c) = maskedBy id (other.reply n d)
  events : ∀ n {c d : Http.Call}, c.unsigned = d.unsigned →
    maskedBy (List.map (maskedBy id)) (net.events n c)
      = maskedBy (List.map (maskedBy id)) (other.events n d)

namespace Network.Alike

variable {net other third : Network}

theorem symm (h : net.Alike other) : other.Alike net where
  reply n _ _ hcd := (h.reply n hcd.symm).symm
  events n _ _ hcd := (h.events n hcd.symm).symm

theorem trans (h : net.Alike other) (h' : other.Alike third) : net.Alike third where
  reply n _ _ hcd := (h.reply n rfl).trans (h'.reply n hcd)
  events n _ _ hcd := (h.events n rfl).trans (h'.events n hcd)

end Network.Alike

/-! ## keys -/

/-- a channel with the empty key in place of its own -/
def Channel.keyless (c : Channel) : Channel := { c with apiKey := c.apiKey.map fun _ => "" }

/-- a backend whose channels have lost their keys -/
def Backend.keyless (b : Backend) : Backend := { b with channels := b.channels.map Channel.keyless }

/-- a relay whose channels have lost their keys -/
def Relay.keyless (r : Relay) : Relay := { r with backend := r.backend.keyless }

namespace Backend

theorem current_keyless (b : Backend) : b.keyless.current = b.current.map Channel.keyless := by
  have hchannel : b.keyless.channels[b.active]? = (b.channels[b.active]?).map Channel.keyless :=
    List.getElem?_map
  have hactive : b.keyless.active = b.active := rfl
  rw [current, hactive, hchannel, current]
  cases b.channels[b.active]? <;> rfl

/-- the key of a channel is in the credentials of a call only -/
theorem call_keyless (b : Backend) (q : Request) :
    (b.keyless.call q).map Http.Call.unsigned = (b.call q).map Http.Call.unsigned := by
  cases hc : b.current with
  | error f =>
    have hkeyless : b.keyless.current = .error f := by
      rw [current_keyless, hc]
      rfl
    simp only [call, hkeyless, hc, bind, Except.bind, Except.map]
  | ok c =>
    have hkeyless : b.keyless.current = .ok c.keyless := by
      rw [current_keyless, hc]
      rfl
    have haddress : c.keyless.endpoint (requestPath b.keyless.dialect)
      = c.endpoint (requestPath b.dialect) := rfl
    simp only [call, hkeyless, hc, haddress, bind, Except.bind]
    cases c.endpoint (requestPath b.dialect) <;> rfl

theorem at?_keyless (b : Backend) (i : Nat) : b.keyless.at? i = (b.at? i).map keyless := by
  have hlength : b.keyless.channels.length = b.channels.length := List.length_map _
  unfold at?
  rw [hlength]
  split <;> rfl

end Backend

/-! ## runs -/

namespace Relay

variable {r : Relay} {a : Ambient} {net other : Network} {q : Request}

theorem next?_keyless (i : Nat) : r.keyless.next? i = (r.next? i).map Backend.keyless := by
  unfold next?
  show (if r.backend.mayFailOver then r.backend.keyless.at? (i + 1) else some r.backend.keyless) = _
  split
  · exact Backend.at?_keyless _ _
  · rfl

/-- the caller is told the same about faults that differ in what stays inside -/
theorem fail_keyless {b : Backend} {f g : Fault} (h : f.masked = g.masked) :
    r.keyless.fail b.keyless f = r.fail b g := by
  have hreport : b.keyless.report f = b.report g := Backend.report_congr (b := b) h
  unfold fail
  rw [hreport]
  rfl

/-- a stream is handed on with what its backend sent -/
theorem stream_masked {b : Backend} {events events' : List (Except Fault ServerEvent)}
    (h : events.map (maskedBy id) = events'.map (maskedBy id)) :
    (r.stream a b events).masked = (r.stream a b events').masked := by
  have hblind : Feed.Blind fun x => r.caller.renderFeed a (b.liftFeed a.now x) :=
    (r.caller.blind_renderFeed a).comp (b.blind_liftFeed a.now)
  have hsource : (Feed.ofSource events).masked = (Feed.ofSource events').masked := by
    rw [Feed.masked_ofSource, h, Feed.masked_ofSource]
  refine congrArg Delivery.stream ?_
  calc (r.caller.renderFeed a (b.liftFeed a.now (Feed.ofSource events))).masked
      = (r.caller.renderFeed a (b.liftFeed a.now (Feed.ofSource events).masked)).masked :=
        (hblind _).symm
    _ = (r.caller.renderFeed a (b.liftFeed a.now (Feed.ofSource events'))).masked := by
        rw [hsource, hblind (Feed.ofSource events')]

theorem receive_keyless (hnet : net.Alike other) {b : Backend} {streamed : Bool} {n : Nat}
    {c d : Http.Call} (hcall : c.unsigned = d.unsigned) :
    maskedBy Delivery.masked (r.keyless.receive a net b.keyless streamed n c)
      = maskedBy Delivery.masked (r.receive a other b streamed n d) := by
  unfold receive
  cases streamed with
  | true =>
    have hevents := hnet.events n hcall
    show maskedBy Delivery.masked ((net.events n c).map (r.stream a b))
      = maskedBy Delivery.masked ((other.events n d).map (r.stream a b))
    cases he : other.events n d with
    | ok events =>
      rw [he] at hevents
      obtain ⟨events', he', hmasked⟩ := maskedBy_eq_ok hevents
      rw [he']
      exact congrArg Except.ok (stream_masked hmasked)
    | error f =>
      rw [he] at hevents
      obtain ⟨g, he', hmasked⟩ := maskedBy_eq_error hevents
      rw [he']
      exact congrArg Except.error hmasked
  | false =>
    have hreply := hnet.reply n hcall
    show maskedBy Delivery.masked (net.reply n c >>= r.answer a b)
      = maskedBy Delivery.masked (other.reply n d >>= r.answer a b)
    cases he : other.reply n d with
    | ok reply =>
      rw [he] at hreply
      obtain ⟨reply', he', hmasked⟩ := maskedBy_eq_ok hreply
      rw [he', show reply' = reply from hmasked]
    | error f =>
      rw [he] at hreply
      obtain ⟨g, he', hmasked⟩ := maskedBy_eq_error hreply
      rw [he']
      exact congrArg Except.error hmasked

/-- one attempt without the keys -/
theorem attempt_keyless (hnet : net.Alike other) (b : Backend) (n time : Nat) :
    (r.keyless.attempt a net b.keyless q n time).1.map Sent.unsigned
        = (r.attempt a other b q n time).1.map Sent.unsigned ∧
      maskedBy Delivery.masked (r.keyless.attempt a net b.keyless q n time).2
        = maskedBy Delivery.masked (r.attempt a other b q n time).2 := by
  have hcalls := b.call_keyless q
  cases hc : b.call q with
  | error f =>
    have hkeyless : b.keyless.call q = .error f := by
      rw [hc] at hcalls
      cases hk : b.keyless.call q with
      | ok c => rw [hk] at hcalls; exact nomatch hcalls
      | error g => rw [hk] at hcalls; rw [Except.error.inj hcalls]
    rw [attempt, hkeyless, attempt, hc]
    exact ⟨rfl, rfl⟩
  | ok d =>
    rw [hc] at hcalls
    obtain ⟨c, hk, hunsigned⟩ := ok_of_map hcalls
    rw [attempt_of_call hk, attempt_of_call hc]
    refine ⟨?_, receive_keyless hnet hunsigned⟩
    show some (Sent.mk c.unsigned _ _ _) = some (Sent.mk d.unsigned _ _ _)
    rw [hunsigned]
    rfl

theorem sent_unsigned {sent sent' : Option Sent}
    (h : sent.map Sent.unsigned = sent'.map Sent.unsigned) :
    sent.toList.map Sent.unsigned = sent'.toList.map Sent.unsigned := by
  rw [← Option.toList_map, h, Option.toList_map]

theorem failed_keyless {b : Backend} {f g : Fault} (hfault : f.masked = g.masked)
    {sent sent' : Option Sent} (hsent : sent.map Sent.unsigned = sent'.map Sent.unsigned)
    (time : Nat) :
    (r.keyless.failed b.keyless f sent time).masked = (r.failed b g sent' time).masked := by
  unfold failed Run.masked
  rw [fail_keyless hfault, sent_unsigned hsent]

theorem after_masked {x y : Run} (h : x.masked = y.masked) {sent sent' : Option Sent}
    (hsent : sent.map Sent.unsigned = sent'.map Sent.unsigned) :
    (x.after sent).masked = (y.after sent').masked := by
  obtain ⟨hresult, hcalls, htime⟩ := Run.mk.inj h
  unfold Run.after Run.masked
  rw [hresult, htime, List.map_append, List.map_append, sent_unsigned hsent, hcalls]

/-- an attempt that succeeds is the last, with the keys and without -/
theorem attempts_keyless_of_ok (hnet : net.Alike other) {b : Backend} {n time : Nat} {d : Delivery}
    (ho : (r.attempt a other b q n time).2 = .ok d) (left i : Nat) :
    (r.keyless.attempts a net q left b.keyless i n time).masked
      = (r.attempts a other q left b i n time).masked := by
  obtain ⟨hsent, hout⟩ := attempt_keyless (r := r) (a := a) (q := q) hnet b n time
  rw [ho] at hout
  obtain ⟨d', ho', hmasked⟩ := maskedBy_eq_ok hout
  rw [attempts_of_ok ho, attempts_of_ok ho']
  unfold Run.masked
  rw [sent_unsigned hsent]
  exact congrArg (fun x => Run.mk (.ok x) _ _) hmasked

/-- attempts without the keys, with what may follow them -/
theorem attempts_keyless (hnet : net.Alike other) (left : Nat) (b : Backend) (i n time : Nat) :
    (r.keyless.attempts a net q left b.keyless i n time).masked
      = (r.attempts a other q left b i n time).masked := by
  -- by induction on the retries left: what comes of an attempt decides alike whether one follows
  induction left generalizing b i n time with
  | zero =>
    cases ho : (r.attempt a other b q n time).2 with
    | ok d => exact attempts_keyless_of_ok hnet ho 0 i
    | error f =>
      obtain ⟨hsent, hout⟩ := attempt_keyless (r := r) (a := a) (q := q) hnet b n time
      rw [ho] at hout
      obtain ⟨f', ho', hmasked⟩ := maskedBy_eq_error hout
      rw [attempts_zero ho, attempts_zero ho']
      exact failed_keyless hmasked hsent time
  | succ left ih =>
    cases ho : (r.attempt a other b q n time).2 with
    | ok d => exact attempts_keyless_of_ok hnet ho (left + 1) i
    | error f =>
      obtain ⟨hsent, hout⟩ := attempt_keyless (r := r) (a := a) (q := q) hnet b n time
      rw [ho] at hout
      obtain ⟨f', ho', hmasked⟩ := maskedBy_eq_error hout
      have hallows : r.keyless.policy.allows f' = r.policy.allows f :=
        RetryPolicy.allows_congr (p := r.policy) hmasked
      have hlength : (r.keyless.attempt a net b.keyless q n time).1.toList.length
          = (r.attempt a other b q n time).1.toList.length := by
        simpa using congrArg List.length (sent_unsigned hsent)
      rw [attempts_succ ho, attempts_succ ho', hallows, hlength, next?_keyless]
      split
      · cases r.next? i with
        | none => exact failed_keyless hmasked hsent time
        | some c => exact after_masked (ih c _ _ _) hsent
      · exact failed_keyless hmasked hsent time

/-- the way of a request body without the keys -/
theorem run_keyless (hnet : net.Alike other) (body : ByteArray) (n time : Nat) :
    (r.keyless.run a net body n time).masked = (r.run a other body n time).masked := by
  have hprepare : r.keyless.prepare body = r.prepare body := rfl
  unfold run
  rw [hprepare]
  cases r.prepare body with
  | ok q => exact attempts_keyless hnet _ _ _ _ _
  | error f =>
    have hsent : Option.map Sent.unsigned none = Option.map Sent.unsigned none := rfl
    exact failed_keyless rfl hsent time

/-- **What others see of a run.**  Let two relays differ in the values of their keys only, and let
the answers of their networks differ in the texts of internal faults only.  Then their runs on a
body make the same calls but for the credentials, at the same times, and come to the same: the same
answer, the same failure, or a stream with the same items, taken one for one, up to a fault that is
the same but for the text of an internal one. -/
theorem run_indistinct {r s : Relay} (hkeys : r.keyless = s.keyless) {net other : Network}
    (hnet : net.Alike other) (a : Ambient) (body : ByteArray) (n time : Nat) :
    (r.run a net body n time).sent.length = (s.run a other body n time).sent.length ∧
    (r.run a net body n time).sent.map Sent.unsigned
      = (s.run a other body n time).sent.map Sent.unsigned ∧
    (r.run a net body n time).result.map Delivery.masked
      = (s.run a other body n time).result.map Delivery.masked ∧
    ∀ x y, (r.run a net body n time).result = .ok (.stream x) →
      (s.run a other body n time).result = .ok (.stream y) →
        x.items = y.items ∧ x.fault?.map Fault.masked = y.fault?.map Fault.masked := by
  have hmasked : (r.run a net body n time).masked = (s.run a other body n time).masked := by
    calc (r.run a net body n time).masked
        = (r.keyless.run a other body n time).masked := (run_keyless hnet.symm body n time).symm
      _ = (s.keyless.run a other body n time).masked := by rw [hkeys]
      _ = (s.run a other body n time).masked := run_keyless (hnet.symm.trans hnet) body n time
  obtain ⟨hresult, hcalls, -⟩ := Run.mk.inj hmasked
  refine ⟨by simpa using congrArg List.length hcalls, hcalls, hresult, fun x y hx hy => ?_⟩
  rw [hx, hy] at hresult
  have hfeeds : x.masked = y.masked := Delivery.stream.inj (Except.ok.inj hresult)
  constructor
  · rw [← x.items_masked, hfeeds, y.items_masked]
  · rw [← x.fault?_masked, hfeeds, y.fault?_masked]

/-- nothing is reached at first; then a stream breaks off with a text that stays inside -/
def leaky (text : String) : Network :=
  { reply := fun n _ => .error (if n = 0 then .transport "down" else .internal text)
    events := fun n _ =>
      if n = 0 then .error (.transport "down")
      else .ok [.ok { data := "data" }, .error (.internal text)] }

theorem leaky_alike (text other : String) : (leaky text).Alike (leaky other) where
  reply n c d _ := by
    unfold leaky
    by_cases hn : n = 0
    · simp only [if_pos hn]
    · simp only [if_neg hn]
      rfl
  events n c d _ := by
    unfold leaky
    by_cases hn : n = 0
    · simp only [if_pos hn]
    · simp only [if_neg hn]
      rfl

def streamedQuestion : ByteArray :=
  ("\x7b\"model\":\"m\",\"stream\":true," ++
    "\"messages\":[\x7b\"role\":\"user\",\"content\":\"q\"\x7d]\x7d").toUTF8

theorem run_indistinct_leaky :
    let first := (keyed (· ++ "1")).run ⟨0, fun _ => ""⟩ (leaky "x") streamedQuestion 0 0
    let second := (keyed (· ++ "2")).run ⟨0, fun _ => ""⟩ (leaky "y") streamedQuestion 0 0
    (keyed (· ++ "1")).keyless = (keyed (· ++ "2")).keyless ∧ (leaky "x").Alike (leaky "y") ∧
    first.sent.map Sent.unsigned = second.sent.map Sent.unsigned ∧
    first.result.map Delivery.masked = second.result.map Delivery.masked := by
  obtain ⟨-, hcalls, hresult, -⟩ := run_indistinct
    (show (keyed (· ++ "1")).keyless = (keyed (· ++ "2")).keyless from rfl)
    (leaky_alike "x" "y") ⟨0, fun _ => ""⟩ streamedQuestion 0 0
  exact ⟨rfl, leaky_alike "x" "y", hcalls, hresult⟩

end Relay
end ChatRelay
