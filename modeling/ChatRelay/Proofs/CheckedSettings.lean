import ChatRelay.Proofs.Addresses
import ChatRelay.Proofs.Attempts
import ChatRelay.Proofs.Configured
import ChatRelay.Settings.File
import Mathlib

/-!
# Settings that were checked

A check finds backends without channels and channels of one name.  What it leaves makes a hub, and
every backend of it has as many channels as were configured, under their names, each of which makes
a call of any request.  So no attempt of a run lacks a channel.

* `Settings.Sound`             what a check leaves no doubt of;
* `Backend.Ready`              a backend that has the channels of its settings;
* `Relay.Served`, `Relay.run_of_ready`   the attempts of a run;
* `Hub.ready_of_check`         the hub of settings that were checked.
-/

namespace ChatRelay

/-! ## what a check finds -/

namespace Settings

theorem repeatedName?_eq_none_iff {seen names : List String} :
    repeatedName? seen names = none ↔ names.Nodup ∧ ∀ name ∈ names, name ∉ seen := by
  induction names generalizing seen with
  | nil => simp [repeatedName?]
  | cons name names ih =>
    rw [repeatedName?]
    by_cases hseen : name ∈ seen
    · simp [hseen]
    · rw [if_neg hseen, ih, List.nodup_cons, List.forall_mem_cons]
      constructor
      · rintro ⟨hnodup, hnew⟩
        have hname : name ∉ names := fun hmem => hnew name hmem List.mem_cons_self
        exact ⟨⟨hname, hnodup⟩, hseen, fun x hx hmem => hnew x hx (List.mem_cons_of_mem name hmem)⟩
      · rintro ⟨⟨hname, hnodup⟩, -, hnew⟩
        refine ⟨hnodup, fun x hx hmem => ?_⟩
        rcases List.mem_cons.mp hmem with rfl | hmem
        · exact hname hx
        · exact hnew x hx hmem

theorem backendProblem?_eq_none_iff {name : String} {b : BackendSettings} :
    backendProblem? name b = none ↔ b.channels ≠ [] ∧ (b.channels.map (·.name)).Nodup := by
  unfold backendProblem?
  by_cases hchannels : b.channels = []
  · simp [hchannels]
  · have hisEmpty : ¬ b.channels.isEmpty = true := by simpa using hchannels
    rw [if_neg hisEmpty, Option.map_eq_none_iff, repeatedName?_eq_none_iff]
    simp [hchannels]

/-- what settings have to fulfil so that a hub can be made of them -/
structure Sound (durations : Duration.Reader) (s : Settings) : Prop where
  channels : ∀ x ∈ s.backends, x.2.channels ≠ []
  names : ∀ x ∈ s.backends, (x.2.channels.map (·.name)).Nodup
  policy : ∃ p, RetryPolicy.ofSettings durations s.retry = .ok p

theorem sound_of_check {durations : Duration.Reader} {s : Settings}
    (h : s.check durations = .ok ()) : Sound durations s := by
  have hproblem : s.problem? durations = none := by
    unfold check at h
    cases hp : s.problem? durations with
    | none => rfl
    | some p =>
      rw [hp] at h
      exact nomatch h
  obtain ⟨hbackends, hrest⟩ := Option.or_eq_none_iff.mp hproblem
  obtain ⟨hretry, -⟩ := Option.or_eq_none_iff.mp hrest
  have heach : ∀ x ∈ s.backends, backendProblem? x.1 x.2 = none := by
    unfold backendsProblem? at hbackends
    split at hbackends
    · exact nomatch hbackends
    · exact List.findSome?_eq_none_iff.mp hbackends
  refine ⟨fun x hx => (backendProblem?_eq_none_iff.mp (heach x hx)).1,
    fun x hx => (backendProblem?_eq_none_iff.mp (heach x hx)).2, ?_⟩
  unfold RetryPolicy.ofSettings
  cases hdelay : s.retry.pause durations with
  | ok delay => exact ⟨_, rfl⟩
  | error p =>
    rw [retryProblem?, hdelay] at hretry
    exact nomatch hretry

end Settings

/-! ## lists that correspond -/

/-- a list whose items can all be changed can be changed, and what holds of every item and what it
becomes holds along the lists -/
theorem exists_changeAll {α β : Type} {f : α → Except Fault β} {P : α → β → Prop} {as : List α}
    (h : ∀ a ∈ as, ∃ b, f a = .ok b ∧ P a b) :
    ∃ bs, changeAll f as = .ok bs ∧ List.Forall₂ P as bs := by
  induction as with
  | nil => exact ⟨[], rfl, .nil⟩
  | cons a as ih =>
    obtain ⟨b, hb, hab⟩ := h a List.mem_cons_self
    obtain ⟨bs, hbs, hall⟩ := ih fun x hx => h x (List.mem_cons_of_mem a hx)
    refine ⟨b :: bs, ?_, hall.cons hab⟩
    rw [changeAll, hb, hbs]
    rfl

theorem map_eq_of_forall₂ {α β γ : Type} {P : α → β → Prop} {f : α → γ} {g : β → γ}
    {as : List α} {bs : List β} (h : List.Forall₂ P as bs) (hP : ∀ a b, P a b → g b = f a) :
    bs.map g = as.map f := by
  induction h with
  | nil => rfl
  | cons hab _ ih => rw [List.map_cons, List.map_cons, hP _ _ hab, ih]

theorem exists_mem_of_forall₂ {α β : Type} {P : α → β → Prop} {as : List α} {bs : List β}
    (h : List.Forall₂ P as bs) {b : β} (hb : b ∈ bs) : ∃ a ∈ as, P a b := by
  induction h with
  | nil => exact nomatch hb
  | @cons a x as bs hax _ ih =>
    rcases List.mem_cons.mp hb with rfl | hmem
    · exact ⟨a, List.mem_cons_self, hax⟩
    · obtain ⟨y, hy, hyb⟩ := ih hmem
      exact ⟨y, List.mem_cons_of_mem a hy, hyb⟩

theorem lookup_of_forall₂ {α β : Type} {R : α → β → Prop} {xs : List (String × α)}
    {ys : List (String × β)} (h : List.Forall₂ (fun x y => y.1 = x.1 ∧ R x.2 y.2) xs ys)
    {name : String} {b : β} (hb : ys.lookup name = some b) :
    ∃ a, xs.lookup name = some a ∧ R a b := by
  induction h with
  | nil => exact nomatch hb
  | @cons x y xs ys hxy _ ih =>
    obtain ⟨hname, hR⟩ := hxy
    rw [List.lookup_cons] at hb ⊢
    rw [← hname]
    split at hb
    · obtain rfl : y.2 = b := Option.some.inj hb
      exact ⟨x.2, rfl, hR⟩
    · exact ih hb

/-! ## a backend and its channels -/

theorem Channel.exists_endpoint {c : Channel} {path : String} (h : c.baseUrl.Takes path) :
    ∃ u, c.endpoint path = .ok u := by
  obtain ⟨u, hu⟩ := h
  have hchars : c.endpointChars path.toList
      = Channel.endpointChars { name := "", baseUrl := c.baseUrl } path.toList := rfl
  exact ⟨u, by rw [endpoint, hchars, hu]⟩

theorem ChannelSettings.exists_channel {s : ChannelSettings} {d : Dialect}
    (h : ∀ u, s.baseUrl = some u → u.Takes (Backend.requestPath d)) :
    ∃ c, s.channel (Backend.defaultBase d) = .ok c ∧
      c.name = s.name ∧ c.baseUrl.Takes (Backend.requestPath d) := by
  unfold channel
  cases hbase : s.baseUrl with
  | some u => exact ⟨_, rfl, rfl, h u hbase⟩
  | none =>
    obtain ⟨u, hu, htakes⟩ := Backend.takes_defaultBase d
    rw [hu]
    exact ⟨_, rfl, rfl, htakes⟩

/-- a backend that has the channels of its settings, fails over from the first of them on, and finds
the address of every call -/
structure Backend.Ready (s : BackendSettings) (b : Backend) : Prop where
  dialect : b.dialect = s.dialect
  names : b.channels.map (·.name) = s.channels.map (·.name)
  takes : ∀ c ∈ b.channels, c.baseUrl.Takes (requestPath b.dialect)
  fresh : b.active = 0
  failsOver : b.mayFailOver = true

theorem BackendSettings.exists_backend (budgets : Budgets) {s : BackendSettings}
    (h : ∀ c ∈ s.channels, ∀ u, c.baseUrl = some u → u.Takes (Backend.requestPath s.dialect)) :
    ∃ b, s.backend budgets = .ok b ∧ Backend.Ready s b := by
  obtain ⟨channels, hchannels, hall⟩ :=
    exists_changeAll fun c hc => ChannelSettings.exists_channel (h c hc)
  refine ⟨{ dialect := s.dialect, channels, budgets }, ?_, rfl,
    map_eq_of_forall₂ hall fun _ _ h => h.1, ?_, rfl, rfl⟩
  · rw [backend, hchannels]
    rfl
  · intro c hc
    obtain ⟨_, -, -, htakes⟩ := exists_mem_of_forall₂ hall hc
    exact htakes

namespace Backend.Ready

variable {s : BackendSettings} {b : Backend} (h : Ready s b)

include h

theorem length_eq : b.channels.length = s.channels.length := by
  have hlength := congrArg List.length h.names
  rwa [List.length_map, List.length_map] at hlength

/-- there are as many channels as were configured -/
theorem exists_at?_iff (i : Nat) : (∃ c, b.at? i = some c) ↔ i < s.channels.length := by
  rw [← h.length_eq]
  exact ⟨fun ⟨_, hc⟩ => (at?_eq_some_iff.mp hc).1,
    fun hi => ⟨_, at?_eq_some_iff.mpr ⟨hi, rfl⟩⟩⟩

theorem channelName_at? {i : Nat} {c : Backend} (hc : b.at? i = some c) :
    (s.channels.map (·.name))[i]? = some c.channelName := by
  obtain ⟨hi, rfl⟩ := at?_eq_some_iff.mp hc
  rw [← h.names, List.getElem?_map, List.getElem?_eq_getElem hi, channelName,
    List.getElem?_eq_getElem hi]
  rfl

/-- every channel is there when it is asked for, and makes a call of any request -/
theorem exists_call {i : Nat} {c : Backend} (hc : b.at? i = some c) (q : Request) :
    ∃ x call, c.current = .ok x ∧ c.call q = .ok call := by
  obtain ⟨hi, rfl⟩ := at?_eq_some_iff.mp hc
  have hx : b.channels[i]? = some b.channels[i] := List.getElem?_eq_getElem hi
  obtain ⟨u, hu⟩ := Channel.exists_endpoint (h.takes _ (List.getElem_mem hi))
  exact ⟨_, _, current_eq_ok_iff.mpr hx, call_eq_ok_iff.mpr ⟨_, u, hx, hu, rfl⟩⟩

/-- the calls that a request makes on the channels, one on each -/
theorem exists_calls (hne : s.channels ≠ []) (q : Request) : ∃ call : Nat → Http.Call,
    ∀ i < s.channels.length, ∃ c x,
      b.at? i = some c ∧ c.current = .ok x ∧ c.call q = .ok (call i) := by
  have hsome : ∀ i, i < s.channels.length → ∃ call c x,
      b.at? i = some c ∧ c.current = .ok x ∧ c.call q = .ok call := by
    intro i hi
    obtain ⟨c, hc⟩ := (h.exists_at?_iff i).mpr hi
    obtain ⟨x, call, hx, hcall⟩ := h.exists_call hc q
    exact ⟨call, c, x, hc, hx, hcall⟩
  obtain ⟨first, -⟩ := hsome 0 (List.length_pos_iff.mpr hne)
  -- behind the last channel there is no call; any will do there
  have hany : ∀ i, ∃ call, i < s.channels.length → ∃ c x,
      b.at? i = some c ∧ c.current = .ok x ∧ c.call q = .ok call := by
    intro i
    by_cases hi : i < s.channels.length
    · obtain ⟨call, hcall⟩ := hsome i hi
      exact ⟨call, fun _ => hcall⟩
    · exact ⟨first, fun hlt => absurd hlt hi⟩
  choose call hcall using hany
  exact ⟨call, hcall⟩

end Backend.Ready

/-! ## a run -/

namespace Relay

variable {r : Relay} {s : BackendSettings} {a : Ambient} {net : Network} {q : Request}
  {n time : Nat}

/-- a body that is not refused is attempted on the channels from the first on -/
theorem exists_spent (hfresh : Fresh r.backend) {body : ByteArray} (hq : r.prepare body = .ok q) :
    ∃ k, Spent r a net q n time 0 k (r.run a net body n time) := by
  obtain ⟨k, hk⟩ : ∃ k, Spent r a net q n time 0 k
      (r.attempts a net q r.policy.maxRetries.toNat (r.tried 0) 0 (n + 0)
        (time + 0 * r.policy.pause)) :=
    Spent.attempts _ 0 (Nat.zero_add _) fun hf => (hfresh hf).2
  rw [tried_zero hfresh, Nat.add_zero, Nat.zero_mul, Nat.add_zero] at hk
  exact ⟨k, by rwa [run, hq]⟩

/-- an attempt on a channel that makes a call -/
theorem nth_of_call (h : r.backend.Ready s) {i : Nat} {b : Backend} {call : Http.Call}
    (hb : r.backend.at? i = some b) (hcall : b.call q = .ok call) :
    r.nth a net q n time i = (some {
        call
        ownExecutor := r.backend.ownExecutor
        stream := q.stream
        time := time + i * r.policy.pause },
      r.receive a net { r.backend with active := i } q.stream (n + i) call) := by
  obtain ⟨-, rfl⟩ := Backend.at?_eq_some_iff.mp hb
  rw [nth, tried, if_pos h.failsOver, attempt, hcall]

/-- a run that made the calls `0` to `k`, each on the channel of its number, and came to what the
last of them brought -/
structure Served (r : Relay) (a : Ambient) (net : Network) (q : Request) (n time k : Nat)
    (call : Nat → Http.Call) (run : Run) : Prop where
  channels : ∀ i ≤ k, ∃ b c,
    r.backend.at? i = some b ∧ b.current = .ok c ∧ b.call q = .ok (call i)
  sent : run.sent = (List.range (k + 1)).map fun i => {
    call := call i
    ownExecutor := r.backend.ownExecutor
    stream := q.stream
    time := time + i * r.policy.pause }
  result : run.result
    = (r.receive a net { r.backend with active := k } q.stream (n + k) (call k)).mapError
        (r.fail { r.backend with active := k })

/-- **The attempts of a run.**  Every attempt is on a channel that is there, which makes a call, and
what the last of these calls brings is the result. -/
theorem run_of_ready (h : r.backend.Ready s) (hne : s.channels ≠ []) {body : ByteArray}
    (hq : r.prepare body = .ok q) :
    ∃ k call, k < s.channels.length ∧
      r.Served a net q n time k call (r.run a net body n time) := by
  have hpos : 0 < s.channels.length := List.length_pos_iff.mpr hne
  have hfresh : Fresh r.backend := fun _ => ⟨h.fresh, by rwa [h.length_eq]⟩
  obtain ⟨k, hspent⟩ : ∃ k, Spent r a net q n time 0 k (r.run a net body n time) :=
    exists_spent hfresh hq
  have hk : k < s.channels.length := by
    have hchannels := (hspent.bounds hfresh).2 h.failsOver
    rwa [h.length_eq] at hchannels
  obtain ⟨call, hcall⟩ := h.exists_calls hne q
  refine ⟨k, call, hk, fun i hi => hcall i (Nat.lt_of_le_of_lt hi hk), ?_, ?_⟩
  · rw [hspent.sent, List.map_eq_flatMap, List.range_eq_range', Nat.sub_zero]
    refine List.flatMap_congr fun i hi => ?_
    have hle : i < s.channels.length := by
      have hlt := List.mem_range'_1.mp hi
      omega
    obtain ⟨b, -, hb, -, hcalls⟩ := hcall i hle
    rw [nth_of_call h hb hcalls]
    rfl
  · obtain ⟨b, -, hb, -, hcalls⟩ := hcall k hk
    rw [hspent.result, nth_of_call h hb hcalls, tried, if_pos h.failsOver]

end Relay

/-! ## the hub -/

namespace Hub

variable {durations : Duration.Reader} {s : Settings} {h : Hub}

/-- settings that are sound, on addresses that take the paths of requests, make a hub of backends
that have their channels -/
theorem exists_ofSettings (hs : s.Sound durations)
    (hbase : ∀ x ∈ s.backends, ∀ c ∈ x.2.channels, ∀ u,
      c.baseUrl = some u → u.Takes (Backend.requestPath x.2.dialect)) :
    ∃ h, ofSettings durations s = .ok h ∧
      List.Forall₂ (fun x y => y.1 = x.1 ∧ Backend.Ready x.2 y.2) s.backends h.backends := by
  have hbackends : ∀ x ∈ s.backends, ∃ y : String × Backend,
      (do return (x.1, ← x.2.backend s.budgets) : Except Fault (String × Backend)) = .ok y ∧
        y.1 = x.1 ∧ Backend.Ready x.2 y.2 := by
    intro x hx
    obtain ⟨b, hb, hready⟩ := BackendSettings.exists_backend s.budgets (hbase x hx)
    refine ⟨(x.1, b), ?_, rfl, hready⟩
    rw [hb]
    rfl
  obtain ⟨backends, hchange, hall⟩ := exists_changeAll hbackends
  obtain ⟨policy, hpolicy⟩ := hs.policy
  refine ⟨{ backends, budgets := s.budgets, chain := .ofSettings s.decorators, policy }, ?_, hall⟩
  rw [ofSettings, hpolicy]
  show changeAll _ s.backends >>= _ = _
  rw [hchange]
  rfl

theorem relay_eq_ok_iff {d : Dialect} {name : String} {r : Relay} :
    h.relay d name = .ok r ↔ ∃ b, h.backends.lookup name = some b ∧ r = {
      caller := { dialect := d, budgets := h.budgets }
      backend := b
      chain := h.chain
      policy := h.policy } := by
  unfold relay
  cases h.backends.lookup name with
  | none => exact ⟨nofun, nofun⟩
  | some b =>
    constructor
    · intro hr
      exact ⟨b, rfl, (Except.ok.inj hr).symm⟩
    · rintro ⟨_, hb, rfl⟩
      rw [Option.some.inj hb]

theorem exists_relay_iff (d : Dialect) (name : String) :
    (∃ r, h.relay d name = .ok r) ↔ name ∈ h.names := by
  constructor
  · rintro ⟨r, hr⟩
    obtain ⟨b, hb, -⟩ := relay_eq_ok_iff.mp hr
    obtain ⟨before, after, hmem, -⟩ := List.lookup_eq_some_iff.mp hb
    rw [names, hmem]
    simp
  · intro hname
    obtain ⟨x, hx, rfl⟩ := List.mem_map.mp hname
    have hfound : (h.backends.lookup x.1).isSome = true :=
      List.lookup_isSome_iff.mpr ⟨x, hx, beq_self_eq_true x.1⟩
    obtain ⟨b, hb⟩ := Option.isSome_iff_exists.mp hfound
    exact ⟨_, relay_eq_ok_iff.mpr ⟨b, hb, rfl⟩⟩

/-- **The hub of settings that were checked**, however durations are read.  There is one if every
address that is configured takes the path of requests.  It has the backends that are configured, in
their order, and relays for every format to these and to no others.  Such a backend has a channel
under every name that is configured, no two of one name and no others, each of which makes a call of
any request; so whatever the chain has come to be, no attempt of a run lacks a channel. -/
theorem ready_of_check (durations : Duration.Reader) (s : Settings)
    (hcheck : s.check durations = .ok ())
    (hbase : ∀ x ∈ s.backends, ∀ c ∈ x.2.channels, ∀ u,
      c.baseUrl = some u → u.Takes (Backend.requestPath x.2.dialect)) :
    ∃ h, ofSettings durations s = .ok h ∧ h.names = s.backends.map (·.1) ∧
      (∀ d name, (∃ r, h.relay d name = .ok r) ↔ name ∈ s.backends.map (·.1)) ∧
      ∀ d name r, h.relay d name = .ok r → ∃ b, s.backends.lookup name = some b ∧
        r.caller.dialect = d ∧ r.backend.dialect = b.dialect ∧
        0 < b.channels.length ∧ (b.channels.map (·.name)).Nodup ∧
        (∀ i, (∃ c, r.backend.at? i = some c) ↔ i < b.channels.length) ∧
        (∀ i c, r.backend.at? i = some c →
          (b.channels.map (·.name))[i]? = some c.channelName ∧
          ∀ q, ∃ call, c.call q = .ok call) ∧
        ∀ (chain : Chain) (a : Ambient) (net : Network) (body : ByteArray) (n time : Nat),
          (∀ f, { r with chain }.prepare body = .error f →
            ({ r with chain }.run a net body n time).sent = [] ∧
            ({ r with chain }.run a net body n time).result = .error (r.fail r.backend f)) ∧
          ∀ q, { r with chain }.prepare body = .ok q → ∃ k call, k < b.channels.length ∧
            { r with chain }.Served a net q n time k call ({ r with chain }.run a net body n time) := by
  have hsound := Settings.sound_of_check hcheck
  obtain ⟨h, hs, hall⟩ := exists_ofSettings hsound hbase
  have hnames : h.names = s.backends.map (·.1) := map_eq_of_forall₂ hall fun _ _ hxy => hxy.1
  refine ⟨h, hs, hnames, fun d name => by rw [exists_relay_iff, hnames], ?_⟩
  intro d name r hr
  obtain ⟨c, hc, rfl⟩ := relay_eq_ok_iff.mp hr
  obtain ⟨b, hb, hready⟩ := lookup_of_forall₂ hall hc
  obtain ⟨before, after, hsplit, -⟩ := List.lookup_eq_some_iff.mp hb
  have hmem : (name, b) ∈ s.backends := by rw [hsplit]; simp
  have hne : b.channels ≠ [] := hsound.channels _ hmem
  refine ⟨b, hb, rfl, hready.dialect, List.length_pos_iff.mpr hne, hsound.names _ hmem,
    hready.exists_at?_iff, fun i x hx => ⟨hready.channelName_at? hx, fun q => ?_⟩, ?_⟩
  · obtain ⟨_, call, -, hcall⟩ := hready.exists_call hx q
    exact ⟨call, hcall⟩
  · intro chain a net body n time
    constructor
    · intro f hf
      rw [Relay.run, hf]
      exact ⟨rfl, rfl⟩
    · intro q hq
      exact Relay.run_of_ready hready hne hq

/-- a backend of two channels, one of them at an address of its own, and another backend -/
def forked : Settings :=
  { backends := [
      ("main", {
        dialect := .anthropic
        channels := [
          { name := "near", baseUrl := some (.site "proxy".toList ["v1".toList]) },
          { name := "far" }] }),
      ("spare", { dialect := .openRouter, channels := [{ name := "only" }] })] }

theorem ready_of_check_forked :
    ∃ h, ofSettings Duration.wholeSeconds forked = .ok h ∧ h.names = ["main", "spare"] ∧
      (∃ r, h.relay .openAi "spare" = .ok r) ∧ (¬ ∃ r, h.relay .openAi "other" = .ok r) ∧
      ∃ r c, h.relay .anthropic "main" = .ok r ∧ r.backend.at? 1 = some c ∧
        c.channelName = "far" ∧ r.backend.at? 2 = none ∧ ∀ q, ∃ call, c.call q = .ok call := by
  have hproblem : forked.problem? Duration.wholeSeconds = none := by decide +kernel
  have hbase : ∀ x ∈ forked.backends, ∀ c ∈ x.2.channels, ∀ u,
      c.baseUrl = some u → u.Takes (Backend.requestPath x.2.dialect) := by
    simp only [forked, List.forall_mem_cons, List.not_mem_nil, false_imp_iff, implies_true,
      and_true]
    refine ⟨⟨fun u hu => ?_, nofun⟩, nofun⟩
    obtain rfl := Option.some.inj hu
    have hhost : Url.PlainHost "proxy".toList :=
      .of_name (by decide) (by decide) (by decide +kernel) (by decide +kernel)
    exact Backend.takes_requestPath hhost (by decide) .anthropic
  obtain ⟨h, hs, hnames, hrelays, hchannels⟩ :=
    ready_of_check Duration.wholeSeconds forked (by rw [Settings.check, hproblem]) hbase
  obtain ⟨r, hr⟩ := (hrelays .anthropic "main").mpr (by decide)
  obtain ⟨b, hb, -, -, -, -, hat, hcalls, -⟩ := hchannels .anthropic "main" r hr
  obtain rfl := Option.some.inj hb
  obtain ⟨c, hc⟩ := (hat 1).mpr (by decide)
  obtain ⟨hname, hcall⟩ := hcalls 1 c hc
  refine ⟨h, hs, hnames, (hrelays .openAi "spare").mpr (by decide), fun hr => ?_, r, c, hr, hc,
    (Option.some.inj hname).symm, ?_, hcall⟩
  · exact absurd ((hrelays .openAi "other").mp hr) (by decide)
  · have htwo : ¬ ∃ c, r.backend.at? 2 = some c := fun hc => absurd ((hat 2).mp hc) (by decide)
    exact Option.eq_none_iff_forall_ne_some.mpr fun c hc => htwo ⟨c, hc⟩

end Hub
end ChatRelay
