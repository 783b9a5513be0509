import ChatRelay.Proofs.Attempts
import ChatRelay.Proofs.Configured
import ChatRelay.Settings.File
import Mathlib

/-!
# Caps on generated tokens

A cap that settings turn on bounds what requests may ask for in the shared form.  A backend of chat
completions is sent just these bounds.  A backend of the messages interface is sent a bound of its
own making: a default where the request has none, and the thinking budget with room for an answer
where the request's bound does not exceed the budget.  There the cap may be passed.

* `Json.Capped`                     no bound that a body sets is above a cap;
* `Backend.tokenBounds_lowerBody`   the bounds that a lowered request sets;
* `Chain.applyRequest_ofSettings`   the bound of a request behind the decorators of settings;
* `Relay.body_of_mem_run`           every call of a run sends the request as it was prepared;
* `Relay.sent_capped_iff`           when the cap of settings holds for what is sent.
-/

namespace ChatRelay

/-! ## bounds in a body -/

namespace Json

def boundNames : List String := ["max_tokens", "max_completion_tokens"]

def boundsIn (fs : List (String × Json)) : List Json :=
  (fs.filter fun f => f.1 ∈ boundNames).map (·.2)

def tokenBounds : Json → List Json
  | .object fs => boundsIn fs
  | _ => []

/-- every bound that a body sets is a count within a cap -/
def Capped (cap : TokenCount) (j : Json) : Prop :=
  ∀ v ∈ j.tokenBounds, ∃ n : TokenCount, n ≤ cap ∧ v = ofWord32 n

theorem boundsIn_append (fs gs : List (String × Json)) :
    boundsIn (fs ++ gs) = boundsIn fs ++ boundsIn gs := by
  rw [boundsIn, List.filter_append, List.map_append]
  rfl

theorem boundsIn_field {name : String} (h : name ∉ boundNames) (j : Json) :
    boundsIn (field name j) = [] := by
  have hno : decide (name ∈ boundNames) = false := decide_eq_false h
  simp [boundsIn, field, hno]

section

variable {α : Type} {name : String} {write : α → Json}

theorem boundsIn_fieldOf?_of_not_mem (h : name ∉ boundNames) (a : Option α) :
    boundsIn (fieldOf? name a write) = [] := by
  cases a with
  | none => rfl
  | some a => exact boundsIn_field h (write a)

theorem boundsIn_fieldOf? (h : name ∈ boundNames) (a : Option α) :
    boundsIn (fieldOf? name a write) = a.toList.map write := by
  cases a with
  | none => rfl
  | some a =>
    have hyes : decide (name ∈ boundNames) = true := decide_eq_true h
    simp [boundsIn, fieldOf?, hyes]

end

theorem ofWord32_inj {m n : UInt32} (h : ofWord32 m = ofWord32 n) : m = n := by
  have hint : (m.toNat : Int) = n.toNat := Number.int.inj (Json.number.inj h)
  exact UInt32.toNat_inj.mp (Int.ofNat.inj hint)

theorem capped_iff {j : Json} {ns : List TokenCount} (h : j.tokenBounds = ns.map ofWord32)
    (cap : TokenCount) : j.Capped cap ↔ ∀ n ∈ ns, n ≤ cap := by
  rw [Capped, h]
  constructor
  · intro hj n hn
    obtain ⟨m, hm, heq⟩ := hj _ (List.mem_map_of_mem hn)
    rw [ofWord32_inj heq]
    exact hm
  · intro hns v hv
    obtain ⟨n, hn, rfl⟩ := List.mem_map.mp hv
    exact ⟨n, hns n hn, rfl⟩

end Json

/-! ## bounds of a lowered request -/

theorem OpenAi.boundsIn_fields (q : OpenAi.Request) : Json.boundsIn q.fields
    = (q.maxTokens.toList ++ q.maxCompletionTokens.toList).map Json.ofWord32 := by
  unfold OpenAi.Request.fields
  simp (disch := decide) only [Json.boundsIn_append, Json.boundsIn_field,
    Json.boundsIn_fieldOf?_of_not_mem, Json.boundsIn_fieldOf?]
  simp

theorem OpenRouter.tokenBounds_toJson (q : OpenRouter.Request) : q.toJson.tokenBounds
    = (q.base.maxTokens.toList ++ q.base.maxCompletionTokens.toList).map Json.ofWord32 := by
  unfold OpenRouter.Request.toJson Json.tokenBounds
  simp (disch := decide) only [Json.boundsIn_append, OpenAi.boundsIn_fields,
    Json.boundsIn_fieldOf?_of_not_mem]
  simp

theorem Anthropic.tokenBounds_toJson (q : Anthropic.Request) :
    q.toJson.tokenBounds = q.maxTokens.toList.map Json.ofWord32 := by
  unfold Anthropic.Request.toJson Json.tokenBounds
  simp (disch := decide) only [Json.boundsIn_append, Json.boundsIn_field,
    Json.boundsIn_fieldOf?_of_not_mem, Json.boundsIn_fieldOf?]
  simp

def Anthropic.sentBound (b : Budgets) (q : ChatRelay.Request) : TokenCount :=
  lowerTokenBound (q.tokenBound.getD defaultMaxTokens) (q.effort.map b.budget)

theorem Anthropic.sentBound_le_iff (b : Budgets) {q : ChatRelay.Request} {cap : TokenCount}
    (h : ∀ n, q.tokenBound = some n → n ≤ cap) :
    sentBound b q ≤ cap ↔
      (q.tokenBound = none → defaultMaxTokens ≤ cap) ∧
      ∀ e, q.effort = some e →
        b.budget e < q.tokenBound.getD defaultMaxTokens ∨
          (b.budget e).plus defaultMaxTokens ≤ cap := by
  have hplain : q.tokenBound.getD defaultMaxTokens ≤ cap ↔
      (q.tokenBound = none → defaultMaxTokens ≤ cap) := by
    cases hb : q.tokenBound with
    | none => simp
    | some n => simpa using h n hb
  unfold sentBound lowerTokenBound
  cases he : q.effort with
  | none => simpa using hplain
  | some e =>
    simp only [Option.map_some, Option.some.injEq, forall_eq']
    split
    · next hle =>
      -- the sum leaves room for the default on its own
      have hroom : (b.budget e).plus defaultMaxTokens ≤ cap → defaultMaxTokens ≤ cap := by
        have hdefault : defaultMaxTokens.toNat = 4096 := rfl
        rw [UInt32.le_iff_toNat_le, UInt32.le_iff_toNat_le, TokenCount.toNat_plus]
        omega
      constructor
      · exact fun hcap => ⟨fun _ => hroom hcap, .inr hcap⟩
      · rintro ⟨-, hlt | hcap⟩
        · exact absurd hle (UInt32.not_le.mpr hlt)
        · exact hcap
    · next hle =>
      rw [hplain]
      exact ⟨fun hcap => ⟨hcap, .inl (UInt32.not_le.mp hle)⟩, fun hboth => hboth.1⟩

/-- the bounds that a backend is sent for a request -/
def Backend.sentBounds (b : Backend) (q : Request) : List TokenCount :=
  match b.dialect with
  | .anthropic => [Anthropic.sentBound b.budgets q]
  | .openAi | .openRouter => q.params.maxTokens.toList ++ q.params.maxCompletionTokens.toList

theorem Backend.tokenBounds_lowerBody (b : Backend) (q : Request) :
    (b.lowerBody q).tokenBounds = (b.sentBounds q).map Json.ofWord32 := by
  unfold lowerBody sentBounds
  cases b.dialect with
  | openAi => exact OpenAi.boundsIn_fields _
  | openRouter => exact OpenRouter.tokenBounds_toJson _
  | anthropic => exact Anthropic.tokenBounds_toJson _

/-! ## bounds behind the decorators of settings -/

theorem Request.le_tokenBound {q : Request} {n : TokenCount}
    (h : n ∈ q.params.maxTokens.toList ++ q.params.maxCompletionTokens.toList) :
    ∃ bound, q.tokenBound = some bound ∧ n ≤ bound := by
  unfold tokenBound
  cases hm : q.params.maxTokens with
  | none =>
    cases hc : q.params.maxCompletionTokens with
    | none => simp [hm, hc] at h
    | some b =>
      obtain rfl : n = b := by simpa [hm, hc] using h
      exact ⟨n, rfl, UInt32.le_refl n⟩
  | some a =>
    cases hc : q.params.maxCompletionTokens with
    | none =>
      obtain rfl : n = a := by simpa [hm, hc] using h
      exact ⟨n, rfl, UInt32.le_refl n⟩
    | some b =>
      refine ⟨max a b, rfl, ?_⟩
      rw [UInt32.le_iff_toNat_le, TokenCount.toNat_max]
      rcases (by simpa [hm, hc] using h : n = a ∨ n = b) with rfl | rfl
      · exact Nat.le_max_left _ _
      · exact Nat.le_max_right _ _

/-- what a request may ask for under settings: the caller's bound, or else the default, and no more
than the cap -/
def DecoratorSettings.tokenBound (s : DecoratorSettings) (q : Request) : Option TokenCount :=
  (q.tokenBound.or s.defaultMaxTokens).map fun n => (s.maxTokensCap.map (min n ·)).getD n

namespace Decorator

theorem run_defaultMaxTokens (default : Option TokenCount) (q : Request) :
    ∃ p, Chain.run onRequest (default.map defaultMaxTokens).toList q = .ok p ∧
      p.effort = q.effort ∧ p.tokenBound = q.tokenBound.or default := by
  cases default with
  | none => exact ⟨q, rfl, rfl, by rw [Option.or_none]⟩
  | some n =>
    refine ⟨_, rfl, ?_⟩
    cases hb : q.tokenBound with
    | some bound => simp [hb]
    | none =>
      have hmax : q.params.maxCompletionTokens = none := by
        unfold Request.tokenBound at hb
        cases hm : q.params.maxTokens <;> cases hc : q.params.maxCompletionTokens <;>
          simp [hm, hc] at hb ⊢
      simp [Request.tokenBound, hmax]

theorem run_maxTokensCap (cap : Option TokenCount) (q : Request) :
    ∃ p, Chain.run onRequest (cap.map maxTokensCap).toList q = .ok p ∧
      p.effort = q.effort ∧
      p.tokenBound = q.tokenBound.map fun n => (cap.map (min n ·)).getD n := by
  cases cap with
  | none => exact ⟨q, rfl, rfl, by simp⟩
  | some c =>
    refine ⟨_, rfl, rfl, ?_⟩
    unfold Request.tokenBound
    cases q.params.maxTokens with
    | none => cases q.params.maxCompletionTokens <;> rfl
    | some a =>
      cases q.params.maxCompletionTokens with
      | none => rfl
      | some b => exact congrArg some (TokenCount.max_min a b c)

theorem run_defaultTemperature (temperature : Option Float) (q : Request) :
    ∃ p, Chain.run onRequest (temperature.map defaultTemperature).toList q = .ok p ∧
      p.effort = q.effort ∧ p.tokenBound = q.tokenBound := by
  cases temperature with
  | none => exact ⟨q, rfl, rfl, rfl⟩
  | some t =>
    refine ⟨_, rfl, ?_⟩
    cases q.params.temperature.isSome <;> exact ⟨rfl, rfl⟩

theorem run_streamUsage (forced : Bool) (q : Request) :
    ∃ p, Chain.run onRequest (if forced then [streamUsage] else []) q = .ok p ∧
      p.effort = q.effort ∧ p.tokenBound = q.tokenBound := by
  cases forced with
  | false => exact ⟨q, rfl, rfl, rfl⟩
  | true =>
    refine ⟨_, rfl, ?_⟩
    cases q.stream <;> exact ⟨rfl, rfl⟩

end Decorator

namespace Chain

/-- the decorators of settings refuse no request and bound it as the settings say -/
theorem applyRequest_ofSettings (s : DecoratorSettings) (q : Request) :
    ∃ p, (ofSettings s).applyRequest q = .ok p ∧ p.effort = q.effort ∧
      p.tokenBound = s.tokenBound q := by
  obtain ⟨q₁, hrun₁, heffort₁, hbound₁⟩ :=
    Decorator.run_defaultMaxTokens s.defaultMaxTokens q
  obtain ⟨q₂, hrun₂, heffort₂, hbound₂⟩ := Decorator.run_maxTokensCap s.maxTokensCap q₁
  obtain ⟨q₃, hrun₃, heffort₃, hbound₃⟩ :=
    Decorator.run_defaultTemperature s.defaultTemperature q₂
  obtain ⟨p, hrun, heffort, hbound⟩ := Decorator.run_streamUsage s.forceStreamUsage q₃
  have hruns₂ := (run_append_of_ok hrun₁ _).trans hrun₂
  have hruns₃ := (run_append_of_ok hruns₂ _).trans hrun₃
  have hruns := (run_append_of_ok hruns₃ _).trans hrun
  refine ⟨p, ?_, ?_, ?_⟩
  · rw [applyRequest, decorators_ofSettings]
    exact hruns
  · rw [heffort, heffort₃, heffort₂, heffort₁]
  · rw [hbound, hbound₃, hbound₂, hbound₁, DecoratorSettings.tokenBound]

end Chain

/-! ## what is sent -/

theorem Backend.body_of_call {b : Backend} {q : Request} {call : Http.Call}
    (h : b.call q = .ok call) : call.body = (b.lowerBody q).render := by
  obtain ⟨c, u, -, -, rfl⟩ := call_eq_ok_iff.mp h
  rfl

theorem Backend.call_of_endpoint {b : Backend} {c : Channel} (hc : b.current = .ok c)
    (hu : (c.endpoint (requestPath b.dialect)).isOk = true) (q : Request) :
    ∃ call, b.call q = .ok call ∧ call.body = (b.lowerBody q).render := by
  obtain ⟨u, hu⟩ := exists_ok_of_isOk hu
  exact ⟨_, call_eq_ok_iff.mpr ⟨c, u, current_eq_ok_iff.mp hc, hu, rfl⟩, rfl⟩

namespace Relay

variable {r : Relay} {a : Ambient} {net : Network} {q : Request}

theorem body_of_attempt {b : Backend} (hb : b.lowerBody q = r.backend.lowerBody q) {n time : Nat} :
    ∀ x ∈ (r.attempt a net b q n time).1.toList,
      x.call.body = (r.backend.lowerBody q).render := by
  intro x hx
  unfold attempt at hx
  split at hx
  · exact nomatch hx
  · next call hcall =>
    obtain rfl := List.mem_singleton.mp hx
    rw [← hb]
    exact Backend.body_of_call hcall

/-- another channel is sent the same body -/
theorem lowerBody_of_next? {i : Nat} {c : Backend} (h : r.next? i = some c) :
    c.lowerBody q = r.backend.lowerBody q := by
  unfold next? at h
  split at h
  · obtain ⟨-, rfl⟩ := Backend.at?_eq_some_iff.mp h
    rfl
  · rw [← Option.some.inj h]

theorem body_of_mem_attempts {left : Nat} {b : Backend} {i n time : Nat}
    (hb : b.lowerBody q = r.backend.lowerBody q) :
    ∀ x ∈ (r.attempts a net q left b i n time).sent,
      x.call.body = (r.backend.lowerBody q).render := by
  -- by induction on the retries left: a run is its first attempt and a run on the next channel
  induction left generalizing b i n time with
  | zero =>
    cases ho : (r.attempt a net b q n time).2 with
    | ok d => rw [attempts_of_ok ho]; exact body_of_attempt hb
    | error f => rw [attempts_zero ho]; exact body_of_attempt hb
  | succ left ih =>
    cases ho : (r.attempt a net b q n time).2 with
    | ok d => rw [attempts_of_ok ho]; exact body_of_attempt hb
    | error f =>
      rw [attempts_succ ho]
      split
      · split
        · exact body_of_attempt hb
        · next c hc =>
          intro x hx
          rcases List.mem_append.mp hx with hx | hx
          · exact body_of_attempt hb x hx
          · exact ih (lowerBody_of_next? hc) x hx
      · exact body_of_attempt hb

theorem body_of_mem_run {body : ByteArray} (hq : r.prepare body = .ok q) (n time : Nat) :
    ∀ x ∈ (r.run a net body n time).sent, x.call.body = (r.backend.lowerBody q).render := by
  rw [run, hq]
  exact body_of_mem_attempts rfl

theorem prepare_ofSettings {s : DecoratorSettings} (hchain : r.chain = .ofSettings s)
    {body : ByteArray} (hq : r.caller.readRequest body = .ok q) :
    ∃ p, r.prepare body = .ok p ∧ p.effort = q.effort ∧ p.tokenBound = s.tokenBound q := by
  obtain ⟨p, happly, heffort, hbound⟩ := Chain.applyRequest_ofSettings s q
  refine ⟨p, ?_, heffort, hbound⟩
  rw [prepare, hq, hchain]
  show (Except.mapError Stuck.fault ((Chain.ofSettings s).applyRequest q)) = _
  rw [happly]
  rfl

/-- **The cap of settings on what is sent.**  Every call of a run, on whichever channel, sends the
prepared request.  Its bounds keep to the cap, but where the messages interface is spoken only if two
things hold: the cap leaves room for the default where neither caller nor settings give a bound, and
a thinking budget that reaches the bound leaves room for an answer below the cap. -/
theorem sent_capped_iff {durations : Duration.Reader} {s : Settings} {h : Hub}
    (hs : Hub.ofSettings durations s = .ok h) {d : Dialect} {name : String} {r : Relay}
    (hr : h.relay d name = .ok r) {cap : TokenCount}
    (hcap : s.decorators.maxTokensCap = some cap) {body : ByteArray} {q : Request}
    (hq : r.caller.readRequest body = .ok q) :
    ∃ p, r.prepare body = .ok p ∧
      (∀ a net n time, ∀ x ∈ (r.run a net body n time).sent,
        x.call.body = (r.backend.lowerBody p).render) ∧
      ((r.backend.lowerBody p).Capped cap ↔
        (r.backend.dialect = .anthropic →
          (s.decorators.tokenBound q = none → Anthropic.defaultMaxTokens ≤ cap) ∧
          ∀ e, q.effort = some e →
            s.budgets.budget e < (s.decorators.tokenBound q).getD Anthropic.defaultMaxTokens ∨
              (s.budgets.budget e).plus Anthropic.defaultMaxTokens ≤ cap)) := by
  obtain ⟨hchain, hbudgets⟩ := Hub.relay_eq hs hr
  obtain ⟨p, hp, heffort, hbound⟩ := prepare_ofSettings hchain hq
  refine ⟨p, hp, fun a net n time => body_of_mem_run hp n time, ?_⟩
  have hle : ∀ n, p.tokenBound = some n → n ≤ cap := by
    intro n hn
    rw [hbound, DecoratorSettings.tokenBound, hcap] at hn
    obtain ⟨m, -, rfl⟩ := Option.map_eq_some_iff.mp hn
    show min m cap ≤ cap
    rw [UInt32.le_iff_toNat_le, TokenCount.toNat_min]
    exact Nat.min_le_right _ _
  rw [Json.capped_iff (r.backend.tokenBounds_lowerBody p) cap]
  by_cases hd : r.backend.dialect = .anthropic
  · have hsent : r.backend.sentBounds p = [Anthropic.sentBound s.budgets p] := by
      unfold Backend.sentBounds
      rw [hd, hbudgets]
    rw [hsent, List.forall_mem_singleton, Anthropic.sentBound_le_iff s.budgets hle, hbound,
      heffort]
    exact ⟨fun hboth _ => hboth, fun hboth => hboth hd⟩
  · have hsent : r.backend.sentBounds p
        = p.params.maxTokens.toList ++ p.params.maxCompletionTokens.toList := by
      unfold Backend.sentBounds
      cases hd' : r.backend.dialect with
      | anthropic => exact absurd hd' hd
      | openAi | openRouter => rfl
    refine ⟨fun _ hd' => absurd hd' hd, fun _ n hn => ?_⟩
    rw [hsent] at hn
    obtain ⟨bound, hb, hn⟩ := Request.le_tokenBound hn
    exact UInt32.le_trans hn (hle bound hb)

def site : Url := { scheme := "https".toList, host := some "c".toList, path := .parts [] }

/-- settings with one backend of the messages interface and a cap -/
def cappedAt (cap : TokenCount) : Settings :=
  { backends := [("b", {
      dialect := .anthropic
      channels := [{ name := "c", baseUrl := some site }] })]
    decorators := { maxTokensCap := some cap } }

def ponder : ByteArray :=
  ("\x7b\"model\":\"m\",\"reasoning_effort\":\"low\"," ++
    "\"messages\":[\x7b\"role\":\"user\",\"content\":\"q\"\x7d]\x7d").toUTF8

theorem sent_capped_iff_ponder :
    ∃ h, Hub.ofSettings Duration.wholeSeconds (cappedAt 20000) = .ok h ∧
      ∃ r, h.relay .openAi "b" = .ok r ∧
        ∃ q, r.caller.readRequest ponder = .ok q ∧ ∃ p, r.prepare ponder = .ok p ∧
          (r.backend.lowerBody p).Capped 20000 := by
  have hread : ∃ h, Hub.ofSettings Duration.wholeSeconds (cappedAt 20000) = .ok h ∧
      ∃ r, h.relay .openAi "b" = .ok r ∧
        ∃ q, r.caller.readRequest ponder = .ok q ∧ q.effort = some .low := by decide +kernel
  obtain ⟨h, hs, r, hr, q, hq, heffort⟩ := hread
  obtain ⟨p, hp, -, hiff⟩ := sent_capped_iff hs hr rfl hq
  refine ⟨h, hs, r, hr, q, hq, p, hp, hiff.mpr fun _ => ⟨fun _ => by decide, fun e he => ?_⟩⟩
  obtain rfl : e = .low := Option.some.inj (he.symm.trans heffort)
  exact .inr (by decide)

/-- a request without a bound of its own is sent with one that is four times the cap -/
theorem sent_above_cap :
    (cappedAt 1000).check Duration.wholeSeconds = .ok () ∧
    ∃ h, Hub.ofSettings Duration.wholeSeconds (cappedAt 1000) = .ok h ∧
      ∃ r, h.relay .openAi "b" = .ok r ∧ ∃ p, r.prepare question = .ok p ∧
        (r.backend.lowerBody p).tokenBounds = [Json.ofWord32 4096] ∧
        ¬ (r.backend.lowerBody p).Capped 1000 ∧
        ∃ call, r.backend.call p = .ok call ∧ call.body = (r.backend.lowerBody p).render := by
  have hlowered : ∃ h, Hub.ofSettings Duration.wholeSeconds (cappedAt 1000) = .ok h ∧
      ∃ r, h.relay .openAi "b" = .ok r ∧ ∃ p, r.prepare question = .ok p ∧
        (r.backend.lowerBody p).tokenBounds = [Json.ofWord32 4096] ∧
        r.backend = { dialect := .anthropic, channels := [{ name := "c", baseUrl := site }] } := by
    decide +kernel
  obtain ⟨h, hs, r, hr, p, hp, hbounds, hbackend⟩ := hlowered
  have hsound : (cappedAt 1000).problem? Duration.wholeSeconds = none := by decide +kernel
  refine ⟨by rw [Settings.check, hsound], h, hs, r, hr, p, hp, hbounds, ?_, ?_⟩
  · intro hcapped
    have hmap : (r.backend.lowerBody p).tokenBounds
        = [(4096 : TokenCount)].map Json.ofWord32 := hbounds
    have hle : (4096 : TokenCount) ≤ 1000 :=
      (Json.capped_iff hmap 1000).mp hcapped 4096 List.mem_cons_self
    exact absurd hle (by decide)
  · have hcurrent : r.backend.current = .ok { name := "c", baseUrl := site } := by
      rw [hbackend]
      rfl
    have hsite : (Channel.endpoint { name := "c", baseUrl := site } "messages").isOk = true := by
      cbv
    refine Backend.call_of_endpoint hcurrent ?_ p
    rw [hbackend]
    exact hsite

end Relay
end ChatRelay
