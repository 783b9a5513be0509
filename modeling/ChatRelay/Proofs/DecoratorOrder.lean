import ChatRelay.Proofs.Configured
import ChatRelay.Settings.File
import Mathlib.Data.List.Pairwise
import Mathlib.Data.List.Perm.Basic

/-!
# The order of the decorators of settings

The decorators that settings know refuse no request and change it part by part: the bounds on
generated tokens, the temperature, and what a stream reports.  Only default and cap change the same
part, and a default that the cap does not cut may be set before the cap or behind it.

* `Decorator.change`          what a decorator makes of a request;
* `Calm`                      decorators whose order and repetition make no difference;
* `Calm.foldl_idem`           what calm decorators made they leave as it is;
* `calm_decorators`           the decorators of settings that fit together are calm;
* `applyRequest_of_perm`      a chain that has them in any order.
-/

namespace ChatRelay

/-- a request without the parts that the decorators of settings change -/
def Request.undecorated (q : Request) : Request :=
  { q with
    params := { q.params with
      maxTokens := none
      maxCompletionTokens := none
      temperature := none }
    streamOptions := none }

namespace Decorator

/-- what a decorator makes of a request, where it refuses none -/
def change (d : Decorator) (q : Request) : Request := (d.onRequest q).toOption.getD q

/-- what decorators make of a request one after the other -/
def changes (ds : List Decorator) (q : Request) : Request := ds.foldl (fun p d => d.change p) q

/-! ## the parts that are changed -/

theorem change_defaultMaxTokens (bound : TokenCount) (q : Request) :
    (defaultMaxTokens bound).change q = { q with params := { q.params with
      maxTokens := q.params.maxTokens.or
        (if q.params.maxCompletionTokens.isSome then none else some bound) } } := by
  obtain ⟨model, messages, ⟨temperature, topP, topK, maxTokens, maxCompletionTokens⟩⟩ := q
  cases maxTokens <;> cases maxCompletionTokens <;> rfl

theorem change_maxTokensCap (cap : TokenCount) (q : Request) :
    (maxTokensCap cap).change q = { q with params := { q.params with
      maxTokens := q.params.maxTokens.map (min · cap)
      maxCompletionTokens := q.params.maxCompletionTokens.map (min · cap) } } := rfl

theorem change_defaultTemperature (temperature : Float) (q : Request) :
    (defaultTemperature temperature).change q = { q with params := { q.params with
      temperature := q.params.temperature.or (some temperature) } } := by
  obtain ⟨model, messages, ⟨old⟩⟩ := q
  cases old <;> rfl

theorem change_streamUsage (q : Request) : streamUsage.change q = { q with
    streamOptions := if q.stream then some { includeUsage := true } else q.streamOptions } := by
  obtain ⟨model, messages, params, stop, stream⟩ := q
  cases stream <;> rfl

/-- a default that the cap does not cut may be set on either side of it -/
theorem change_cap_default {bound cap : TokenCount} (h : bound ≤ cap) (q : Request) :
    (maxTokensCap cap).change ((defaultMaxTokens bound).change q)
      = (defaultMaxTokens bound).change ((maxTokensCap cap).change q) := by
  have hmin : min bound cap = bound := by
    rw [← UInt32.toNat_inj, TokenCount.toNat_min]
    exact Nat.min_eq_left (UInt32.le_iff_toNat_le.mp h)
  simp only [change_defaultMaxTokens, change_maxTokensCap]
  cases q.params.maxTokens with
  | some a => rfl
  | none =>
    cases q.params.maxCompletionTokens with
    | some b => rfl
    | none => simp [hmin]

/-! ## decorators whose order makes no difference -/

/-- decorators that refuse no request, come to the same in any order, change nothing when they run
again, and leave a request as it is but for the parts that decorators of settings change -/
structure Calm (ds : List Decorator) : Prop where
  accepts : ∀ d ∈ ds, ∀ q, d.onRequest q = .ok (d.change q)
  commutes : ∀ d ∈ ds, ∀ e ∈ ds, ∀ q, d.change (e.change q) = e.change (d.change q)
  idem : ∀ d ∈ ds, ∀ q, d.change (d.change q) = d.change q
  keeps : ∀ d ∈ ds, ∀ q, (d.change q).undecorated = q.undecorated

namespace Calm

variable {ds es : List Decorator}

theorem mono (h : Calm ds) (hsub : es ⊆ ds) : Calm es where
  accepts := fun d hd => h.accepts d (hsub hd)
  commutes := fun d hd e he => h.commutes d (hsub hd) e (hsub he)
  idem := fun d hd => h.idem d (hsub hd)
  keeps := fun d hd => h.keeps d (hsub hd)

theorem run_eq (h : Calm ds) (q : Request) :
    Chain.run onRequest ds q = .ok (changes ds q) := by
  induction ds generalizing q with
  | nil => rfl
  | cons d ds ih =>
    rw [Chain.run, h.accepts d List.mem_cons_self]
    exact ih (h.mono (List.subset_cons_self d ds)) (d.change q)

theorem changes_perm (h : Calm ds) (hperm : es.Perm ds) (q : Request) :
    changes es q = changes ds q :=
  (hperm.symm.foldl_eq' (fun d hd e he p => h.commutes e he d hd p) q).symm

/-- one decorator more may run before all the others -/
theorem change_changes (h : Calm ds) {d : Decorator} (hd : d ∈ ds) (hsub : es ⊆ ds) (q : Request) :
    d.change (changes es q) = changes es (d.change q) := by
  induction es generalizing q with
  | nil => rfl
  | cons e es ih =>
    obtain ⟨he, hes⟩ := List.cons_subset.mp hsub
    show d.change (changes es (e.change q)) = changes es (e.change (d.change q))
    rw [ih hes, h.commutes d hd e he]

/-- a decorator changes nothing of what it was among those to make -/
theorem change_changes_self (h : Calm ds) {d : Decorator} (hd : d ∈ ds) (q : Request) :
    d.change (changes ds q) = changes ds q := by
  obtain ⟨front, rest, rfl⟩ := List.append_of_mem hd
  have hrest : rest ⊆ front ++ d :: rest :=
    fun x hx => List.mem_append_right front (List.mem_cons_of_mem d hx)
  have hsplit : changes (front ++ d :: rest) q = changes rest (d.change (changes front q)) :=
    List.foldl_append
  rw [hsplit, h.change_changes hd hrest, h.idem d hd]

/-- what they made they leave as it is -/
theorem changes_changes (h : Calm ds) (hsub : es ⊆ ds) (q : Request) :
    changes es (changes ds q) = changes ds q := by
  induction es with
  | nil => rfl
  | cons e es ih =>
    obtain ⟨he, hes⟩ := List.cons_subset.mp hsub
    show changes es (e.change (changes ds q)) = _
    rw [h.change_changes_self he, ih hes]

theorem undecorated_changes (h : Calm ds) (q : Request) :
    (changes ds q).undecorated = q.undecorated := by
  induction ds generalizing q with
  | nil => rfl
  | cons d ds ih =>
    show (changes ds (d.change q)).undecorated = _
    rw [ih (h.mono (List.subset_cons_self d ds)), h.keeps d List.mem_cons_self]

end Calm

/-! ## the decorators of settings -/

/-- a default that the cap does not cut, with a temperature and with usage -/
theorem calm_of_le {bound cap : TokenCount} (h : bound ≤ cap) (temperature : Float) :
    Calm [defaultMaxTokens bound, maxTokensCap cap, defaultTemperature temperature,
      streamUsage] where
  accepts := by
    simp only [List.forall_mem_cons]
    exact ⟨fun _ => rfl, fun _ => rfl, fun _ => rfl, fun _ => rfl, nofun⟩
  commutes := by
    have hpairs : [defaultMaxTokens bound, maxTokensCap cap, defaultTemperature temperature,
        streamUsage].Pairwise fun d e => ∀ q, d.change (e.change q) = e.change (d.change q) := by
      simp only [List.pairwise_cons, List.forall_mem_cons]
      refine ⟨⟨fun q => (change_cap_default h q).symm, ?_, ?_, nofun⟩, ⟨?_, ?_, nofun⟩, ⟨?_, nofun⟩,
        nofun, .nil⟩
      -- any other two change different parts
      all_goals
        intro q
        simp only [change_defaultMaxTokens, change_maxTokensCap, change_defaultTemperature,
          change_streamUsage]
    intro d hd e he
    exact hpairs.forall_of_forall_of_flip (fun _ _ _ => rfl)
      (hpairs.imp fun hde q => (hde q).symm) hd he
  idem := by
    simp only [List.forall_mem_cons]
    refine ⟨fun q => ?_, fun q => ?_, fun q => ?_, fun q => ?_, nofun⟩
    · simp only [change_defaultMaxTokens]
      cases q.params.maxTokens <;> cases q.params.maxCompletionTokens <;> rfl
    · have hmin : (min · cap) ∘ (min · cap) = (min · cap) := by
        funext n
        show min (min n cap) cap = min n cap
        rw [← UInt32.toNat_inj, TokenCount.toNat_min, TokenCount.toNat_min]
        omega
      simp only [change_maxTokensCap, Option.map_map, hmin]
    · simp only [change_defaultTemperature]
      cases q.params.temperature <;> rfl
    · simp only [change_streamUsage]
      cases q.stream <;> rfl
  keeps := by
    simp only [List.forall_mem_cons]
    refine ⟨fun q => ?_, fun q => ?_, fun q => ?_, fun q => ?_, nofun⟩
    · rw [change_defaultMaxTokens]
      rfl
    · rfl
    · rw [change_defaultTemperature]
      rfl
    · rw [change_streamUsage]
      rfl

theorem default_le_cap {s : DecoratorSettings} (h : Settings.decoratorsProblem? s = none) :
    s.defaultMaxTokens.getD 0 ≤ s.maxTokensCap.getD .top := by
  cases hbound : s.defaultMaxTokens with
  | none => exact UInt32.zero_le
  | some bound =>
    cases hcap : s.maxTokensCap with
    | none =>
      have hlt := bound.toNat_lt
      rw [Option.getD_some, Option.getD_none, UInt32.le_iff_toNat_le, TokenCount.toNat_top]
      omega
    | some cap =>
      simp only [Settings.decoratorsProblem?, hbound, hcap] at h
      split at h
      · exact nomatch h
      · next hle => exact UInt32.not_lt.mp hle

/-- the decorators of settings that fit together -/
theorem calm_decorators {s : DecoratorSettings} (h : Settings.decoratorsProblem? s = none) :
    Calm s.decorators :=
  (calm_of_le (default_le_cap h) _).mono (Chain.decorators_sublist s).subset

end Decorator

/-- **The order of the decorators of settings.**  A chain in which the decorators of settings that
fit together were registered in any order makes of a request what the chain of the settings makes of
it, and makes it again of that.  Of a request nothing changes but the bounds on generated tokens, the
temperature, and what a stream reports. -/
theorem applyRequest_of_perm {s : DecoratorSettings} (hs : Settings.decoratorsProblem? s = none)
    {ds : List Decorator} (hperm : ds.Perm s.decorators) (q : Request) :
    ∃ p, (ds.foldl Chain.register {}).applyRequest q = .ok p ∧
      (Chain.ofSettings s).applyRequest q = .ok p ∧
      (ds.foldl Chain.register {}).applyRequest p = .ok p ∧
      p.undecorated = q.undecorated := by
  have hcalm := Decorator.calm_decorators hs
  have hcalm' : Decorator.Calm ds := hcalm.mono hperm.subset
  have hnodup : (ds.map (·.name)).Nodup :=
    (hperm.map _).nodup_iff.mpr (Chain.nodup_names_decorators s)
  have hchain : (ds.foldl Chain.register {}).decorators = ds :=
    Chain.decorators_foldl_register ds {} hnodup
  refine ⟨Decorator.changes ds q, ?_, ?_, ?_, hcalm'.undecorated_changes q⟩
  · rw [Chain.applyRequest, hchain, hcalm'.run_eq]
  · rw [Chain.applyRequest, Chain.decorators_ofSettings, hcalm.run_eq, hcalm.changes_perm hperm]
  · rw [Chain.applyRequest, hchain, hcalm'.run_eq, hcalm'.changes_changes (List.Subset.refl ds)]

/-- all four decorators, the last one first, and a request above the cap -/
theorem applyRequest_of_perm_reversed :
    let s : DecoratorSettings :=
      { defaultMaxTokens := some 100, maxTokensCap := some 1000, defaultTemperature := some 0.5 }
    let q : Request := { stream := true, params := { maxCompletionTokens := some 5000 } }
    Settings.decoratorsProblem? s = none ∧ s.decorators.length = 4 ∧
    s.decorators.reverse.Perm s.decorators ∧
    ∃ p, (s.decorators.reverse.foldl Chain.register {}).applyRequest q = .ok p ∧
      (Chain.ofSettings s).applyRequest q = .ok p ∧
      (s.decorators.reverse.foldl Chain.register {}).applyRequest p = .ok p ∧
      p.undecorated = q.undecorated ∧ p.params.maxCompletionTokens = some 1000 := by
  intro s q
  have hs : Settings.decoratorsProblem? s = none := by decide
  have hperm : s.decorators.reverse.Perm s.decorators := List.reverse_perm _
  obtain ⟨p, hreversed, hsettings, hagain, hkept⟩ := applyRequest_of_perm hs hperm q
  refine ⟨hs, rfl, hperm, p, hreversed, hsettings, hagain, hkept, ?_⟩
  obtain rfl : _ = p := Except.ok.inj hsettings
  rfl

/-- a default that the cap does cut is not cut where it is set behind the cap -/
example :
    let s : DecoratorSettings := { defaultMaxTokens := some 100, maxTokensCap := some 10 }
    let bound (ds : List Decorator) : Option TokenCount :=
      ((⟨ds⟩ : Chain).applyRequest {}).toOption.bind (·.params.maxTokens)
    bound s.decorators = some 10 ∧ bound s.decorators.reverse = some 100 := by
  decide

end ChatRelay
