import ChatRelay.Proofs.Anthropic.Counts
import Mathlib.Data.List.Induction

/-!
# The cache's share of the prompt

In the usage of a message the tokens of the cache come on top of the input, so that in the shared
form they are part of the prompt.  Merging takes the prompt from the first report that has one and
the details of the prompt from the first report that has any.  These need not be the same report: a
report whose tokens all are input leaves the details to a later one, whose cache may be greater than
that prompt.  What is merged is consistent exactly where this does not happen.

* `consistent_merge_iff`    two reports;
* `Known`                   what is known after a list of reports, one report more at a time;
* `known_gathered`          what the collector knows;
* `known_behind`            what the lifter knows: the reports since the message started;
* `consistent_reports_iff`  the share of the cache in what both report.
-/

namespace ChatRelay

/-! ## two reports -/

namespace Usage

theorem cacheCount_congr {u v : Usage} (h : u.promptDetails = v.promptDetails) :
    u.cacheCount = v.cacheCount := by
  rw [cacheCount, cacheCount, cached, cached, written, written, h]

/-- the cache of the first report with details -/
theorem cacheCount_merge (a b : Usage) : (a.merge b).cacheCount
    = if a.promptDetails = none then b.cacheCount else a.cacheCount := by
  by_cases h : a.promptDetails = none
  · rw [if_pos h]
    exact cacheCount_congr (by rw [merge, h, Option.none_or])
  · obtain ⟨d, hd⟩ := Option.ne_none_iff_exists'.mp h
    rw [if_neg h]
    exact cacheCount_congr (by rw [merge, hd, Option.some_or])

/-- the prompt of the first report that has one -/
theorem toNat_prompt_merge (a b : Usage) : (a.merge b).prompt.toNat
    = if 0 < a.prompt.toNat then a.prompt.toNat else b.prompt.toNat := by
  show (firstCount a.prompt b.prompt).toNat = _
  rw [firstCount, apply_ite UInt32.toNat]
  rfl

/-- a report without details gives its prompt and takes the cache of the other -/
theorem consistent_merge_iff {a b : Usage} (ha : a.Consistent) (hb : b.Consistent) :
    (a.merge b).Consistent ↔
      a.prompt = 0 ∨ a.promptDetails ≠ none ∨ b.cacheCount ≤ a.prompt.toNat := by
  rw [Consistent] at ha hb
  rw [Consistent, cacheCount_merge, toNat_prompt_merge, ← UInt32.toNat_inj, UInt32.toNat_zero]
  by_cases h : a.promptDetails = none
  · rw [if_pos h]
    simp only [ne_eq, h, not_true_eq_false, false_or]
    split <;> omega
  · rw [if_neg h]
    simp only [ne_eq, h, not_false_eq_true, true_or, or_true, iff_true]
    split <;> omega

end Usage

namespace Anthropic

/-- details say that there is a cache -/
theorem promptDetails_lift_iff (u : Usage) : u.lift.promptDetails = none ↔ u.cacheCount = 0 := by
  have hcount : (0 < u.cacheRead.getD 0 ∨ 0 < u.cacheWritten.getD 0) ↔ u.cacheCount ≠ 0 := by
    rw [UInt32.lt_iff_toNat_lt, UInt32.lt_iff_toNat_lt, UInt32.toNat_zero, Usage.cacheCount]
    omega
  simp only [Usage.lift]
  split
  · next h => simpa using hcount.mp h
  · next h => simpa using hcount.not.mp h

/-! ## a list of reports -/

/-- the first number that is not zero, if any -/
def leading (xs : List Nat) : Nat := (xs.find? (0 < ·)).getD 0

theorem leading_snoc (xs : List Nat) (x : Nat) :
    leading (xs ++ [x]) = if 0 < leading xs then leading xs else x := by
  rw [leading, leading, List.find?_append]
  cases h : xs.find? (0 < ·) with
  | none =>
    rw [Option.none_or, Option.getD_none, if_neg (Nat.lt_irrefl 0), List.find?_singleton]
    split
    · rfl
    · next hx =>
      rw [Option.getD_none]
      simp only [decide_eq_true_eq] at hx
      omega
  | some y =>
    have hy : 0 < y := by simpa using List.find?_some h
    rw [Option.some_or, Option.getD_some, if_pos hy]

/-- the first cache that there is in a list of reports is no more than the first prompt -/
def Covered (us : List Usage) : Prop :=
  leading (us.map Usage.cacheCount) ≤ leading (us.map Usage.promptCount)

instance (us : List Usage) : Decidable (Covered us) :=
  inferInstanceAs (Decidable (_ ≤ _))

/-- no sum of a report is cut -/
def Fitting (us : List Usage) : Prop := ∀ u ∈ us, u.promptCount ≤ 4294967295

instance (us : List Usage) : Decidable (Fitting us) :=
  inferInstanceAs (Decidable (∀ u ∈ us, u.promptCount ≤ 4294967295))

/-- merged usage says of prompt and cache what the first reports that have them say -/
structure Known (us : List Usage) (m : ChatRelay.Usage) : Prop where
  prompt : m.prompt.toNat = leading (us.map Usage.promptCount)
  cache : m.cacheCount = leading (us.map Usage.cacheCount)
  details : m.promptDetails = none ↔ m.cacheCount = 0

namespace Known

variable {us : List Usage} {m : ChatRelay.Usage} {u : Usage}

theorem nil : Known [] {} := ⟨rfl, rfl, by decide⟩

theorem consistent_iff (h : Known us m) : m.Consistent ↔ Covered us := by
  rw [ChatRelay.Usage.Consistent, h.prompt, h.cache, Covered]

theorem snoc (h : Known us m) (hu : u.promptCount ≤ 4294967295) :
    Known (us ++ [u]) (m.merge u.lift) := by
  have hcache : (m.merge u.lift).cacheCount
      = if 0 < m.cacheCount then m.cacheCount else u.cacheCount := by
    rw [ChatRelay.Usage.cacheCount_merge, cacheCount_lift]
    by_cases hnone : m.promptDetails = none
    · rw [if_pos hnone, if_neg (by rw [h.details.mp hnone]; exact Nat.lt_irrefl 0)]
    · rw [if_neg hnone, if_pos (Nat.pos_of_ne_zero (h.details.not.mp hnone))]
  refine ⟨?_, ?_, ?_⟩
  · rw [ChatRelay.Usage.toNat_prompt_merge, h.prompt, toNat_prompt_lift, Nat.min_eq_left hu,
      List.map_append, List.map_singleton, leading_snoc]
  · rw [hcache, h.cache, List.map_append, List.map_singleton, leading_snoc]
  · rw [hcache, ChatRelay.Usage.merge, Option.or_eq_none_iff, h.details, promptDetails_lift_iff]
    split <;> omega

/-- a first report is known as it is -/
theorem singleton (hu : u.promptCount ≤ 4294967295) : Known [u] u.lift := by
  have hmerge : Known ([] ++ [u]) (({} : ChatRelay.Usage).merge u.lift) := nil.snoc hu
  rwa [List.nil_append, ChatRelay.Usage.empty_merge (u := u.lift) rfl] at hmerge

/-- merged usage that may be missing, with one report more -/
theorem merge? {known : Option ChatRelay.Usage} (h : Known us (known.getD {}))
    (hu : u.promptCount ≤ 4294967295) :
    Known (us ++ [u]) ((ChatRelay.Usage.merge? known (some u.lift)).getD {}) := by
  cases known with
  | none =>
    have hmerge : Known (us ++ [u]) (({} : ChatRelay.Usage).merge u.lift) := h.snoc hu
    rwa [ChatRelay.Usage.empty_merge (u := u.lift) rfl] at hmerge
  | some m => exact h.snoc hu

end Known

/-! ## the collector -/

/-- the usage that an event reports -/
def Event.report? : Event → Option Usage
  | .messageStart m => some m.usage
  | .messageDelta _ u => u
  | .blockStart .. | .blockDelta .. | .blockStop _ | .messageStop | .ping | .error _ => none

/-- the usage that events report -/
def reports (es : List Event) : List Usage := es.filterMap Event.report?

theorem reports_snoc (es : List Event) (e : Event) :
    reports (es ++ [e]) = reports es ++ e.report?.toList := by
  rw [reports, List.filterMap_append]
  cases h : e.report? <;> simp [reports, h]

theorem usage_gathered_snoc (es : List Event) (e : Event) : (gathered (es ++ [e])).usage
    = ChatRelay.Usage.merge? (gathered es).usage (e.report?.map Usage.lift) := by
  rw [gathered_snoc]
  cases e with
  | messageStart m | messageDelta ending u => rfl
  | blockStart i b =>
    show (Collected.note _ (.blockStart i b)).usage = _
    rw [Event.report?, Option.map_none, ChatRelay.Usage.merge?_none_right, Collected.note]
    split <;> rfl
  | blockDelta _ _ | blockStop _ | messageStop | ping | error _ =>
    exact (ChatRelay.Usage.merge?_none_right _).symm

theorem known_gathered {es : List Event} (h : Fitting (reports es)) :
    Known (reports es) ((gathered es).usage.getD {}) := by
  induction es using List.reverseRecOn with
  | nil => exact Known.nil
  | append_singleton es e ih =>
    rw [reports_snoc] at h ⊢
    have hes := ih fun u hu => h u (List.mem_append_left _ hu)
    rw [usage_gathered_snoc]
    cases he : e.report? with
    | none =>
      rwa [Option.map_none, ChatRelay.Usage.merge?_none_right, Option.toList_none, List.append_nil]
    | some u => exact hes.merge? (h u (by simp [he]))

theorem usage_of_finish {s : Collected} {now : UInt64} {p : Response} (h : s.finish now = .ok p) :
    p.usage = s.usage := by
  rw [Collected.finish] at h
  split at h
  · cases h
  · rw [← Except.ok.inj h]

/-! ## the lifter -/

/-- the reports with what one event more reports; the start of a message forgets those before it -/
def Event.reportsOn (us : List Usage) : Event → List Usage
  | .messageStart m => [m.usage]
  | .messageDelta _ u => us ++ u.toList
  | .blockStart .. | .blockDelta .. | .blockStop _ | .messageStop | .ping | .error _ => us

/-- the usage that events report since the message started -/
def reportsSinceStart (es : List Event) : List Usage := es.foldl Event.reportsOn []

theorem reportsSinceStart_snoc (es : List Event) (e : Event) :
    reportsSinceStart (es ++ [e]) = e.reportsOn (reportsSinceStart es) := by
  rw [reportsSinceStart, List.foldl_append]
  rfl

namespace Fragments

/-- the state behind a list of events, of which those that report a fault change nothing -/
def behind (s : Fragments) (es : List Event) : Fragments :=
  es.foldl (fun s e => match s.step e with
    | .ok (_, next) => next
    | .error _ => s) s

theorem behind_snoc (s : Fragments) (es : List Event) (e : Event) :
    s.behind (es ++ [e]) = match (s.behind es).step e with
      | .ok (_, next) => next
      | .error _ => s.behind es := by
  rw [behind, List.foldl_append]
  rfl

/-- a step that neither learns nor reports usage -/
def Quiet (s : Fragments) (r : List Response × Fragments) : Prop :=
  r.2.usage = s.usage ∧ ∀ c ∈ r.1, c.usage = none

theorem quiet_nil (s : Fragments) : Quiet s ([], s) := ⟨rfl, nofun⟩

theorem quiet_singleton {s next : Fragments} {c : Response} (hnext : next.usage = s.usage)
    (hc : c.usage = none) : Quiet s ([c], next) :=
  ⟨hnext, fun x hx => by rw [List.mem_singleton.mp hx, hc]⟩

theorem quiet_startBlock (s : Fragments) (i : UInt32) (b : Block) :
    Quiet s (s.startBlock i b) := by
  cases b with
  | text t | thinking t sign =>
    rw [startBlock]
    split
    · exact quiet_nil s
    · exact quiet_singleton rfl rfl
  | toolUse id name input => exact quiet_singleton rfl rfl
  | image _ | toolResult _ _ _ | redacted _ => exact quiet_nil s

theorem quiet_growBlock (s : Fragments) (i : UInt32) (d : Delta) :
    Quiet s (s.growBlock i d, s) := by
  cases d with
  | text _ | thinking _ => exact quiet_singleton rfl rfl
  | inputJson piece =>
    rw [growBlock]
    split
    · exact quiet_singleton rfl rfl
    · exact quiet_nil s
  | signature _ => exact quiet_nil s

theorem quiet_close (s : Fragments) : Quiet s s.close := by
  rw [close]
  split
  · exact quiet_nil s
  · exact quiet_singleton rfl rfl

theorem usage_endMessage (s : Fragments) (ending : Ending) (u : Option Usage) :
    (s.endMessage ending u).2.usage = ChatRelay.Usage.merge? s.usage (u.map Usage.lift) ∧
      ∀ c ∈ (s.endMessage ending u).1, c.usage = (s.endMessage ending u).2.usage := by
  rw [endMessage]
  dsimp only
  split
  · exact ⟨rfl, nofun⟩
  · exact ⟨rfl, fun c hc => by rw [List.mem_singleton.mp hc]; rfl⟩

variable {s : Fragments} {e : Event} {r : List Response × Fragments}

/-- what a step learns and reports -/
theorem usage_step (h : s.step e = .ok r) : match e with
    | .messageStart m =>
      r.1 = [] ∧ r.2.usage = if 0 < m.usage.lift.total then some m.usage.lift else none
    | .messageDelta _ u =>
      r.2.usage = ChatRelay.Usage.merge? s.usage (u.map Usage.lift) ∧ ∀ c ∈ r.1, c.usage = r.2.usage
    | .blockStart .. | .blockDelta .. | .blockStop _ | .messageStop | .ping | .error _ =>
      Quiet s r := by
  cases e with
  | error d => exact nomatch h
  | messageStart m =>
    obtain rfl := Except.ok.inj h
    exact ⟨rfl, rfl⟩
  | messageDelta ending u =>
    obtain rfl := Except.ok.inj h
    exact usage_endMessage s ending u
  | blockStart i b =>
    obtain rfl := Except.ok.inj h
    exact quiet_startBlock s i b
  | blockDelta i d =>
    obtain rfl := Except.ok.inj h
    exact quiet_growBlock s i d
  | messageStop =>
    obtain rfl := Except.ok.inj h
    exact quiet_close s
  | blockStop _ | ping =>
    obtain rfl := Except.ok.inj h
    exact quiet_nil s

/-- a fragment reports what the state behind it knows, or nothing -/
theorem usage_of_mem_step (h : s.step e = .ok r) {c : Response} (hc : c ∈ r.1)
    {m : ChatRelay.Usage} (hm : c.usage = some m) : r.2.usage = some m := by
  have husage := usage_step h
  cases e with
  | messageStart _ =>
    rw [husage.1] at hc
    exact nomatch hc
  | messageDelta _ _ => rw [← husage.2 c hc, hm]
  | blockStart _ _ | blockDelta _ _ | blockStop _ | messageStop | ping | error _ =>
    exact nomatch (husage.2 c hc).symm.trans hm

/-- a message that starts with nothing but zeros has reported nothing -/
theorem known_start {u : Usage} (hu : u.promptCount ≤ 4294967295) :
    Known [u] ((if 0 < u.lift.total then some u.lift else none).getD {}) := by
  split
  · exact Known.singleton hu
  · next h =>
    have hzero : u.promptCount = 0 := by
      rw [UInt32.lt_iff_toNat_lt, toNat_total_lift, toNat_prompt_lift, UInt32.toNat_zero] at h
      omega
    have hcache : u.cacheCount = 0 := by
      rw [Usage.promptCount] at hzero
      omega
    refine ⟨?_, ?_, by decide⟩
    · rw [List.map_singleton, hzero]
      rfl
    · rw [List.map_singleton, hcache]
      rfl

/-- one event more that is no fault; where it starts a message, what came before need not fit -/
theorem known_step {us : List Usage} (h : Fitting us → Known us (s.usage.getD {}))
    (hfits : Fitting (e.reportsOn us)) (hstep : s.step e = .ok r) :
    Known (e.reportsOn us) (r.2.usage.getD {}) := by
  have husage := usage_step hstep
  cases e with
  | messageStart m =>
    rw [husage.2]
    exact known_start (hfits m.usage List.mem_cons_self)
  | messageDelta ending u =>
    have hknown := h fun x hx => hfits x (List.mem_append_left _ hx)
    rw [husage.1]
    cases u with
    | none =>
      rwa [Event.reportsOn, Option.toList_none, List.append_nil, Option.map_none,
        ChatRelay.Usage.merge?_none_right]
    | some u => exact hknown.merge? (hfits u (List.mem_append_right us List.mem_cons_self))
  | blockStart _ _ | blockDelta _ _ | blockStop _ | messageStop | ping | error _ =>
    rw [husage.1]
    exact h hfits

theorem reportsOn_of_step_error {f : Fault} (h : s.step e = .error f) (us : List Usage) :
    e.reportsOn us = us := by
  cases e with
  | error d => rfl
  | messageStart _ | blockStart _ _ | blockDelta _ _ | blockStop _ | messageDelta _ _
  | messageStop | ping => exact nomatch h

theorem known_behind (now : UInt64) {es : List Event} (h : Fitting (reportsSinceStart es)) :
    Known (reportsSinceStart es) (((start now).behind es).usage.getD {}) := by
  induction es using List.reverseRecOn with
  | nil => exact Known.nil
  | append_singleton es e ih =>
    rw [reportsSinceStart_snoc] at h ⊢
    rw [behind_snoc]
    cases hstep : ((start now).behind es).step e with
    | ok r => exact known_step ih h hstep
    | error f =>
      rw [reportsOn_of_step_error hstep] at h ⊢
      exact ih h

end Fragments

/-! ## what is reported -/

/-- **The cache's share.**  Usage of a message whose sum is not cut is consistent.  Two consistent
reports come to a consistent one unless the first has a prompt without details and the second a
greater cache.  Put into a message, a report keeps all its tokens exactly where it is consistent.
The usage that is collected from events is consistent exactly where the first cache that they report
is no more than the first prompt, and so is the usage of every fragment that an event becomes, for
the reports since the message started. -/
theorem consistent_reports_iff (u : Usage) (a b v : ChatRelay.Usage) (now : UInt64)
    (es past : List Event) (e : Event) :
    (u.promptCount ≤ 4294967295 → u.lift.Consistent) ∧
    (a.Consistent → b.Consistent → ((a.merge b).Consistent ↔
      a.prompt = 0 ∨ a.promptDetails ≠ none ∨ b.cacheCount ≤ a.prompt.toNat)) ∧
    ((lowerUsage v).promptCount = v.prompt.toNat ↔ v.Consistent) ∧
    (∀ (p : Response) (m : ChatRelay.Usage),
      Fitting (reports es) → (gathered es).finish now = .ok p → p.usage = some m →
      (m.Consistent ↔ Covered (reports es))) ∧
    (∀ (r : List Response × Fragments) (c : Response) (m : ChatRelay.Usage),
      Fitting (reportsSinceStart (past ++ [e])) →
      ((Fragments.start now).behind past).step e = .ok r → c ∈ r.1 → c.usage = some m →
      (m.Consistent ↔ Covered (reportsSinceStart (past ++ [e])))) := by
  refine ⟨fun hu => ?_, ChatRelay.Usage.consistent_merge_iff, promptCount_lowerUsage_iff v,
    fun p m hfits hp hm => ?_, fun r c m hfits hstep hc hm => ?_⟩
  · rw [ChatRelay.Usage.Consistent, cacheCount_lift, toNat_prompt_lift, Nat.min_eq_left hu]
    exact Nat.le_add_left _ _
  · have hknown := known_gathered hfits
    rw [← usage_of_finish hp, hm] at hknown
    exact hknown.consistent_iff
  · have hknown := Fragments.known_behind now hfits
    rw [Fragments.behind_snoc, hstep] at hknown
    dsimp only at hknown
    rw [Fragments.usage_of_mem_step hstep hc hm] at hknown
    exact hknown.consistent_iff

/-- a message that tells of its cache at once, and of a greater one when there are no words left -/
theorem consistent_reports_iff_early :
    let start : Usage := { input := 10, cacheRead := some 5 }
    let later : Usage := { output := 7, cacheWritten := some 4294967295 }
    let ending : Event := .messageDelta {} (some later)
    let merged := start.lift.merge later.lift
    Fitting [start, later] ∧ merged.Consistent ∧
    (lowerUsage merged).promptCount = merged.prompt.toNat ∧
    (((gathered [.messageStart { id := "m", usage := start }, ending]).finish 0).toOption.bind
      (·.usage) = some merged ∧ (merged.Consistent ↔ Covered [start, later])) ∧
    ¬ Covered [{ input := 10 }, later] := by
  intro start later ending merged
  let first : Event := .messageStart { id := "m", usage := start }
  obtain ⟨hlift, hmerge, hkept, hcollected, hfragment⟩ :=
    consistent_reports_iff start start.lift later.lift merged 0 [first, ending] [first] ending
  have hmerged : merged.Consistent :=
    (hmerge (hlift (by decide)) (by decide)).mpr (.inr (.inl (by decide)))
  have hreported : merged.Consistent :=
    (hfragment _ _ _ (by decide) rfl List.mem_cons_self rfl).mpr (by decide)
  exact ⟨by decide, hreported, hkept.mpr hmerged,
    ⟨by decide, hcollected _ merged (by decide) rfl rfl⟩, by decide⟩

/-- a message whose cache is told late: the prompt of the first report stands, the cache of the second
is said to be part of it, and the message that is made of this says ninety tokens too many -/
theorem late_cache_exceeds_prompt :
    let start : Usage := { input := 10, output := 1 }
    let later : Usage := { input := 10, output := 40, cacheRead := some 100 }
    let es : List Event := [
      .messageStart { id := "m", usage := start },
      .messageDelta { stopReason := some "end_turn" } (some later)]
    let merged := start.lift.merge later.lift
    Fitting [start, later] ∧ start.lift.Consistent ∧ later.lift.Consistent ∧
    ¬ merged.Consistent ∧ merged.prompt = 10 ∧ merged.cached = 100 ∧
    (lowerUsage merged).input = 0 ∧ (lowerUsage merged).promptCount = 100 ∧
    ((gathered es).finish 0).toOption.bind (·.usage) = some merged ∧
    (((Fragments.start 0).run es).toOption.map fun r => r.1.map (·.usage)) = some [some merged] := by
  decide

end Anthropic
end ChatRelay
