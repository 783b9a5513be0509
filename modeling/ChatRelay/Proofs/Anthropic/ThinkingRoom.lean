import ChatRelay.Proofs.Acceptance
import ChatRelay.Proofs.Anthropic.Passage
import ChatRelay.Proofs.Anthropic.SentTurns

/-!
# Room to think

A request with an effort is sent with the thinking budget of the effort, and with a bound on tokens
that leaves room for an answer behind the thoughts: the caller's bound where it exceeds the budget,
and the budget with the default on top where it does not.  Sums of counts are cut at the greatest
count, so there is room only because budgets stay below it.

* `lt_lowerTokenBound`   the bound exceeds the budget;
* `le_lowerTokenBound`   it is no less than the caller's;
* `exists_lift_lowerRequest`   what is sent is a request that is read, with the same effort;
* `thinking_of_effort`   what an effort, or none, makes of a request.
-/

namespace ChatRelay.Anthropic

/-! ## the bound -/

section

variable {bound budget : TokenCount}

theorem lt_lowerTokenBound (h : budget < TokenCount.top) :
    budget < lowerTokenBound bound (some budget) := by
  show budget < if bound ≤ budget then budget.plus defaultMaxTokens else bound
  split
  · have hdefault : defaultMaxTokens.toNat = 4096 := rfl
    rw [UInt32.lt_iff_toNat_lt, TokenCount.toNat_top] at h
    rw [UInt32.lt_iff_toNat_lt, TokenCount.toNat_plus]
    omega
  · next hle => exact UInt32.not_le.mp hle

theorem le_lowerTokenBound (h : budget < TokenCount.top) :
    bound ≤ lowerTokenBound bound (some budget) := by
  by_cases hle : bound ≤ budget
  · exact UInt32.le_of_lt (UInt32.lt_of_le_of_lt hle (lt_lowerTokenBound h))
  · rw [lowerTokenBound, if_neg hle]
    exact UInt32.le_refl bound

theorem lowerTokenBound_of_lt (h : budget < bound) :
    lowerTokenBound bound (some budget) = bound :=
  if_neg (UInt32.not_le.mpr h)

end

theorem budget_lt_top {b : Budgets} (hlow : b.low < b.medium) (hmedium : b.medium < b.high)
    (hhigh : b.high < TokenCount.top) (e : Effort) : b.budget e < TokenCount.top := by
  have hmiddle : b.medium < TokenCount.top := UInt32.lt_trans hmedium hhigh
  cases e with
  | low => exact UInt32.lt_trans hlow hmiddle
  | medium => exact hmiddle
  | high => exact hhigh

/-! ## reading what is sent -/

theorem role_mem_of_mem_lowerMessages {ms : List ChatRelay.Message} {t : Message}
    (ht : t ∈ lowerMessages ms) : t.role ∈ roleWords := by
  rw [lowerMessages_eq] at ht
  obtain ⟨g, -, rfl⟩ := List.mem_map.mp ht
  have hsent := sent_lower g
  cases g with
  | results ms =>
    rw [hsent.1]
    exact List.mem_cons_self
  | speech m =>
    rw [hsent.2.1]
    split
    · exact List.mem_cons_of_mem _ List.mem_cons_self
    · exact List.mem_cons_self

/-- whatever is sent is a request that is read; its effort is the one whose budget it has -/
theorem exists_lift_lowerRequest {b : Budgets} (hlow : b.low < b.medium)
    (hmedium : b.medium < b.high) (q : ChatRelay.Request) :
    ∃ v, (lowerRequest b q).lift b = .ok v ∧ v.effort = q.effort := by
  obtain ⟨v, hv⟩ := (Request.lift_ok_iff b (lowerRequest b q)).mpr fun t ht =>
    role_mem_of_mem_lowerMessages ht
  refine ⟨v, hv, ?_⟩
  obtain ⟨ms, -, hv⟩ := ok_of_bind hv
  rw [← Except.ok.inj hv]
  show ((q.effort.map b.budget).map Thinking.enabled).bind (Thinking.effort? b) = q.effort
  cases q.effort with
  | none => rfl
  | some e => exact congrArg some (effort_budget hlow hmedium e)

/-! ## requests -/

/-- a request that thinks within a budget and leaves room for an answer, sent for one with a
bound -/
structure Request.Thinks (w : Request) (budget : TokenCount) (bound : Option TokenCount) :
    Prop where
  thinking : w.thinking = some (.enabled budget)
  room : ∃ n, w.maxTokens = some n ∧ budget < n ∧
    ∀ m, bound = some m → m ≤ n ∧ (budget < m → n = m)
  temperature : w.temperature = none
  topK : w.topK = none

theorem thinks_lowerRequest {b : Budgets} {q : ChatRelay.Request} {e : Effort}
    (he : q.effort = some e) (hbudget : b.budget e < TokenCount.top) :
    (lowerRequest b q).Thinks (b.budget e) q.tokenBound := by
  have hmap : q.effort.map b.budget = some (b.budget e) := by rw [he, Option.map_some]
  have hthinking : (lowerRequest b q).thinking = some (.enabled (b.budget e)) := by
    show (q.effort.map b.budget).map Thinking.enabled = _
    rw [hmap, Option.map_some]
  have hmax : (lowerRequest b q).maxTokens
      = some (lowerTokenBound (q.tokenBound.getD defaultMaxTokens) (some (b.budget e))) := by
    show some (lowerTokenBound _ (q.effort.map b.budget)) = _
    rw [hmap]
  have hsome : (q.effort.map b.budget).isSome = true := by rw [hmap, Option.isSome_some]
  refine ⟨hthinking, ⟨_, hmax, lt_lowerTokenBound hbudget, fun m hm => ?_⟩, if_pos hsome,
    if_pos hsome⟩
  rw [hm, Option.getD_some]
  exact ⟨le_lowerTokenBound hbudget, lowerTokenBound_of_lt⟩

/-- **Thinking is asked for by an effort alone.**  A request thinks exactly where an effort is set,
within the budget of the effort and with room for an answer.  Read again with the same budgets it
has the same effort.  Without an effort its bound is the caller's, or the default. -/
theorem thinking_of_effort {b : Budgets} (hlow : b.low < b.medium) (hmedium : b.medium < b.high)
    (hhigh : b.high < TokenCount.top) (q : ChatRelay.Request) :
    ((∃ k, (lowerRequest b q).thinking = some (.enabled k)) ↔ ∃ e, q.effort = some e) ∧
    (∀ e, q.effort = some e → (lowerRequest b q).Thinks (b.budget e) q.tokenBound) ∧
    (∃ v, (lowerRequest b q).lift b = .ok v ∧ v.effort = q.effort) ∧
    (q.effort = none → (lowerRequest b q).maxTokens = some (q.tokenBound.getD 4096)) := by
  have hthinks : ∀ e, q.effort = some e →
      (lowerRequest b q).Thinks (b.budget e) q.tokenBound := fun e he =>
    thinks_lowerRequest he (budget_lt_top hlow hmedium hhigh e)
  refine ⟨⟨?_, ?_⟩, hthinks, exists_lift_lowerRequest hlow hmedium q, fun hnone => ?_⟩
  · rintro ⟨k, hk⟩
    obtain ⟨budget, hbudget, -⟩ := Option.map_eq_some_iff.mp hk
    obtain ⟨e, he, -⟩ := Option.map_eq_some_iff.mp hbudget
    exact ⟨e, he⟩
  · rintro ⟨e, he⟩
    exact ⟨b.budget e, (hthinks e he).thinking⟩
  · show some (lowerTokenBound _ (q.effort.map b.budget)) = _
    rw [hnone]
    rfl

/-- the highest budgets there are room for: the sum with the default is cut at the greatest count -/
theorem thinking_of_effort_brink :
    let b : Budgets := { low := 5000, medium := 4294967290, high := 4294967294 }
    let q : ChatRelay.Request := {
      effort := some .high
      params := { maxTokens := some 100, maxCompletionTokens := some 4294967294 } }
    (lowerRequest b q).Thinks 4294967294 (some 4294967294) ∧
    (lowerRequest b q).maxTokens = some TokenCount.top ∧
    ∃ v, (lowerRequest b q).lift b = .ok v ∧ v.effort = some .high := by
  intro b q
  obtain ⟨-, hthinks, hread, -⟩ :=
    thinking_of_effort (b := b) (by decide) (by decide) (by decide) q
  exact ⟨hthinks .high rfl, by decide, hread⟩

end ChatRelay.Anthropic
