import ChatRelay.Proofs.Anthropic.Answered

/-!
# Counts of tokens, there and back

A message counts the tokens of its cache beside its input; the shared form counts them as part of the
prompt.  Sums are cut at the greatest count and differences at zero, so the way there and back keeps
all counts only where nothing is cut, or where what is cut is nothing.

* `toNat_prompt_lift`       the prompt of a message's usage;
* `toNat_input_lowerUsage`  the input that is left of a prompt;
* `counts_kept_iff`         the counts that come back.
-/

namespace ChatRelay

/-- the counts of a report: prompt, completion, and what of the prompt was read from and written to
the cache -/
def Usage.counts (u : Usage) : TokenCount × TokenCount × TokenCount × TokenCount :=
  (u.prompt, u.completion, u.cached, u.written)

/-- the tokens of the cache -/
def Usage.cacheCount (u : Usage) : Nat := u.cached.toNat + u.written.toNat

/-- a report whose tokens of the cache are part of its prompt -/
def Usage.Consistent (u : Usage) : Prop := u.cacheCount ≤ u.prompt.toNat

instance (u : Usage) : Decidable u.Consistent :=
  inferInstanceAs (Decidable (u.cacheCount ≤ u.prompt.toNat))

namespace Anthropic

/-- the counts of a message, a count of the cache that is missing being zero -/
def Usage.counts (u : Usage) : TokenCount × TokenCount × TokenCount × TokenCount :=
  (u.input, u.output, u.cacheRead.getD 0, u.cacheWritten.getD 0)

/-- the tokens of the cache -/
def Usage.cacheCount (u : Usage) : Nat := (u.cacheRead.getD 0).toNat + (u.cacheWritten.getD 0).toNat

/-- the input and the tokens of the cache -/
def Usage.promptCount (u : Usage) : Nat := u.input.toNat + u.cacheCount

theorem toNat_prompt_lift (u : Usage) : u.lift.prompt.toNat = min u.promptCount 4294967295 := by
  show (TokenCount.plus (u.input.plus (u.cacheRead.getD 0)) (u.cacheWritten.getD 0)).toNat = _
  rw [TokenCount.toNat_plus, TokenCount.toNat_plus, Usage.promptCount, Usage.cacheCount]
  omega

theorem toNat_total_lift (u : Usage) :
    u.lift.total.toNat = min (u.lift.prompt.toNat + u.output.toNat) 4294967295 :=
  TokenCount.toNat_plus u.lift.prompt u.output

theorem toNat_input_lowerUsage (v : ChatRelay.Usage) :
    (lowerUsage v).input.toNat = v.prompt.toNat - v.cacheCount := by
  show (TokenCount.minus (v.prompt.minus v.cached) v.written).toNat = _
  rw [TokenCount.toNat_minus, TokenCount.toNat_minus, Nat.sub_sub]
  rfl

theorem cacheRead_lowerUsage (v : ChatRelay.Usage) : (lowerUsage v).cacheRead.getD 0 = v.cached :=
  getD_positive v.cached

theorem cacheWritten_lowerUsage (v : ChatRelay.Usage) :
    (lowerUsage v).cacheWritten.getD 0 = v.written :=
  getD_positive v.written

theorem cacheCount_lowerUsage (v : ChatRelay.Usage) :
    (lowerUsage v).cacheCount = v.cacheCount := by
  rw [Usage.cacheCount, cacheRead_lowerUsage, cacheWritten_lowerUsage]
  rfl

theorem cacheCount_lift (u : Usage) : u.lift.cacheCount = u.cacheCount := by
  rw [ChatRelay.Usage.cacheCount, cached_lift, written_lift]
  rfl

/-- the input comes back where the sum is not cut, and where there is none -/
theorem input_lowerUsage_lift_iff (u : Usage) :
    (lowerUsage u.lift).input = u.input ↔ u.promptCount ≤ 4294967295 ∨ u.input = 0 := by
  rw [← UInt32.toNat_inj, ← UInt32.toNat_inj, toNat_input_lowerUsage, toNat_prompt_lift,
    cacheCount_lift, UInt32.toNat_zero, Usage.promptCount]
  omega

/-- the prompt comes back where the cache is part of it, and where it is the greatest count -/
theorem prompt_lift_lowerUsage_iff (v : ChatRelay.Usage) :
    (lowerUsage v).lift.prompt = v.prompt ↔ v.Consistent ∨ v.prompt = TokenCount.top := by
  have hlt := v.prompt.toNat_lt
  rw [← UInt32.toNat_inj, ← UInt32.toNat_inj, toNat_prompt_lift, Usage.promptCount,
    toNat_input_lowerUsage, cacheCount_lowerUsage, TokenCount.toNat_top,
    ChatRelay.Usage.Consistent]
  omega

/-- no token is lost where the cache is part of the prompt, and only there -/
theorem promptCount_lowerUsage_iff (v : ChatRelay.Usage) :
    (lowerUsage v).promptCount = v.prompt.toNat ↔ v.Consistent := by
  rw [Usage.promptCount, toNat_input_lowerUsage, cacheCount_lowerUsage, ChatRelay.Usage.Consistent]
  omega

/-- of a message only the input may change -/
theorem counts_lowerUsage_lift (u : Usage) : (lowerUsage u.lift).counts
    = ((lowerUsage u.lift).input, u.output, u.cacheRead.getD 0, u.cacheWritten.getD 0) := by
  rw [Usage.counts, cacheRead_lowerUsage, cacheWritten_lowerUsage, cached_lift, written_lift]
  rfl

/-- of the shared form only the prompt may change -/
theorem counts_lift_lowered (v : ChatRelay.Usage) : (lowerUsage v).lift.counts
    = ((lowerUsage v).lift.prompt, v.completion, v.cached, v.written) := by
  rw [ChatRelay.Usage.counts, cached_lift, written_lift, cacheRead_lowerUsage,
    cacheWritten_lowerUsage]
  rfl

/-- **Counts that come back.**  The usage of a message comes back from the shared form, count by
count, where its input and the tokens of its cache fit in a count together, and beyond that only
where it has no input.  In the shared form that sum is its prompt and, with the output, its total,
both cut at the greatest count.  Shared usage comes back from a message, count by count, where the
tokens of the cache are no more than the prompt, and beyond that only where the prompt is the
greatest count. -/
theorem counts_kept_iff (u : Usage) (v : ChatRelay.Usage) :
    ((lowerUsage u.lift).counts = u.counts ↔ u.promptCount ≤ 4294967295 ∨ u.input = 0) ∧
    u.lift.prompt.toNat = min u.promptCount 4294967295 ∧
    u.lift.total.toNat = min (u.lift.prompt.toNat + u.output.toNat) 4294967295 ∧
    ((lowerUsage v).lift.counts = v.counts ↔ v.Consistent ∨ v.prompt = TokenCount.top) := by
  refine ⟨?_, toNat_prompt_lift u, toNat_total_lift u, ?_⟩
  · rw [counts_lowerUsage_lift, Usage.counts, Prod.mk.injEq, and_iff_left rfl]
    exact input_lowerUsage_lift_iff u
  · rw [counts_lift_lowered, ChatRelay.Usage.counts, Prod.mk.injEq, and_iff_left rfl]
    exact prompt_lift_lowerUsage_iff v

/-- one token more than there are counts for, and it is the input that loses it -/
example :
    let u : Usage := { input := 2, output := 1, cacheRead := some 4294967293, cacheWritten := some 1 }
    (lowerUsage u.lift).counts = (1, 1, 4294967293, 1) := by
  decide

end Anthropic
end ChatRelay
