import ChatRelay.Proofs.Anthropic.BlockTurn
import ChatRelay.Proofs.Anthropic.Settled

/-!
# Answers that are written as messages and read again

Of an answer in the shared form the first choice is written: what was thought, then the text, then
the calls.  Whoever reads it collects the blocks in a turn, and the turn says what the message said.
The numbers of the calls become their places, and arguments come back in the one spelling of the
value they hold.

* `foldl_addBlock_assistantBlocks`   the turn that the blocks of a message make;
* `counts_lift_lowerUsage`           usage comes back count by count;
* `renderResponse_lifted`            the answer.
-/

namespace ChatRelay.Anthropic

/-! ## the blocks of a message -/

/-- a call as it comes back in place `i` -/
def answeredCall (i : Nat) (c : ToolCall) : ToolCall :=
  { index := UInt32.ofNat i, id := c.id, name := c.name, arguments := (inputOf c).render }

theorem foldl_addBlock_thinkingBlocks {m : ChatRelay.Message} (h : m.reasoning ≠ some "") :
    (thinkingBlocks m).foldl addBlock {}
      = { reasoning := m.reasoning, signature := m.signature } := by
  unfold thinkingBlocks
  cases hreasoning : m.reasoning with
  | none => cases hsignature : m.signature <;> rfl
  | some thought =>
    have hthought : thought ≠ "" := fun e => h (by rw [hreasoning, e])
    simp [hthought, addBlock, Turn.addReasoning, Turn.sign]

/-- calls are numbered on from those that the turn has -/
theorem foldl_addBlock_uses (cs : List ToolCall) (t : Turn) :
    (cs.map toolUseBlock).foldl addBlock t
      = { t with calls := t.calls ++ cs.mapIdx fun i => answeredCall (t.calls.length + i) } := by
  induction cs generalizing t with
  | nil => rw [List.mapIdx_nil, List.append_nil]; rfl
  | cons c cs ih =>
    have hnext : addBlock t (toolUseBlock c)
        = { t with calls := t.calls ++ [answeredCall t.calls.length c] } := rfl
    have hplace : (fun i => answeredCall (t.calls.length + (i + 1)))
        = fun i => answeredCall (t.calls.length + 1 + i) :=
      funext fun i => by rw [Nat.add_assoc, Nat.add_comm 1 i]
    rw [List.map_cons, List.foldl_cons, hnext, ih, List.mapIdx_cons, hplace]
    simp only [List.length_append, List.length_singleton, List.append_assoc,
      List.singleton_append, Nat.add_zero]

/-- the blocks of a message make the turn that says the same -/
theorem foldl_addBlock_assistantBlocks {m : ChatRelay.Message} (h : m.reasoning ≠ some "") :
    (assistantBlocks m).foldl addBlock {} = {
      text := m.plainText
      reasoning := m.reasoning
      signature := m.signature
      calls := m.calls.mapIdx answeredCall } := by
  have htext : ∀ t : Turn, t.text = "" →
      (if m.plainText = "" then [] else [Block.text m.plainText]).foldl addBlock t
        = { t with text := m.plainText } := by
    intro t ht
    split
    · next hempty => rw [hempty, ← ht]; rfl
    · show t.addText m.plainText = _
      rw [Turn.addText, ht, String.empty_append]
  rw [assistantBlocks, List.foldl_append, List.foldl_append, foldl_addBlock_thinkingBlocks h,
    htext _ rfl, foldl_addBlock_uses]
  simp only [List.length_nil, Nat.zero_add, List.nil_append]

/-! ## usage -/

/-- a report without details has none to tell: both counts are zero -/
theorem promptDetails_lift (u : Usage) :
    (u.lift.promptDetails = some {
      cached := u.cacheRead.getD 0
      written := if 0 < u.cacheWritten.getD 0 then some (u.cacheWritten.getD 0) else none }) ∨
    (u.lift.promptDetails = none ∧ u.cacheRead.getD 0 = 0 ∧ u.cacheWritten.getD 0 = 0) := by
  by_cases h : 0 < u.cacheRead.getD 0 ∨ 0 < u.cacheWritten.getD 0
  · exact .inl (if_pos h)
  · rw [not_or] at h
    have hzero : ∀ x : TokenCount, ¬ 0 < x → x = 0 := by
      intro x hx
      have hcount := getD_positive x
      rwa [if_neg hx, Option.getD_none, eq_comm] at hcount
    exact .inr ⟨if_neg (not_or.mpr h), hzero _ h.1, hzero _ h.2⟩

theorem cached_lift (u : Usage) : u.lift.cached = u.cacheRead.getD 0 := by
  rw [ChatRelay.Usage.cached]
  rcases promptDetails_lift u with h | ⟨h, hcached, -⟩
  · rw [h]
    rfl
  · rw [h, hcached]
    rfl

theorem written_lift (u : Usage) : u.lift.written = u.cacheWritten.getD 0 := by
  rw [ChatRelay.Usage.written]
  rcases promptDetails_lift u with h | ⟨h, -, hwritten⟩
  · rw [h]
    exact getD_positive _
  · rw [h, hwritten]
    rfl

/-- usage comes back count by count where the cached tokens are part of the prompt -/
theorem counts_lift_lowerUsage {u : ChatRelay.Usage}
    (h : u.cached.toNat + u.written.toNat ≤ u.prompt.toNat) :
    (lowerUsage u).lift.prompt = u.prompt ∧ (lowerUsage u).lift.completion = u.completion ∧
      (lowerUsage u).lift.cached = u.cached ∧ (lowerUsage u).lift.written = u.written := by
  obtain ⟨hprompt, hcompletion⟩ := lift_lowerUsage h
  refine ⟨hprompt, hcompletion, ?_, ?_⟩
  · rw [cached_lift]
    exact getD_positive _
  · rw [written_lift]
    exact getD_positive _

/-! ## the answer -/

/-- the message that comes back: no text only where there is none but a call -/
theorem message_assistantBlocks {m : ChatRelay.Message} (h : m.reasoning ≠ some "") :
    ((assistantBlocks m).foldl addBlock {}).message = {
      role := .assistant
      content := if m.plainText = "" ∧ m.calls ≠ [] then none else some (.text m.plainText)
      toolCalls := if m.calls = [] then none else some (m.calls.mapIdx answeredCall)
      reasoning := m.reasoning
      signature := m.signature } := by
  rw [foldl_addBlock_assistantBlocks h]
  cases m.calls with
  | nil => simp [Turn.message, Turn.calls?]
  | cons c cs =>
    by_cases htext : m.plainText = "" <;> simp [Turn.message, Turn.calls?, htext]

/-- **Written and read again.**  The answer that comes back has the message of the first choice:
its text, its reasoning with the signature, and its calls in their order, numbered by their places,
each with its arguments in the spelling of the value they hold, or the empty object where they hold
none.  Identifier, model and finish reason are those of the answer, and so are the counts of its
usage. -/
theorem renderResponse_lifted (a : Ambient) (now : UInt64) (p : Response) {c : ChatRelay.Choice}
    {m : ChatRelay.Message} {r : FinishReason} {u : ChatRelay.Usage}
    (hchoice : p.choices.head? = some c) (hmessage : c.message = some m)
    (hreasoning : m.reasoning ≠ some "") (hfinish : c.finish = some r)
    (hkept : ∀ w, r = .other w → finishOfStop w = .other w) (husage : p.usage = some u)
    (hfits : u.cached.toNat + u.written.toNat ≤ u.prompt.toNat) :
    ∃ v : ChatRelay.Usage,
      (renderResponse a p).lift now = {
        id := if p.id = "" then a.identifier "msg_" 0 else p.id
        object := "chat.completion"
        created := now
        model := p.model
        choices := [{
          message := some {
            role := .assistant
            content := if m.plainText = "" ∧ m.calls ≠ [] then none else some (.text m.plainText)
            toolCalls :=
              if m.calls = [] then none
              else some (m.calls.mapIdx fun i x => {
                index := UInt32.ofNat i
                id := x.id
                name := x.name
                arguments := ((Json.Value.parse? x.arguments).getD .empty).render })
            reasoning := m.reasoning
            signature := m.signature }
          finish := some r }]
        usage := some v } ∧
      v.prompt = u.prompt ∧ v.completion = u.completion ∧ v.cached = u.cached ∧
      v.written = u.written := by
  refine ⟨(lowerUsage u).lift, ?_, counts_lift_lowerUsage hfits⟩
  have hblocks : (renderResponse a p).content = assistantBlocks m := by
    show ((p.choices.head?.bind (·.message?)).map assistantBlocks).getD [] = _
    rw [hchoice, Option.bind_some, Choice.message?, hmessage]
    rfl
  have hstop : (renderResponse a p).stopReason = some (stopOfFinish r) := by
    simp only [renderResponse, hchoice, Option.bind_some, hfinish]
  have hcounts : (renderResponse a p).usage = lowerUsage u := by
    show (p.usage.map lowerUsage).getD {} = _
    rw [husage]
    rfl
  have hreason : finishOfStop (stopOfFinish r) = r :=
    BlockStream.finishOfStop_stopOfFinish_of_kept hkept
  rw [Answer.lift, hblocks, message_assistantBlocks hreasoning, hstop, hcounts, Option.map_some,
    hreason]
  rfl

/-- an answer that thinks, speaks and calls two tools, the second with arguments that are no JSON -/
def verdict : Response :=
  { id := "r"
    model := "m"
    choices := [{
      message := some {
        content := some (.text "both")
        reasoning := some "hm"
        signature := some "s"
        toolCalls := some [
          { index := 4, id := "t", name := "look", arguments := " [1, 2]" },
          { index := 4, id := "u", name := "wait", arguments := "[1" }] }
      finish := some (.other "paused") }]
    usage := some {
      prompt := 10
      completion := 4
      promptDetails := some { cached := 3, written := some 2 } } }

theorem renderResponse_lifted_verdict : ∃ v : ChatRelay.Usage,
    (renderResponse ⟨0, fun _ => ""⟩ verdict).lift 7 = {
      id := "r"
      object := "chat.completion"
      created := 7
      model := "m"
      choices := [{
        message := some {
          content := some (.text "both")
          reasoning := some "hm"
          signature := some "s"
          toolCalls := some [
            { index := 0, id := "t", name := "look", arguments := "[1,2]" },
            { index := 1, id := "u", name := "wait", arguments := "\x7b\x7d" }] }
        finish := some (.other "paused") }]
      usage := some v } ∧
    v.prompt = 10 ∧ v.completion = 4 ∧ v.cached = 3 ∧ v.written = 2 := by
  have hlook : ((Json.Value.parse? " [1, 2]").getD .empty).render = "[1,2]" := by decide +kernel
  have hwait : ((Json.Value.parse? "[1").getD .empty).render = "\x7b\x7d" := by decide +kernel
  obtain ⟨v, hlifted, hcounts⟩ := renderResponse_lifted ⟨0, fun _ => ""⟩ 7 verdict rfl rfl
    (by decide) rfl (fun w hw => FinishReason.other.inj hw ▸ by decide) rfl (by decide)
  refine ⟨v, hlifted.trans ?_, hcounts⟩
  rw [← hlook, ← hwait]
  rfl

end ChatRelay.Anthropic
