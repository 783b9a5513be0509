import ChatRelay.Proofs.OpenAi.Reread

/-!
# Answers that are written as chat completions and read again

Every choice of an answer is written, with its message or else its fragment, and the two vendors
differ in the field of the reasoning alone.  The reader takes either field, so that what was written
for one vendor can be read by both.  A message comes back as an assistant's: its text as plain text,
its calls numbered by their places, its reasoning unless that is empty.

* `FinishReason.ofWord_word`      which finish reasons come back;
* `lift_renderMessage`            a message;
* `liftChoices_renderChoice`      the choices in their order;
* `lift_renderResponse_choices`   the answer.
-/

namespace ChatRelay

/-- a reason comes back from its word, unless it is another's word -/
theorem FinishReason.ofWord_word {r : FinishReason}
    (h : ∀ w, r = .other w → ofWord w = .other w) : ofWord r.word = r := by
  cases r with
  | other w => exact h w rfl
  | _ => rfl

theorem FinishReason.map_ofWord_word {r : Option FinishReason}
    (h : ∀ w, r = some (.other w) → ofWord w = .other w) : (r.map word).map ofWord = r := by
  cases r with
  | none => rfl
  | some r => exact congrArg some (ofWord_word fun w hw => h w (congrArg some hw))

/-- a message as an answer brings it back: its text is left out only where there is none but a
call -/
def Message.answered (m : Message) : Message :=
  { role := .assistant
    content := if m.plainText = "" ∧ m.calls ≠ [] then none else some (.text m.plainText)
    toolCalls :=
      if m.calls = [] then none
      else some (m.calls.mapIdx fun i c => { c with index := UInt32.ofNat i })
    reasoning := if m.reasoning = some "" then none else m.reasoning }

/-- a choice as an answer brings it back; without message and fragment its message is empty -/
def Choice.answered (c : Choice) : Choice :=
  { index := c.index
    message := some ((c.message?.map Message.answered).getD {})
    finish := c.finish
    logprobs := c.logprobs }

namespace OpenAi

/-- whichever field carries the reasoning, it is read -/
theorem contentPart_or_plainPart (f : ReasoningField) (text : Option String) :
    (f.contentPart text).or (f.plainPart text) = text := by
  cases f
  · exact Option.or_none
  · rfl

theorem bind_nonEmpty (text : Option String) :
    text.bind nonEmpty = if text = some "" then none else text := by
  cases text with
  | none => rfl
  | some s =>
    rw [Option.bind_some, nonEmpty]
    simp only [Option.some.injEq]

theorem toolCalls_renderMessage (f : ReasoningField) (m : ChatRelay.Message) :
    (renderMessage f m).toolCalls
      = if m.calls = [] then none else some (m.calls.map lowerCall) := by
  show (m.toolCalls.bind nonEmptyList).map (·.map lowerCall) = _
  unfold ChatRelay.Message.calls
  cases m.toolCalls with
  | none => rfl
  | some cs => cases cs <;> rfl

theorem content_renderMessage (f : ReasoningField) (m : ChatRelay.Message) :
    (renderMessage f m).content
      = if m.plainText = "" ∧ m.calls ≠ [] then none else some (.text m.plainText) := by
  show (if m.plainText ≠ "" ∨ (renderMessage f m).toolCalls.isNone then _ else none) = _
  rw [toolCalls_renderMessage]
  by_cases hcalls : m.calls = [] <;> by_cases htext : m.plainText = "" <;> simp [hcalls, htext]

/-- what is written of a message is read as an assistant's -/
theorem lift_renderMessage (f : ReasoningField) (m : ChatRelay.Message) :
    (renderMessage f m).lift = .ok m.answered := by
  have hreasoning : (renderMessage f m).reasoningContent.or (renderMessage f m).reasoning
      = m.answered.reasoning :=
    (contentPart_or_plainPart f _).trans (bind_nonEmpty m.reasoning)
  have hcontent : ((renderMessage f m).content.map collapse).or
      ((renderMessage f m).refusal.map .text) = m.answered.content := by
    rw [content_renderMessage]
    show (Option.map collapse _).or none = ite _ _ _
    rw [Option.or_none]
    split <;> rfl
  have hcalls : (renderMessage f m).toolCalls.map liftCalls = m.answered.toolCalls := by
    rw [toolCalls_renderMessage]
    show _ = ite _ _ _
    split
    · rfl
    · rw [Option.map_some, liftCalls_lowerCall]
  rw [Message.lift, hreasoning, hcontent, hcalls]
  show liftRole Role.assistant.word >>= _ = _
  rw [liftRole_word]
  rfl

/-- a choice comes back if its finish reason does -/
theorem lift_renderChoice (f : ReasoningField) {c : ChatRelay.Choice}
    (h : ∀ w, c.finish = some (.other w) → FinishReason.ofWord w = .other w) :
    (renderChoice f c).lift = .ok c.answered := by
  have hmessage : (renderChoice f c).message.lift
      = .ok ((c.message?.map ChatRelay.Message.answered).getD {}) := by
    show ((c.message?.map (renderMessage f)).getD { role := "assistant" }).lift = _
    cases c.message? with
    | none => rfl
    | some m => exact lift_renderMessage f m
  -- a refusal is never written, so none stands in for missing content
  have hrefusal : (renderChoice f c).message.refusal = none := by
    show ((c.message?.map (renderMessage f)).getD { role := "assistant" }).refusal = none
    cases c.message? <;> rfl
  unfold Choice.lift
  simp only [hmessage, hrefusal, Option.isSome_none, Bool.and_false, Bool.false_and]
  show Except.ok (ChatRelay.Choice.mk c.index _ none
    ((c.finish.map FinishReason.word).map FinishReason.ofWord) c.logprobs) = _
  rw [FinishReason.map_ofWord_word h, ChatRelay.Choice.answered]
  cases c.message? <;> rfl

theorem liftChoices_renderChoice (f : ReasoningField) {cs : List ChatRelay.Choice}
    (h : ∀ c ∈ cs, ∀ w, c.finish = some (.other w) → FinishReason.ofWord w = .other w) :
    liftChoices (cs.map (renderChoice f)) = .ok (cs.map ChatRelay.Choice.answered) := by
  induction cs with
  | nil => rfl
  | cons c cs ih =>
    rw [List.map_cons, liftChoices, lift_renderChoice f (h c List.mem_cons_self),
      ih fun x hx => h x (List.mem_cons_of_mem c hx)]
    rfl

/-- a total that is missing is filled in -/
theorem liftUsage_eq (u : Usage) : liftUsage u =
    { u with total := if u.total = 0 then u.prompt.plus u.completion else u.total } := by
  unfold liftUsage
  by_cases h : u.total = 0
  · have hzero : ¬ 0 < u.total := by rw [h]; decide
    rw [if_neg hzero, if_pos h]
  · have hpos : 0 < u.total := UInt32.pos_iff_ne_zero.mpr h
    rw [if_pos hpos, if_neg h]

/-- **Written and read again.**  An answer with an identifier and a time that is written for either
vendor is read again, and every choice comes back in its place with its number, its finish reason
and its message, but a choice that has neither a message nor a fragment comes back with an empty
message.  Usage is what it was, its total filled in. -/
theorem lift_renderResponse_choices (a : Ambient) (f : ReasoningField) (p : Response)
    (hid : p.id ≠ "") (hcreated : 0 < p.created)
    (hfinish : ∀ c ∈ p.choices, ∀ w,
      c.finish = some (.other w) → FinishReason.ofWord w = .other w) :
    (renderResponse a f p).lift = .ok {
      id := p.id
      object := "chat.completion"
      created := p.created
      model := p.model
      choices := p.choices.map ChatRelay.Choice.answered
      usage := p.usage.map fun u =>
        { u with total := if u.total = 0 then u.prompt.plus u.completion else u.total }
      fingerprint := p.fingerprint
      serviceTier := p.serviceTier } := by
  have husage : p.usage.map liftUsage = p.usage.map fun u =>
      { u with total := if u.total = 0 then u.prompt.plus u.completion else u.total } :=
    Option.map_congr fun u _ => liftUsage_eq u
  rw [Completion.lift]
  show liftChoices (p.choices.map (renderChoice f)) >>= _ = _
  rw [liftChoices_renderChoice f hfinish, ← husage]
  show Except.ok (Response.mk (if p.id = "" then _ else p.id) _
    (if 0 < p.created then p.created else a.now) _ _ _ _ _ _) = _
  rw [if_neg hid, if_pos hcreated]
  rfl

/-- an answer with a choice that says nothing, one that only calls tools, and a fragment -/
def medley : Response :=
  { id := "r"
    created := 5
    choices := [
      { index := 2, finish := some .stop },
      { message := some {
          content := some (.text "")
          toolCalls := some [{ index := 7, id := "t", name := "look", arguments := "\x7b" }] }
        finish := some .toolCalls },
      { index := 1
        delta := some {
          role := .user
          content := some (.parts [.text "a", .image "u" none, .text "b"])
          toolCalls := some []
          reasoning := some "hm"
          signature := some "s" }
        finish := some (.other "paused") }]
    usage := some { prompt := 3, completion := 4 } }

theorem lift_renderResponse_choices_medley :
    (renderResponse ⟨0, fun _ => ""⟩ .reasoning medley).lift = .ok {
      id := "r"
      object := "chat.completion"
      created := 5
      choices := [
        { index := 2, message := some {}, finish := some .stop },
        { message := some {
            toolCalls := some [{ index := 0, id := "t", name := "look", arguments := "\x7b" }] }
          finish := some .toolCalls },
        { index := 1
          message := some { content := some (.text "ab"), reasoning := some "hm" }
          finish := some (.other "paused") }]
      usage := some { prompt := 3, completion := 4, total := 7 } } := by
  have hfinish : ∀ c ∈ medley.choices, ∀ w,
      c.finish = some (.other w) → FinishReason.ofWord w = .other w := by
    simp only [medley, List.mem_cons, List.not_mem_nil, or_false, forall_eq_or_imp, forall_eq]
    refine ⟨nofun, nofun, fun w hw => ?_⟩
    obtain rfl : "paused" = w := FinishReason.other.inj (Option.some.inj hw)
    decide
  exact lift_renderResponse_choices ⟨0, fun _ => ""⟩ .reasoning medley (by decide) (by decide)
    hfinish

/-- an answer with one choice, which has neither a message nor a fragment -/
def mute : Response :=
  { id := "r", created := 1, model := "m", choices := [{ finish := some .stop }] }

/-- A choice without a message has no text and no calls.  It comes back without content all the
same, as if tools had been called. -/
theorem mute_without_content : ∃ q,
    (renderResponse ⟨0, fun _ => ""⟩ .reasoningContent mute).lift = .ok q ∧
    ¬ ∀ x ∈ mute.choices.zip q.choices,
      (x.2.message.bind (·.content) = none ↔
        (x.1.message?.map ChatRelay.Message.plainText).getD "" = "" ∧
        (x.1.message?.map ChatRelay.Message.calls).getD [] ≠ []) := by
  decide

end OpenAi
end ChatRelay
