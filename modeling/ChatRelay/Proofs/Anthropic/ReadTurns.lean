import ChatRelay.Proofs.Acceptance
import ChatRelay.Proofs.Anthropic.Seals

/-!
# The messages of a request that is read

A turn becomes a message for each of its results of tools and one for all the rest, if it is more
than such results.  The rest is gathered by kind: texts and images as parts, tool uses as numbered
calls, thoughts as one text, and of the seals the last.  A prompt that has a text leads.

* `Message.told`          the messages that a turn stands for;
* `saidBy_eq`             the message of the rest;
* `lift_eq_told`          the messages of a turn;
* `messages_of_request`   when a request is read, and the messages it is read as.
-/

namespace ChatRelay.Anthropic

/-! ## what a turn stands for -/

/-- the blocks of a speech, a text as one block -/
def Speech.toBlocks : Speech → List Block
  | .text s => [.text s]
  | .blocks bs => bs

/-- the content of a message with some parts; without any it is an empty text, or nothing beside
calls -/
def contentOf (parts : List Part) (calls : List ToolCall) : Option Content :=
  if parts ≠ [] then some (.ofParts parts)
  else if calls = [] then some (.text "") else none

/-- what some blocks say besides results of tools -/
def restOf (role : Role) (bs : List Block) : ChatRelay.Message where
  role := role
  content := contentOf (bs.filterMap Block.part?) (callsOf bs)
  toolCalls := if callsOf bs = [] then none else some (callsOf bs)
  reasoning := reasoningOf bs
  signature := sealOf bs

namespace Message

def speaker (t : Message) : Role := if t.role = "assistant" then .assistant else .user

/-- the messages that a turn stands for -/
def told (t : Message) : List ChatRelay.Message :=
  let bs := t.content.toBlocks
  bs.filterMap Block.toolMessage? ++ if onlyResults bs then [] else [restOf t.speaker bs]

end Message

/-! ## one turn -/

theorem saidBy_eq (role : Role) (bs : List Block) : saidBy role bs = restOf role bs := by
  unfold saidBy
  rw [foldl_addThought_eq]
  unfold restOf contentOf Turn.message Turn.calls?
  cases bs.filterMap Block.part? <;> cases callsOf bs <;> rfl

theorem lift_eq_told {t : Message} {ms : List ChatRelay.Message} (h : t.lift = .ok ms) :
    ms = t.told := by
  obtain ⟨role, hrole, h⟩ := ok_of_bind h
  have hspeaker : t.speaker = role := by
    unfold Message.speaker
    rcases liftRole_cases hrole with ⟨hword, rfl⟩ | ⟨hword, rfl⟩
    · rw [hword]
      rfl
    · rw [hword]
      rfl
  unfold Message.told
  rw [hspeaker]
  cases hcontent : t.content with
  | text s =>
    rw [hcontent] at h
    obtain rfl : [ChatRelay.Message.ofText role s] = ms := Except.ok.inj h
    rfl
  | blocks bs =>
    rw [hcontent] at h
    obtain rfl : liftBlocks role bs = ms := Except.ok.inj h
    show liftBlocks role bs = bs.filterMap Block.toolMessage?
      ++ if onlyResults bs then [] else [restOf role bs]
    rw [liftBlocks_eq, onlyResults_eq, saidBy_eq]
    cases onlyResults bs with
    | true => exact (List.append_nil _).symm
    | false => rfl

theorem liftMessages_eq_told {ts : List Message} {ms : List ChatRelay.Message}
    (h : liftMessages ts = .ok ms) : ms = ts.flatMap Message.told := by
  induction ts generalizing ms with
  | nil => exact (Except.ok.inj h).symm
  | cons t ts ih =>
    obtain ⟨xs, hxs, h⟩ := ok_of_bind h
    obtain ⟨ys, hys, h⟩ := ok_of_bind h
    rw [← Except.ok.inj h, List.flatMap_cons, lift_eq_told hxs, ih hys]

/-! ## a whole request -/

theorem systemMessages_eq (q : Request) :
    systemMessages q.system
      = if q.promptText = "" then [] else [ChatRelay.Message.ofText .system q.promptText] := by
  unfold systemMessages Request.promptText
  cases q.system.map System.plainText <;> rfl

/-- **The messages of a request.**  A request is read exactly where all its turns are a user's or an
assistant's.  Its messages are a prompt, if that has a text, and then turn by turn those of the
results of tools in their order, with one for the rest behind them unless there are only such
results. -/
theorem messages_of_request (b : Budgets) (q : Request) :
    ((∃ u, q.lift b = .ok u) ↔ ∀ t ∈ q.messages, t.role = "user" ∨ t.role = "assistant") ∧
    ∀ u, q.lift b = .ok u →
      u.messages
        = (if q.promptText = "" then [] else [ChatRelay.Message.ofText .system q.promptText])
          ++ q.messages.flatMap Message.told := by
  refine ⟨?_, fun u hu => ?_⟩
  · rw [Request.lift_ok_iff]
    simp only [roleWords, List.mem_cons, List.not_mem_nil, or_false]
  · obtain ⟨ms, hms, hu⟩ := ok_of_bind hu
    rw [← Except.ok.inj hu, ← systemMessages_eq, ← liftMessages_eq_told hms]

/-- results of tools among other blocks, thoughts and tool uses that alternate, a turn of nothing but
a result, and one that says nothing -/
def crowded : Request :=
  { system := some (.blocks ["Be", "brief."])
    messages := [
      ⟨"user", .blocks [
        .text "a",
        .toolResult "t" (.blocks [.text "x", .image (.url "u"), .text "y"]) (some true),
        .text "b",
        .toolResult "u" .missing none]⟩,
      ⟨"assistant", .blocks [
        .thinking "c" (some "s"),
        .toolUse "v" "f" .empty,
        .redacted "r",
        .thinking "d" none,
        .toolUse "w" "g" .null]⟩,
      ⟨"user", .blocks [.toolResult "v" (.text "z") none]⟩,
      ⟨"user", .blocks []⟩] }

theorem messages_of_request_crowded : ∃ u, crowded.lift {} = .ok u ∧ u.messages = [
    .ofText .system "Be\nbrief.",
    { role := .tool, content := some (.text "xy"), toolCallId := some "t", toolFailed := some true },
    { role := .tool, content := some (.text ""), toolCallId := some "u" },
    { role := .user, content := some (.parts [.text "a", .text "b"]) },
    { role := .assistant
      toolCalls := some [
        { index := 0, id := "v", name := "f", arguments := "\x7b\x7d" },
        { index := 1, id := "w", name := "g", arguments := "null" }]
      reasoning := some "cd"
      signature := some "r" },
    { role := .tool, content := some (.text "z"), toolCallId := some "v" },
    .ofText .user ""] := by
  obtain ⟨haccepts, hmessages⟩ := messages_of_request {} crowded
  obtain ⟨u, hu⟩ := haccepts.mpr (by decide)
  refine ⟨u, hu, ?_⟩
  rw [hmessages u hu]
  decide +kernel

end ChatRelay.Anthropic
