import ChatRelay.Proofs.Anthropic.Seals

/-!
# The turns of a request that is sent

The system's messages make the prompt.  The others make turns in their order: results of tools that
only messages of the system stand between share a turn, and every other message has a turn of its
own.  The turns are made by looking at the last one; since the turn of a message never looks like a
turn of results, that comes to the same.

* `Grouped.unique`        a conversation falls into groups in one way;
* `sent_lower`            what the turn of a group holds;
* `toolResults_lower`     its results of tools are those of its messages;
* `turns_of_messages`     the turns and the prompt of a request.
-/

namespace ChatRelay.Anthropic

/-- the groups of a conversation: all its messages but the system's, in order, where no two groups of
results stand side by side -/
structure Grouped (ms : List ChatRelay.Message) (gs : List Group) : Prop where
  messages : gs.flatMap Group.messages = ms.filter (·.role ≠ .system)
  apart : Apart gs

/-- a turn that holds what a group says -/
def Group.Sent : Group → Message → Prop
  | .results ms, t => t.role = "user" ∧ t.content = .blocks (ms.map fun m =>
      .toolResult (m.toolCallId.getD "") (.text m.plainText) m.toolFailed)
  | .speech m, t => t = lowerMessage m ∧
      t.role = (if m.role = .assistant then "assistant" else "user") ∧
      ∀ b ∈ t.blocks, b.isToolResult = false

/-- the results of tools in a turn -/
def Message.toolResults (t : Message) : List Block := t.blocks.filter Block.isToolResult

theorem grouped_groupTurns (ms : List ChatRelay.Message) :
    Grouped ms (groupTurns (ms.filter (·.role ≠ .system))) :=
  ⟨flatMap_messages_groupTurns _, apart_groupTurns _⟩

theorem Grouped.unique {ms : List ChatRelay.Message} {gs hs : List Group} (hg : Grouped ms gs)
    (hh : Grouped ms hs) : gs = hs := by
  rw [← groupTurns_messages hg.apart, ← groupTurns_messages hh.apart, hg.messages, hh.messages]

theorem Apart.sound {gs : List Group} (h : Apart gs) : ∀ g ∈ gs, g.Sound := by
  induction gs with
  | nil => exact List.forall_mem_nil _
  | cons g gs ih =>
    obtain ⟨hg, -, hgs⟩ := h
    exact List.forall_mem_cons.mpr ⟨hg, ih hgs⟩

/-! ## the turn of a group -/

theorem blocks_lowerMessage (m : ChatRelay.Message) :
    ∀ b ∈ (lowerMessage m).blocks, b.isToolResult = false := by
  obtain ⟨bs, hbs, hlower⟩ := lowerMessage_eq m
  rw [hlower]
  intro b hb
  have hmem : b ∈ bs := by
    rcases speechOfBlocks_cases bs with rfl | ⟨s, rfl⟩ | hblocks
    · exact hb
    · exact absurd hb List.not_mem_nil
    · rwa [Message.blocks, hblocks] at hb
  rw [isToolResult_eq, List.filterMap_eq_nil_iff.mp hbs b hmem]
  rfl

theorem sent_lower (g : Group) : g.Sent g.lower := by
  cases g with
  | results ms => exact ⟨rfl, rfl⟩
  | speech m =>
    refine ⟨rfl, ?_, blocks_lowerMessage m⟩
    obtain ⟨bs, -, hlower⟩ := lowerMessage_eq m
    exact congrArg Message.role hlower

theorem toolResults_lower {g : Group} (hg : g.Sound) :
    g.lower.toolResults = (g.messages.filter (·.role = .tool)).map resultBlock := by
  cases g with
  | results ms =>
    have hall : ms.filter (·.role = .tool) = ms :=
      List.filter_eq_self.mpr fun m hm => decide_eq_true (hg.2 m hm)
    show (ms.map resultBlock).filter Block.isToolResult = (ms.filter _).map resultBlock
    rw [hall]
    refine List.filter_eq_self.mpr fun b hb => ?_
    obtain ⟨m, -, rfl⟩ := List.mem_map.mp hb
    rfl
  | speech m =>
    have hm : ¬ m.role = .tool := hg
    have hnone : (lowerMessage m).toolResults = [] :=
      List.filter_eq_nil_iff.mpr fun b hb => by simp [blocks_lowerMessage m b hb]
    show (lowerMessage m).toolResults = _
    rw [hnone, Group.messages, List.filter_singleton, decide_eq_false hm]
    rfl

/-! ## a whole request -/

theorem toolResults_groupTurns (ms : List ChatRelay.Message) :
    ((groupTurns ms).map Group.lower).flatMap Message.toolResults
      = (ms.filter (·.role = .tool)).map resultBlock := by
  have hsound := (apart_groupTurns ms).sound
  calc ((groupTurns ms).map Group.lower).flatMap Message.toolResults
      = (groupTurns ms).flatMap fun g => (g.messages.filter (·.role = .tool)).map resultBlock := by
        rw [List.flatMap_map]
        exact List.flatMap_congr fun g hg => toolResults_lower (hsound g hg)
    _ = (((groupTurns ms).flatMap Group.messages).filter (·.role = .tool)).map resultBlock := by
        rw [List.filter_flatMap, List.map_flatMap]
    _ = (ms.filter (·.role = .tool)).map resultBlock := by rw [flatMap_messages_groupTurns]

/-- **The turns of a request.**  The messages of a conversation fall into groups in one way, and the
turns that are sent are those of the groups, one by one.  The results of tools in them are those of
the tools' messages, each once and in order.  The prompt is there exactly where the system speaks,
and is its texts on lines of their own. -/
theorem turns_of_messages (b : Budgets) (q : ChatRelay.Request) :
    (∃ gs, Grouped q.messages gs ∧ (∀ hs, Grouped q.messages hs → hs = gs) ∧
      List.Forall₂ Group.Sent gs (lowerRequest b q).messages) ∧
    (lowerRequest b q).messages.flatMap Message.toolResults
      = (q.messages.filter (·.role = .tool)).map resultBlock ∧
    (lowerRequest b q).system =
      if ∃ m ∈ q.messages, m.role = .system then
        some (.text (Text.join "\n"
          ((q.messages.filter (·.role = .system)).map ChatRelay.Message.plainText)))
      else none := by
  have hturns : (lowerRequest b q).messages
      = (groupTurns (q.messages.filter (·.role ≠ .system))).map Group.lower := lowerMessages_eq _
  refine ⟨⟨_, grouped_groupTurns _, fun hs h => h.unique (grouped_groupTurns _), ?_⟩, ?_, ?_⟩
  · rw [hturns, List.forall₂_map_right_iff, List.forall₂_same]
    exact fun g _ => sent_lower g
  · have htools : (q.messages.filter (·.role ≠ .system)).filter (·.role = .tool)
        = q.messages.filter (·.role = .tool) := by
      rw [List.filter_filter]
      refine List.filter_congr fun m _ => ?_
      cases m.role <;> rfl
    rw [hturns, toolResults_groupTurns, htools]
  · show (if (systemTexts q.messages).isEmpty then none
      else some (System.text (Text.join "\n" (systemTexts q.messages)))) = _
    have hempty : (systemTexts q.messages).isEmpty = true ↔
        ¬ ∃ m ∈ q.messages, m.role = .system := by
      rw [systemTexts, List.isEmpty_iff, List.map_eq_nil_iff, List.filter_eq_nil_iff]
      simp only [decide_eq_true_eq, not_exists, not_and]
    by_cases hsystem : ∃ m ∈ q.messages, m.role = .system
    · rw [if_pos hsystem, if_neg (fun h => hempty.mp h hsystem)]
      rfl
    · rw [if_neg hsystem, if_pos (hempty.mpr hsystem)]

example : (lowerRequest {} { messages := [
    { role := .tool, toolCallId := some "s" }, .ofText .system "a",
    { role := .tool, toolCallId := some "t" }, .ofText .user "b",
    { role := .tool, toolCallId := some "u" }] }).messages.map (·.toolResults.length)
      = [2, 0, 1] := by decide

end ChatRelay.Anthropic
