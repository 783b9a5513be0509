import ChatRelay.Proofs.Anthropic.Passage
import Mathlib.Data.List.Forall2

/-!
# Seals of thinking

A thinking block may bear a signature, and thinking that is withheld is sealed as data.  Both are
checked by the vendor when they come back.  The shared form of a turn has room for one seal: the last
that comes stays, whatever kind it is, and is sent again as a signature where the turn has a thought
and as withheld data where it has none.

* `Message.said_seals`        the thought and the seal that a turn keeps;
* `filter_liftMessages`       the assistant's messages are its turns that speak, in order;
* `filter_groupTurns`         and so are the turns that are sent again;
* `seals_genuine_iff`         when the seals that are sent belong to the turn they are sent with.
-/

namespace ChatRelay.Anthropic

/-! ## seals -/

namespace Block

def thought : Block → String
  | .thinking thought _ => thought
  | _ => ""

end Block

/-- blocks that are results of tools and nothing else -/
def onlyResults (bs : List Block) : Bool := !bs.isEmpty && bs.all fun b => b.toolMessage?.isSome

namespace Message

def blocks (t : Message) : List Block :=
  match t.content with
  | .text _ => []
  | .blocks bs => bs

/-- the signatures of the thinking blocks of a turn -/
def signatures (t : Message) : List String := t.blocks.filterMap Block.signature?

/-- the data of the withheld thinking of a turn -/
def withheld (t : Message) : List String := t.blocks.filterMap Block.withheld?

/-- the last seal of a turn -/
def lastSeal? (t : Message) : Option String := (t.blocks.filterMap Block.seal?).getLast?

/-- the thought of a turn, of all its blocks -/
def thought (t : Message) : String := concat (t.blocks.map Block.thought)

/-- a turn of an assistant that is more than results of tools -/
def speaks (t : Message) : Bool := t.role = "assistant" && !onlyResults t.blocks

/-- what an assistant's turn says beside results of tools -/
def said (t : Message) : ChatRelay.Message :=
  match t.content with
  | .text s => .ofText .assistant s
  | .blocks bs => saidBy .assistant bs

end Message

theorem concat_thoughts (bs : List Block) :
    concat (bs.filterMap Block.thought?) = concat (bs.map Block.thought) := by
  induction bs with
  | nil => rfl
  | cons b bs ih =>
    have hthought : b.thought = b.thought?.getD "" := by cases b <;> rfl
    rw [List.map_cons, concat_cons, ← ih, hthought]
    cases hb : b.thought? with
    | none =>
      rw [List.filterMap_cons_none hb]
      exact String.empty_append.symm
    | some s =>
      rw [List.filterMap_cons_some hb]
      rfl

theorem reasoningOf_getD (bs : List Block) :
    (reasoningOf bs).getD "" = concat (bs.map Block.thought) := by
  rw [← concat_thoughts, reasoningOf]
  split
  · next hnone =>
    rw [hnone]
    rfl
  · rfl

/-- the message of a turn has the turn's thought, and its last seal as its signature -/
theorem Message.said_seals (t : Message) :
    t.said.signature = t.lastSeal? ∧ t.said.reasoning.getD "" = t.thought := by
  unfold Message.said Message.lastSeal? Message.thought Message.blocks
  cases t.content with
  | text s => exact ⟨rfl, rfl⟩
  | blocks bs =>
    have hturn := foldl_addThought_eq bs
    exact ⟨congrArg Turn.signature hturn,
      (congrArg (·.reasoning.getD "") hturn).trans (reasoningOf_getD bs)⟩

/-! ## what is sent again -/

theorem thinkingBlocks_eq (m : ChatRelay.Message) :
    thinkingBlocks m =
      if m.reasoning.getD "" = "" then (m.signature.map Block.redacted).toList
      else [.thinking (m.reasoning.getD "") m.signature] := by
  unfold thinkingBlocks
  cases m.reasoning with
  | none => cases m.signature <;> rfl
  | some thought =>
    show (if thought ≠ "" then [Block.thinking thought m.signature]
      else (m.signature.map Block.redacted).toList) = _
    rw [Option.getD_some]
    by_cases hthought : thought = ""
    · rw [if_pos hthought, if_neg (not_not_intro hthought)]
    · rw [if_neg hthought, if_pos hthought]

section

variable {f : Block → Option String}

/-- a turn of blocks shows what its blocks show, where texts show nothing -/
theorem filterMap_blocks_speechOfBlocks (htext : ∀ s, f (.text s) = none) (word : String)
    (bs : List Block) :
    ({ role := word, content := speechOfBlocks bs } : Message).blocks.filterMap f
      = bs.filterMap f := by
  rcases speechOfBlocks_cases bs with rfl | ⟨s, rfl⟩ | hblocks
  · rfl
  · exact (List.filterMap_cons_none (htext s)).symm
  · rw [Message.blocks, hblocks]

theorem filterMap_assistantBlocks_thinking (htext : ∀ s, f (.text s) = none)
    (huse : ∀ id name input, f (.toolUse id name input) = none) (m : ChatRelay.Message) :
    (assistantBlocks m).filterMap f = (thinkingBlocks m).filterMap f := by
  have hplain : (if m.plainText = "" then [] else [Block.text m.plainText]).filterMap f = [] := by
    split
    · rfl
    · exact List.filterMap_cons_none (htext _)
  have huses : (m.calls.map toolUseBlock).filterMap f = [] := by
    rw [List.filterMap_map]
    exact List.filterMap_eq_nil_iff.mpr fun c _ => huse _ _ _
  rw [assistantBlocks, List.filterMap_append, List.filterMap_append, hplain, huses,
    List.append_nil, List.append_nil]

theorem filterMap_lowerMessage_assistant (htext : ∀ s, f (.text s) = none)
    (huse : ∀ id name input, f (.toolUse id name input) = none) {m : ChatRelay.Message}
    (hm : m.role = .assistant) :
    (lowerMessage m).blocks.filterMap f = (thinkingBlocks m).filterMap f := by
  rw [lowerMessage, if_pos hm, filterMap_blocks_speechOfBlocks htext,
    filterMap_assistantBlocks_thinking htext huse]

end

theorem Message.role_said (t : Message) : t.said.role = .assistant := by
  unfold said
  cases t.content <;> rfl

/-- the one seal that is sent again with a turn: a signature beside a thought, withheld data
without one -/
theorem seals_resent (t : Message) :
    (lowerMessage t.said).signatures = (if t.thought = "" then [] else t.lastSeal?.toList) ∧
      (lowerMessage t.said).withheld = if t.thought = "" then t.lastSeal?.toList else [] := by
  obtain ⟨hseal, hthought⟩ := t.said_seals
  have hrole := t.role_said
  rw [Message.signatures, Message.withheld,
    filterMap_lowerMessage_assistant (fun _ => rfl) (fun _ _ _ => rfl) hrole,
    filterMap_lowerMessage_assistant (fun _ => rfl) (fun _ _ _ => rfl) hrole,
    thinkingBlocks_eq, hseal, hthought]
  by_cases hempty : t.thought = ""
  · simp only [if_pos hempty]
    cases t.lastSeal? <;> exact ⟨rfl, rfl⟩
  · simp only [if_neg hempty]
    cases t.lastSeal? <;> exact ⟨rfl, rfl⟩

/-- every other turn that is sent bears no seals -/
theorem seals_of_user {g : Group} (h : g.lower.role ≠ "assistant") :
    g.lower.signatures = [] ∧ g.lower.withheld = [] := by
  cases g with
  | results ms =>
    rw [Message.signatures, Message.withheld]
    refine ⟨List.filterMap_eq_nil_iff.mpr fun b hb => ?_,
      List.filterMap_eq_nil_iff.mpr fun b hb => ?_⟩
    all_goals
      obtain ⟨m, -, rfl⟩ := List.mem_map.mp hb
      rfl
  | speech m =>
    have hm : m.role ≠ .assistant := by
      intro hrole
      refine h ?_
      show (lowerMessage m).role = "assistant"
      rw [lowerMessage, if_pos hrole]
    have hlower : (Group.speech m).lower = lowerMessage m := rfl
    rw [Message.signatures, Message.withheld, hlower, lowerMessage, if_neg hm,
      filterMap_blocks_speechOfBlocks (fun _ => rfl), filterMap_blocks_speechOfBlocks fun _ => rfl]
    refine ⟨List.filterMap_eq_nil_iff.mpr fun b hb => ?_,
      List.filterMap_eq_nil_iff.mpr fun b hb => ?_⟩
    all_goals
      obtain ⟨p, -, hp⟩ := List.mem_filterMap.mp hb
      have hpart := isPart_of_blockOfPart? hp
      cases b with
      | text _ | image _ => rfl
      | toolUse _ _ _ | toolResult _ _ _ | thinking _ _ | redacted _ => exact hpart.elim

/-! ## the assistant's turns -/

theorem isSome_toolMessage?_iff (b : Block) : b.toolMessage?.isSome = true ↔
    b.part? = none ∧ b.thought? = none ∧ b.seal? = none ∧ b.call? = none := by
  cases b with
  | toolResult id output failed => exact iff_of_true rfl ⟨rfl, rfl, rfl, rfl⟩
  | text s => exact iff_of_false Bool.false_ne_true fun h => nomatch h.1
  | image source => exact iff_of_false Bool.false_ne_true fun h => nomatch h.1
  | thinking thought sign => exact iff_of_false Bool.false_ne_true fun h => nomatch h.2.1
  | redacted data => exact iff_of_false Bool.false_ne_true fun h => nomatch h.2.2.1
  | toolUse id name input => exact iff_of_false Bool.false_ne_true fun h => nomatch h.2.2.2

/-- a turn says nothing besides results of tools where all its blocks are such results -/
theorem onlyResults_eq (bs : List Block) :
    ((bs.filterMap Block.part?).isEmpty && (bs.foldl addThought {}).isEmpty
        && !(bs.filterMap Block.toolMessage?).isEmpty) = onlyResults bs := by
  rw [Bool.eq_iff_iff, onlyResults]
  simp only [Bool.and_eq_true, Bool.not_eq_true', List.isEmpty_eq_false_iff, List.isEmpty_iff,
    List.all_eq_true, List.filterMap_eq_nil_iff, isEmpty_foldl_addThought_iff]
  constructor
  · rintro ⟨⟨hparts, hturn⟩, hresults⟩
    refine ⟨?_, fun b hb => (isSome_toolMessage?_iff b).mpr ⟨hparts b hb, hturn b hb⟩⟩
    rintro rfl
    exact hresults rfl
  · rintro ⟨hne, hall⟩
    have hkinds := fun b hb => (isSome_toolMessage?_iff b).mp (hall b hb)
    refine ⟨⟨fun b hb => (hkinds b hb).1, fun b hb => (hkinds b hb).2⟩, fun hnil => ?_⟩
    obtain ⟨b, hb⟩ := List.exists_mem_of_ne_nil bs hne
    have hsome := hall b hb
    rw [List.filterMap_eq_nil_iff.mp hnil b hb] at hsome
    exact nomatch hsome

theorem role_toolMessages {bs : List Block} :
    ∀ m ∈ bs.filterMap Block.toolMessage?, m.role = .tool := by
  intro m hm
  obtain ⟨b, -, hb⟩ := List.mem_filterMap.mp hm
  cases b with
  | toolResult id output failed =>
    obtain rfl := Option.some.inj hb
    rfl
  | _ => exact nomatch hb

theorem assistant_iff_of_liftRole {word : String} {role : Role} (h : liftRole word = .ok role) :
    word = "assistant" ↔ role = .assistant := by
  rcases liftRole_cases h with ⟨rfl, rfl⟩ | ⟨rfl, rfl⟩
  · exact iff_of_false (by decide) nofun
  · exact iff_of_true rfl rfl

theorem filter_toolMessages (bs : List Block) :
    (bs.filterMap Block.toolMessage?).filter (·.role = .assistant) = [] := by
  refine List.filter_eq_nil_iff.mpr fun m hm => ?_
  rw [role_toolMessages m hm]
  decide

theorem filter_liftBlocks (role : Role) (bs : List Block) :
    (liftBlocks role bs).filter (·.role = .assistant) =
      if role = .assistant ∧ onlyResults bs = false then [saidBy role bs] else [] := by
  rw [liftBlocks_eq, onlyResults_eq]
  cases onlyResults bs with
  | true =>
    rw [if_pos rfl, filter_toolMessages, if_neg fun h => nomatch h.2]
  | false =>
    have hsaid : (saidBy role bs).role = role := rfl
    rw [if_neg Bool.false_ne_true, List.filter_append, filter_toolMessages, List.nil_append,
      List.filter_cons, hsaid, List.filter_nil]
    simp only [decide_eq_true_eq, and_true]

theorem filter_lift {t : Message} {ms : List ChatRelay.Message} (h : t.lift = .ok ms) :
    ms.filter (·.role = .assistant) = if t.speaks then [t.said] else [] := by
  obtain ⟨role, hrole, h⟩ := ok_of_bind h
  have hassistant := assistant_iff_of_liftRole hrole
  unfold Message.speaks Message.said Message.blocks
  cases hcontent : t.content with
  | text s =>
    rw [hcontent] at h
    obtain rfl : [ChatRelay.Message.ofText role s] = ms := Except.ok.inj h
    by_cases hword : t.role = "assistant"
    · obtain rfl := hassistant.mp hword
      rw [hword]
      rfl
    · have hne : role ≠ .assistant := fun e => hword (hassistant.mpr e)
      simp [ChatRelay.Message.ofText, hne, hword]
  | blocks bs =>
    rw [hcontent] at h
    obtain rfl : liftBlocks role bs = ms := Except.ok.inj h
    rw [filter_liftBlocks]
    by_cases hword : t.role = "assistant"
    · obtain rfl := hassistant.mp hword
      cases onlyResults bs <;> simp [hword]
    · have hne : role ≠ .assistant := fun e => hword (hassistant.mpr e)
      simp [hne, hword]

/-- the assistant's messages are what its turns say that speak, in order -/
theorem filter_liftMessages {ts : List Message} {ms : List ChatRelay.Message}
    (h : liftMessages ts = .ok ms) :
    ms.filter (·.role = .assistant) = (ts.filter Message.speaks).map Message.said := by
  induction ts generalizing ms with
  | nil =>
    obtain rfl : [] = ms := Except.ok.inj h
    rfl
  | cons t ts ih =>
    obtain ⟨xs, hxs, h⟩ := ok_of_bind h
    obtain ⟨ys, hys, h⟩ := ok_of_bind h
    obtain rfl : xs ++ ys = ms := Except.ok.inj h
    rw [List.filter_append, filter_lift hxs, ih hys, List.filter_cons]
    cases t.speaks <;> rfl

/-- the assistant's turns that are sent are those of its messages, in order -/
theorem filter_groupTurns (ms : List ChatRelay.Message) :
    ((groupTurns ms).map Group.lower).filter (·.role = "assistant")
      = (ms.filter (·.role = .assistant)).map lowerMessage := by
  induction ms with
  | nil => rfl
  | cons m ms ih =>
    by_cases hm : m.role = .tool
    · have hskip : (m :: ms).filter (·.role = .assistant) = ms.filter (·.role = .assistant) := by
        rw [List.filter_cons, hm]
        rfl
      rw [hskip, ← ih]
      rcases groupTurns_cons_tool hm ms with ⟨rs, gs, hms, hcons⟩ | ⟨-, hcons⟩
      · rw [hms, hcons]
        rfl
      · rw [hcons]
        rfl
    · rw [groupTurns, if_neg hm, List.map_cons, List.filter_cons, ih, List.filter_cons]
      show (if decide ((lowerMessage m).role = "assistant") = true then _ else _) = _
      by_cases hrole : m.role = .assistant
      · have hword : (lowerMessage m).role = "assistant" := by rw [lowerMessage, if_pos hrole]
        rw [if_pos (decide_eq_true hword), if_pos (decide_eq_true hrole)]
        rfl
      · have hword : (lowerMessage m).role ≠ "assistant" := by
          rw [lowerMessage, if_neg hrole]
          show "user" ≠ "assistant"
          decide
        rw [if_neg (by rwa [decide_eq_true_eq]), if_neg (by rwa [decide_eq_true_eq])]

/-- the turns that are sent for a request that is read -/
theorem messages_lowerRequest {b : Budgets} {q : Request} {u : ChatRelay.Request}
    (hu : q.lift b = .ok u) (later : Budgets) :
    ∃ ms, liftMessages q.messages = .ok ms ∧
      (lowerRequest later u).messages = (groupTurns ms).map Group.lower := by
  obtain ⟨ms, hms, hu⟩ := ok_of_bind hu
  refine ⟨ms, hms, ?_⟩
  rw [← Except.ok.inj hu]
  show lowerMessages ((systemMessages q.system ++ ms).filter _) = _
  rw [filter_ne_system fun m hm => (spoken_liftMessages hms m hm).1, lowerMessages_eq]

/-! ## genuine seals -/

/-- the seals of a turn that is sent belonged to the turn it was made of, each as what it was -/
structure Genuine (t sent : Message) : Prop where
  signatures : ∀ s ∈ sent.signatures, s ∈ t.signatures
  withheld : ∀ data ∈ sent.withheld, data ∈ t.withheld

/-- the last seal of a turn is a signature where the turn has a thought, and data of withheld
thinking where it has none -/
structure Message.SealFits (t : Message) : Prop where
  signed : t.thought ≠ "" → ∀ s ∈ t.lastSeal?, s ∈ t.signatures
  withheld : t.thought = "" → ∀ data ∈ t.lastSeal?, data ∈ t.withheld

theorem genuine_iff (t : Message) : Genuine t (lowerMessage t.said) ↔ t.SealFits := by
  obtain ⟨hsigned, hwithheld⟩ := seals_resent t
  by_cases hempty : t.thought = ""
  · rw [if_pos hempty] at hsigned hwithheld
    constructor
    · intro h
      refine ⟨fun hne => absurd hempty hne, fun _ data hdata => h.withheld data ?_⟩
      rw [hwithheld]
      exact Option.mem_toList.mpr hdata
    · intro h
      refine ⟨fun s hs => ?_, fun data hdata => h.withheld hempty data ?_⟩
      · rw [hsigned] at hs
        exact absurd hs List.not_mem_nil
      · rw [hwithheld] at hdata
        exact Option.mem_toList.mp hdata
  · rw [if_neg hempty] at hsigned hwithheld
    constructor
    · intro h
      refine ⟨fun _ s hs => h.signatures s ?_, fun he => absurd he hempty⟩
      rw [hsigned]
      exact Option.mem_toList.mpr hs
    · intro h
      refine ⟨fun s hs => h.signed hempty s ?_, fun data hdata => ?_⟩
      · rw [hsigned] at hs
        exact Option.mem_toList.mp hs
      · rw [hwithheld] at hdata
        exact absurd hdata List.not_mem_nil

/-- **Seals that are sent again.**  The assistant's turns of the request that is sent are its turns
that spoke in the request that was read, one by one.  The seals of such a turn are genuine exactly
where the last seal of the original is a signature beside a thought, or withheld data without one;
turns of the user bear none. -/
theorem seals_genuine_iff (b later : Budgets) {q : Request} {u : ChatRelay.Request}
    (hu : q.lift b = .ok u) :
    List.Forall₂ (fun t sent => Genuine t sent ↔ t.SealFits) (q.messages.filter Message.speaks)
      ((lowerRequest later u).messages.filter (·.role = "assistant")) ∧
    (List.Forall₂ Genuine (q.messages.filter Message.speaks)
      ((lowerRequest later u).messages.filter (·.role = "assistant")) ↔
        ∀ t ∈ q.messages.filter Message.speaks, t.SealFits) ∧
    ∀ sent ∈ (lowerRequest later u).messages, sent.role ≠ "assistant" →
      sent.signatures = [] ∧ sent.withheld = [] := by
  obtain ⟨ms, hms, hsent⟩ := messages_lowerRequest hu later
  have hturns : (lowerRequest later u).messages.filter (·.role = "assistant")
      = (q.messages.filter Message.speaks).map fun t => lowerMessage t.said := by
    rw [hsent, filter_groupTurns, filter_liftMessages hms, List.map_map]
    rfl
  rw [hturns, List.forall₂_map_right_iff, List.forall₂_map_right_iff, List.forall₂_same,
    List.forall₂_same]
  refine ⟨fun t _ => genuine_iff t, forall₂_congr fun t _ => genuine_iff t, ?_⟩
  intro sent hmem hrole
  rw [hsent] at hmem
  obtain ⟨g, -, rfl⟩ := List.mem_map.mp hmem
  exact seals_of_user hrole

/-- a turn that thinks, first withheld and then openly -/
def mulling : Request :=
  { model := "m"
    maxTokens := some 100
    messages := [
      { role := "user", content := .text "q" },
      { role := "assistant", content := .blocks [
          .redacted "r", .thinking "h" (some "s"), .thinking "m" none, .text "a"] },
      { role := "assistant", content := .blocks [.thinking "" (some "r"), .redacted "r"] }] }

theorem seals_genuine_iff_mulling :
    ∃ u, mulling.lift {} = .ok u ∧
      List.Forall₂ Genuine (mulling.messages.filter Message.speaks)
        ((lowerRequest {} u).messages.filter (·.role = "assistant")) := by
  have hread : ∃ u, mulling.lift {} = .ok u ∧ u.model = "m" := by decide +kernel
  obtain ⟨u, hu, -⟩ := hread
  refine ⟨u, hu, (seals_genuine_iff {} {} hu).2.1.mpr ?_⟩
  have hspoken : mulling.messages.filter Message.speaks = [
      { role := "assistant", content := .blocks [
          .redacted "r", .thinking "h" (some "s"), .thinking "m" none, .text "a"] },
      { role := "assistant", content := .blocks [.thinking "" (some "r"), .redacted "r"] }] := by
    decide +kernel
  rw [hspoken]
  refine List.forall_mem_cons.mpr ⟨⟨?_, ?_⟩, List.forall_mem_singleton.mpr ⟨?_, ?_⟩⟩
  all_goals decide +kernel

/-- a turn that thinks openly and then withholds what it thinks -/
def veiling : Request :=
  { model := "m"
    maxTokens := some 100
    messages := [
      { role := "assistant", content := .blocks [
          .thinking "hm" (some "s"), .redacted "r", .text "a"] }] }

/-- withheld data is sent as the signature of a thought that was signed otherwise -/
theorem withheld_sent_as_signature :
    ∃ u, veiling.lift {} = .ok u ∧
      (lowerRequest {} u).messages = [{ role := "assistant", content := .blocks [
        .thinking "hm" (some "r"), .text "a"] }] ∧
      veiling.messages.map Message.signatures = [["s"]] ∧
      ¬ List.Forall₂ Genuine veiling.messages (lowerRequest {} u).messages := by
  have hread : ∃ u, veiling.lift {} = .ok u ∧
      (lowerRequest {} u).messages = [{ role := "assistant", content := .blocks [
        .thinking "hm" (some "r"), .text "a"] }] := by decide +kernel
  obtain ⟨u, hu, hsent⟩ := hread
  refine ⟨u, hu, hsent, by decide, fun hgenuine => ?_⟩
  rw [hsent] at hgenuine
  cases hgenuine with
  | cons hfirst _ =>
    have hmem := hfirst.signatures "r" (by decide)
    exact absurd hmem (by decide)

end ChatRelay.Anthropic
