import ChatRelay.Dialect.Anthropic.Lower

/-!
# Turns that settle

A turn that was made of a message is read back as a message that makes the same turn.  What the turn
leaves out of a message (names, audio, the order of its blocks) it leaves out again, and what it
rewrites (addresses of images, thinking without a thought) it has rewritten already.  Tool results
are read back one by one and put together again, because no two turns of tool results stand side by
side.

* `sourceOfAddress_address`   images;
* `lift_lowerMessage`         the turn of one message;
* `groupTurns_messages`       groups that stand apart are found again in their messages;
* `lowerMessages_eq`          a look at the last turn is enough to find them;
* `lift_groups`               the turns of groups.
-/

namespace ChatRelay

/-- a value that its own text reads back as -/
def Json.Value.ReadsBack (v : Json.Value) : Prop := Json.Value.parse? v.render = some v

instance (v : Json.Value) : Decidable v.ReadsBack :=
  inferInstanceAs (Decidable (Json.Value.parse? v.render = some v))

namespace Anthropic

/-! ## images -/

/-- what the media type of base64 data ends with -/
def base64Mark : List Char := ";base64".toList

theorem toList_address_base64 (kind data : List Char) :
    (ImageSource.base64 (String.ofList kind) (String.ofList data)).address.toList
      = "data:".toList ++ (kind ++ base64Mark ++ ',' :: data) := by
  have hmark : ";base64,".toList = base64Mark ++ [','] := by decide +kernel
  rw [ImageSource.address, String.toList_append, String.toList_append, String.toList_append,
    @String.toList_ofList kind, @String.toList_ofList data, hmark]
  simp only [List.append_assoc, List.singleton_append]

theorem sourceOfAddress_data {kind data : List Char} (h : ',' ∉ kind) :
    sourceOfAddress (ImageSource.base64 (String.ofList kind) (String.ofList data)).address
      = .base64 (String.ofList kind) (String.ofList data) := by
  have hcomma : ',' ∉ kind ++ base64Mark := by
    rw [List.mem_append, not_or]
    exact ⟨h, by decide +kernel⟩
  rw [sourceOfAddress, toList_address_base64, Text.afterStart?_append, Option.bind_some,
    Text.cutAt?_append hcomma]
  show ImageSource.base64 (String.ofList ((Text.beforeEnd? base64Mark _).getD _)) _ = _
  rw [Text.beforeEnd?_append, Option.getD_some]

/-- an address that was rewritten once is left as it is -/
theorem sourceOfAddress_address (address : String) :
    sourceOfAddress (sourceOfAddress address).address = sourceOfAddress address := by
  cases h : (Text.afterStart? "data:".toList address.toList).bind (Text.cutAt? ',') with
  | none =>
    have hurl : sourceOfAddress address = .url address := by rw [sourceOfAddress, h]
    rw [hurl, ImageSource.address, hurl]
  | some cut =>
    obtain ⟨kind, data⟩ := cut
    have hdata : sourceOfAddress address = .base64
        (String.ofList ((Text.beforeEnd? ";base64".toList kind).getD kind))
        (String.ofList data) := by rw [sourceOfAddress, h]
    have hcomma : ',' ∉ kind := by
      obtain ⟨rest, -, hcut⟩ := Option.bind_eq_some_iff.mp h
      exact Text.not_mem_of_cutAt? hcut
    rw [hdata]
    refine sourceOfAddress_data ?_
    cases hend : Text.beforeEnd? ";base64".toList kind with
    | none => exact hcomma
    | some front =>
      rw [Text.eq_append_of_beforeEnd? hend, List.mem_append, not_or] at hcomma
      exact hcomma.1

/-! ## what blocks say -/

/-- the message that blocks without tool results make -/
def saidBy (role : Role) (bs : List Block) : ChatRelay.Message :=
  let parts := bs.filterMap Block.part?
  let turn := bs.foldl addThought {}
  { turn.message with
    role
    content := if parts.isEmpty then turn.message.content else some (.ofParts parts) }

theorem liftBlocks_eq (role : Role) (bs : List Block) : liftBlocks role bs =
    if (bs.filterMap Block.part?).isEmpty && (bs.foldl addThought {}).isEmpty
        && !(bs.filterMap Block.toolMessage?).isEmpty then bs.filterMap Block.toolMessage?
    else bs.filterMap Block.toolMessage? ++ [saidBy role bs] := rfl

theorem liftBlocks_of_no_results {bs : List Block} (h : bs.filterMap Block.toolMessage? = [])
    (role : Role) : liftBlocks role bs = [saidBy role bs] := by
  have hresults : (!([] : List ChatRelay.Message).isEmpty) = false := rfl
  rw [liftBlocks_eq, h, hresults, Bool.and_false]
  rfl

theorem calls_saidBy (role : Role) (bs : List Block) :
    (saidBy role bs).calls = (bs.foldl addThought {}).calls := by
  show ((bs.foldl addThought {}).calls?).getD [] = _
  unfold Turn.calls?
  cases (bs.foldl addThought {}).calls <;> rfl

theorem speechOfBlocks_cases (bs : List Block) :
    bs = [] ∨ (∃ s, bs = [.text s]) ∨ speechOfBlocks bs = .blocks bs := by
  unfold speechOfBlocks
  split
  · exact .inl rfl
  · next s => exact .inr (.inl ⟨s, rfl⟩)
  · exact .inr (.inr rfl)

theorem lift_speechOfBlocks {word : String} {role : Role} (hrole : liftRole word = .ok role)
    {bs : List Block} (h : bs.filterMap Block.toolMessage? = []) :
    ({ role := word, content := speechOfBlocks bs } : Message).lift = .ok [saidBy role bs] := by
  rcases speechOfBlocks_cases bs with rfl | ⟨s, rfl⟩ | hblocks
  · unfold Message.lift
    rw [hrole]
    rfl
  · unfold Message.lift
    rw [hrole]
    rfl
  · rw [hblocks]
    unfold Message.lift
    rw [hrole]
    exact congrArg Except.ok (liftBlocks_of_no_results h role)

theorem foldl_addThought_of_silent {bs : List Block} (h : ∀ b ∈ bs, ∀ t, addThought t b = t)
    (t : Turn) : bs.foldl addThought t = t := by
  induction bs with
  | nil => rfl
  | cons b bs ih =>
    rw [List.foldl_cons, h b List.mem_cons_self]
    exact ih fun x hx => h x (List.mem_cons_of_mem b hx)

/-! ## a user's message -/

/-- a block that a part gives: a text, or an image whose address was rewritten -/
def Block.IsPart : Block → Prop
  | .text _ => True
  | .image source => sourceOfAddress source.address = source
  | _ => False

theorem isPart_of_blockOfPart? {p : Part} {b : Block} (h : blockOfPart? p = some b) :
    b.IsPart := by
  cases p with
  | text s =>
    obtain rfl : Block.text s = b := Option.some.inj h
    exact trivial
  | image address detail =>
    obtain rfl : Block.image (sourceOfAddress address) = b := Option.some.inj h
    exact sourceOfAddress_address address
  | audio data format => exact nomatch h

section

variable {bs : List Block}

theorem filterMap_parts (h : ∀ b ∈ bs, b.IsPart) :
    (bs.filterMap Block.part?).filterMap blockOfPart? = bs := by
  induction bs with
  | nil => rfl
  | cons b bs ih =>
    have hb := h b List.mem_cons_self
    have htail := ih fun x hx => h x (List.mem_cons_of_mem b hx)
    cases b with
    | text s => exact congrArg (Block.text s :: ·) htail
    | image source =>
      have hsource : sourceOfAddress source.address = source := hb
      show Block.image (sourceOfAddress source.address) :: _ = _
      rw [hsource]
      exact congrArg (Block.image source :: ·) htail
    | _ => exact hb.elim

theorem toolMessages_of_isPart (h : ∀ b ∈ bs, b.IsPart) :
    bs.filterMap Block.toolMessage? = [] := by
  refine List.filterMap_eq_nil_iff.mpr fun b hb => ?_
  cases b with
  | toolResult id output failed => exact (h _ hb).elim
  | _ => rfl

theorem foldl_addThought_of_isPart (h : ∀ b ∈ bs, b.IsPart) (t : Turn) :
    bs.foldl addThought t = t := by
  refine foldl_addThought_of_silent (fun b hb t => ?_) t
  cases b with
  | text s => rfl
  | image source => rfl
  | _ => exact (h _ hb).elim

end

theorem toParts_ofParts (ps : List Part) : (Content.ofParts ps).toParts = ps := by
  unfold Content.ofParts
  split <;> rfl

theorem lowerMessage_saidBy_user {bs : List Block} (h : ∀ b ∈ bs, b.IsPart) :
    lowerMessage (saidBy .user bs) = { role := "user", content := speechOfBlocks bs } := by
  have hparts := filterMap_parts h
  have hcontent : (saidBy .user bs).content
      = if (bs.filterMap Block.part?).isEmpty then some (.text "")
        else some (.ofParts (bs.filterMap Block.part?)) := by
    unfold saidBy
    rw [foldl_addThought_of_isPart h]
    rfl
  show Message.mk "user" (speechOfBlocks
    ((((saidBy .user bs).content.map Content.toParts).getD []).filterMap blockOfPart?)) = _
  rw [hcontent]
  cases hps : bs.filterMap Block.part? with
  | nil =>
    rw [hps] at hparts
    rw [← hparts]
    rfl
  | cons p ps =>
    show Message.mk "user" (speechOfBlocks
      ((Content.ofParts (p :: ps)).toParts.filterMap blockOfPart?)) = _
    rw [toParts_ofParts, ← hps, hparts]

/-! ## an assistant's message -/

/-- the input of the tool use that a call makes -/
def inputOf (c : ToolCall) : Json.Value := (Json.Value.parse? c.arguments).getD .empty

theorem foldl_addThought_thinkingBlocks (m : ChatRelay.Message) :
    ∃ reasoning signature,
      (thinkingBlocks m).foldl addThought {} = { reasoning, signature } ∧
      ∀ x : ChatRelay.Message, x.reasoning = reasoning → x.signature = signature →
        thinkingBlocks x = thinkingBlocks m := by
  unfold thinkingBlocks
  cases hreasoning : m.reasoning with
  | none =>
    cases hsignature : m.signature with
    | none =>
      refine ⟨none, none, rfl, fun x hx hy => ?_⟩
      rw [hx, hy]
    | some data =>
      refine ⟨none, some data, rfl, fun x hx hy => ?_⟩
      rw [hx, hy]
  | some thought =>
    by_cases hthought : thought = ""
    · -- a thought that is empty leaves only the signature
      subst hthought
      cases hsignature : m.signature with
      | none =>
        refine ⟨none, none, rfl, fun x hx hy => ?_⟩
        rw [hx, hy]
        rfl
      | some data =>
        refine ⟨none, some data, rfl, fun x hx hy => ?_⟩
        rw [hx, hy]
        rfl
    · refine ⟨some thought, m.signature, ?_, fun x hx hy => ?_⟩
      · simp [hthought, addThought, Turn.addReasoning, Turn.sign]
      · rw [hx, hy]

theorem foldl_addThought_uses {cs : List ToolCall} (h : ∀ c ∈ cs, (inputOf c).ReadsBack)
    (t : Turn) :
    ∃ calls, (cs.map toolUseBlock).foldl addThought t = { t with calls := t.calls ++ calls } ∧
      calls.map toolUseBlock = cs.map toolUseBlock := by
  induction cs generalizing t with
  | nil => exact ⟨[], by rw [List.append_nil]; rfl, rfl⟩
  | cons c cs ih =>
    obtain ⟨calls, hfold, hmap⟩ := ih (fun x hx => h x (List.mem_cons_of_mem c hx))
      (addThought t (toolUseBlock c))
    let call : ToolCall := {
      index := UInt32.ofNat t.calls.length, id := c.id, name := c.name
      arguments := (inputOf c).render }
    have hcall : toolUseBlock call = toolUseBlock c := by
      have hinput : Json.Value.parse? (inputOf c).render = some (inputOf c) :=
        h c List.mem_cons_self
      show Block.toolUse c.id c.name ((Json.Value.parse? (inputOf c).render).getD .empty) = _
      rw [hinput]
      rfl
    refine ⟨call :: calls, ?_, ?_⟩
    · rw [List.map_cons, List.foldl_cons, hfold]
      show ({ t with calls := t.calls ++ [call] ++ calls } : Turn) = _
      rw [List.append_assoc]
      rfl
    · rw [List.map_cons, hcall, hmap, List.map_cons]

section

variable (m : ChatRelay.Message)

theorem foldl_addThought_assistantBlocks {m : ChatRelay.Message}
    (h : ∀ c ∈ m.calls, (inputOf c).ReadsBack) :
    ∃ reasoning signature calls,
      (assistantBlocks m).foldl addThought {} = { reasoning, signature, calls } ∧
      calls.map toolUseBlock = m.calls.map toolUseBlock ∧
      ∀ x : ChatRelay.Message, x.reasoning = reasoning → x.signature = signature →
        thinkingBlocks x = thinkingBlocks m := by
  obtain ⟨reasoning, signature, hthink, hagain⟩ := foldl_addThought_thinkingBlocks m
  obtain ⟨calls, hfold, hmap⟩ := foldl_addThought_uses h { reasoning, signature }
  refine ⟨reasoning, signature, calls, ?_, hmap, hagain⟩
  have htext : ∀ t, (if m.plainText = "" then [] else [Block.text m.plainText]).foldl addThought t
      = t := by
    intro t
    split <;> rfl
  rw [assistantBlocks, List.foldl_append, List.foldl_append, hthink, htext, hfold]
  rfl

/-- beside its text an assistant's message has blocks of thinking and of tool uses only -/
theorem filterMap_assistantBlocks {β : Type} {f : Block → Option β}
    (hthinking : ∀ thought sign, f (.thinking thought sign) = none)
    (hredacted : ∀ data, f (.redacted data) = none)
    (huse : ∀ id name input, f (.toolUse id name input) = none) :
    (assistantBlocks m).filterMap f
      = (if m.plainText = "" then [] else [Block.text m.plainText]).filterMap f := by
  have hthink : (thinkingBlocks m).filterMap f = [] := by
    unfold thinkingBlocks
    split
    · split
      · rw [List.filterMap_cons_none (hthinking _ _), List.filterMap_nil]
      · cases m.signature with
        | none => rfl
        | some data => exact List.filterMap_cons_none (hredacted data)
    · exact List.filterMap_cons_none (hredacted _)
    · rfl
  have huses : (m.calls.map toolUseBlock).filterMap f = [] := by
    rw [List.filterMap_map]
    exact List.filterMap_eq_nil_iff.mpr fun c _ => huse _ _ _
  rw [assistantBlocks, List.filterMap_append, List.filterMap_append, hthink, huses,
    List.append_nil, List.nil_append]

theorem parts_assistantBlocks : (assistantBlocks m).filterMap Block.part?
    = if m.plainText = "" then [] else [.text m.plainText] := by
  rw [filterMap_assistantBlocks m (fun _ _ => rfl) (fun _ => rfl) (fun _ _ _ => rfl)]
  split <;> rfl

theorem toolMessages_assistantBlocks : (assistantBlocks m).filterMap Block.toolMessage? = [] := by
  rw [filterMap_assistantBlocks m (fun _ _ => rfl) (fun _ => rfl) (fun _ _ _ => rfl)]
  split <;> rfl

end

theorem assistantBlocks_saidBy {m : ChatRelay.Message}
    (h : ∀ c ∈ m.calls, (inputOf c).ReadsBack) :
    assistantBlocks (saidBy .assistant (assistantBlocks m)) = assistantBlocks m := by
  obtain ⟨reasoning, signature, calls, hturn, hmap, hagain⟩ := foldl_addThought_assistantBlocks h
  have hsaid : saidBy .assistant (assistantBlocks m) =
      { ({ reasoning, signature, calls } : Turn).message with
        content :=
          if m.plainText = "" then ({ reasoning, signature, calls } : Turn).message.content
          else some (.text m.plainText) } := by
    unfold saidBy
    rw [hturn, parts_assistantBlocks]
    by_cases hm : m.plainText = ""
    · rw [if_pos hm, if_pos hm]
      rfl
    · rw [if_neg hm, if_neg hm]
      rfl
  have hcalls : (saidBy .assistant (assistantBlocks m)).calls = calls := by
    rw [calls_saidBy, hturn]
  have hplain : (saidBy .assistant (assistantBlocks m)).plainText = m.plainText := by
    rw [hsaid]
    by_cases hm : m.plainText = ""
    · rw [if_pos hm, hm]
      cases calls <;> rfl
    · rw [if_neg hm]
      rfl
  have hthink : thinkingBlocks (saidBy .assistant (assistantBlocks m)) = thinkingBlocks m := by
    refine hagain _ ?_ ?_ <;> rw [hsaid] <;> rfl
  rw [assistantBlocks, hthink, hplain, hcalls, hmap]
  rfl

/-! ## any message -/

theorem liftRole_user : liftRole "user" = .ok .user := if_pos rfl

theorem liftRole_assistant : liftRole "assistant" = .ok .assistant := by
  rw [liftRole, if_neg (by decide), if_pos rfl]

theorem lift_lowerMessage {m : ChatRelay.Message}
    (h : ∀ c ∈ m.calls, (inputOf c).ReadsBack) :
    ∃ x, (lowerMessage m).lift = .ok [x] ∧ lowerMessage x = lowerMessage m ∧
      (x.role = .assistant ∨ x.role = .user) := by
  by_cases hm : m.role = .assistant
  · have hlower : lowerMessage m
        = { role := "assistant", content := speechOfBlocks (assistantBlocks m) } := if_pos hm
    refine ⟨saidBy .assistant (assistantBlocks m), ?_, ?_, .inl rfl⟩
    · rw [hlower]
      exact lift_speechOfBlocks liftRole_assistant (toolMessages_assistantBlocks m)
    · have hagain : lowerMessage (saidBy .assistant (assistantBlocks m)) = {
          role := "assistant"
          content := speechOfBlocks (assistantBlocks (saidBy .assistant (assistantBlocks m))) } :=
        if_pos rfl
      rw [hlower, hagain, assistantBlocks_saidBy h]
  · let bs := ((m.content.map Content.toParts).getD []).filterMap blockOfPart?
    have hlower : lowerMessage m = { role := "user", content := speechOfBlocks bs } := if_neg hm
    have hbs : ∀ b ∈ bs, b.IsPart := by
      intro b hb
      obtain ⟨p, -, hp⟩ := List.mem_filterMap.mp hb
      exact isPart_of_blockOfPart? hp
    refine ⟨saidBy .user bs, ?_, ?_, .inr rfl⟩
    · rw [hlower]
      exact lift_speechOfBlocks liftRole_user (toolMessages_of_isPart hbs)
    · rw [hlower]
      exact lowerMessage_saidBy_user hbs

/-! ## groups -/

/-- consecutive messages that make one turn: tool results together, every other message alone -/
inductive Group where
  | results (ms : List ChatRelay.Message)
  | speech (m : ChatRelay.Message)
  deriving DecidableEq, Repr

/-- messages as turns -/
def groupTurns : List ChatRelay.Message → List Group
  | [] => []
  | m :: ms =>
    if m.role = .tool then
      match groupTurns ms with
      | .results rs :: gs => .results (m :: rs) :: gs
      | gs => .results [m] :: gs
    else .speech m :: groupTurns ms

/-- the turn of a group -/
def Group.lower : Group → Message
  | .results ms => { role := "user", content := .blocks (ms.map resultBlock) }
  | .speech m => lowerMessage m

namespace Group

def messages : Group → List ChatRelay.Message
  | .results ms => ms
  | .speech m => [m]

def isResults : Group → Bool
  | .results _ => true
  | .speech _ => false

/-- a group whose messages are of its kind -/
def Sound : Group → Prop
  | .results ms => ms ≠ [] ∧ ∀ m ∈ ms, m.role = .tool
  | .speech m => m.role ≠ .tool

end Group

def startsWithResults (gs : List Group) : Bool := gs.head?.any Group.isResults

/-- groups of which no two of tool results stand side by side -/
def Apart : List Group → Prop
  | [] => True
  | g :: gs => g.Sound ∧ (g.isResults = true → startsWithResults gs = false) ∧ Apart gs

/-- a tool's message joins the results behind it, or stands for itself -/
theorem groupTurns_cons_tool {m : ChatRelay.Message} (hm : m.role = .tool)
    (ms : List ChatRelay.Message) :
    (∃ rs gs, groupTurns ms = .results rs :: gs ∧
      groupTurns (m :: ms) = .results (m :: rs) :: gs) ∨
    (startsWithResults (groupTurns ms) = false ∧
      groupTurns (m :: ms) = .results [m] :: groupTurns ms) := by
  rw [groupTurns, if_pos hm]
  cases hg : groupTurns ms with
  | nil => exact .inr ⟨rfl, rfl⟩
  | cons g gs =>
    cases g with
    | results rs => exact .inl ⟨rs, gs, rfl, rfl⟩
    | speech x => exact .inr ⟨rfl, rfl⟩

theorem apart_groupTurns (ms : List ChatRelay.Message) : Apart (groupTurns ms) := by
  induction ms with
  | nil => exact trivial
  | cons m ms ih =>
    by_cases hm : m.role = .tool
    · rcases groupTurns_cons_tool hm ms with ⟨rs, gs, hms, hcons⟩ | ⟨hstart, hcons⟩
      · rw [hms] at ih
        rw [hcons]
        obtain ⟨⟨-, hrs⟩, hnext, hgs⟩ := ih
        exact ⟨⟨List.cons_ne_nil m rs, List.forall_mem_cons.mpr ⟨hm, hrs⟩⟩, hnext, hgs⟩
      · rw [hcons]
        exact ⟨⟨List.cons_ne_nil m [], List.forall_mem_singleton.mpr hm⟩, fun _ => hstart, ih⟩
    · rw [groupTurns, if_neg hm]
      exact ⟨hm, nofun, ih⟩

theorem flatMap_messages_groupTurns (ms : List ChatRelay.Message) :
    (groupTurns ms).flatMap Group.messages = ms := by
  induction ms with
  | nil => rfl
  | cons m ms ih =>
    by_cases hm : m.role = .tool
    · rcases groupTurns_cons_tool hm ms with ⟨rs, gs, hms, hcons⟩ | ⟨-, hcons⟩
      · rw [hms] at ih
        rw [hcons, ← ih]
        rfl
      · rw [hcons, List.flatMap_cons, ih]
        rfl
    · rw [groupTurns, if_neg hm, List.flatMap_cons, ih]
      rfl

theorem groupTurns_results_append {rs ms : List ChatRelay.Message} (hne : rs ≠ [])
    (hrs : ∀ m ∈ rs, m.role = .tool) (hms : startsWithResults (groupTurns ms) = false) :
    groupTurns (rs ++ ms) = .results rs :: groupTurns ms := by
  induction rs with
  | nil => exact absurd rfl hne
  | cons m rs ih =>
    have hm : m.role = .tool := hrs m List.mem_cons_self
    cases rs with
    | nil =>
      rcases groupTurns_cons_tool hm ms with ⟨xs, gs, hresults, -⟩ | ⟨-, hcons⟩
      · rw [hresults] at hms
        exact nomatch hms
      · exact hcons
    | cons r rs =>
      have htail := ih (List.cons_ne_nil r rs) fun x hx => hrs x (List.mem_cons_of_mem m hx)
      rcases groupTurns_cons_tool hm (r :: rs ++ ms) with ⟨xs, gs, hresults, hcons⟩ | ⟨hstart, -⟩
      · rw [htail] at hresults
        obtain ⟨hxs, hgs⟩ := List.cons.inj hresults
        rw [List.cons_append, hcons, ← hgs, ← Group.results.inj hxs]
      · rw [htail] at hstart
        exact nomatch hstart

theorem groupTurns_messages {gs : List Group} (h : Apart gs) :
    groupTurns (gs.flatMap Group.messages) = gs := by
  induction gs with
  | nil => rfl
  | cons g gs ih =>
    obtain ⟨hg, hnext, hgs⟩ := h
    cases g with
    | results ms =>
      rw [List.flatMap_cons]
      show groupTurns (ms ++ gs.flatMap Group.messages) = _
      rw [groupTurns_results_append hg.1 hg.2 (by rw [ih hgs]; exact hnext rfl), ih hgs]
    | speech m =>
      rw [List.flatMap_cons]
      show groupTurns (m :: gs.flatMap Group.messages) = _
      rw [groupTurns, if_neg hg, ih hgs]

/-! ## turns, one message after the other -/

theorem isToolResult_eq (b : Block) : b.isToolResult = b.toolMessage?.isSome := by cases b <;> rfl

theorem results?_speechOfBlocks {bs : List Block} (h : bs.filterMap Block.toolMessage? = [])
    (word : String) : ({ role := word, content := speechOfBlocks bs } : Message).results? = none := by
  rcases speechOfBlocks_cases bs with rfl | ⟨s, rfl⟩ | hblocks
  · rfl
  · rfl
  · cases bs with
    | nil => exact nomatch hblocks
    | cons b bs =>
      have hb : b.toolMessage? = none := List.filterMap_eq_nil_iff.mp h b List.mem_cons_self
      have hall : (b :: bs).all Block.isToolResult = false := by
        rw [List.all_cons, isToolResult_eq, hb]
        rfl
      rw [Message.results?, hblocks]
      exact if_neg fun hresults => Bool.false_ne_true (hall.symm.trans hresults.2)

/-- the turn of a message has no result of a tool -/
theorem lowerMessage_eq (m : ChatRelay.Message) :
    ∃ bs, bs.filterMap Block.toolMessage? = [] ∧ lowerMessage m = {
      role := if m.role = .assistant then "assistant" else "user"
      content := speechOfBlocks bs } := by
  by_cases hm : m.role = .assistant
  · refine ⟨assistantBlocks m, toolMessages_assistantBlocks m, ?_⟩
    rw [lowerMessage, if_pos hm, if_pos hm]
  · refine ⟨((m.content.map Content.toParts).getD []).filterMap blockOfPart?, ?_, ?_⟩
    · refine toolMessages_of_isPart fun b hb => ?_
      obtain ⟨p, -, hp⟩ := List.mem_filterMap.mp hb
      exact isPart_of_blockOfPart? hp
    · rw [lowerMessage, if_neg hm, if_neg hm]

/-- so it never looks like a turn of results -/
theorem results?_lowerMessage (m : ChatRelay.Message) : (lowerMessage m).results? = none := by
  obtain ⟨bs, hbs, hlower⟩ := lowerMessage_eq m
  rw [hlower]
  exact results?_speechOfBlocks hbs _

theorem results?_results (ms : List ChatRelay.Message) :
    (Group.results ms).lower.results? = some (ms.map resultBlock) := by
  have hall : (ms.map resultBlock).all Block.isToolResult = true := by
    rw [List.all_map]
    exact List.all_eq_true.mpr fun m _ => rfl
  exact if_pos ⟨rfl, hall⟩

/-- a tool's message behind a turn of results joins it -/
theorem addTurn_results {m : ChatRelay.Message} (hm : m.role = .tool) (ts : List Message)
    (rs : List ChatRelay.Message) :
    addTurn (ts ++ [(Group.results rs).lower]) m = ts ++ [(Group.results (rs ++ [m])).lower] := by
  rw [addTurn, if_pos hm, addResult, List.getLast?_concat, Option.bind_some, results?_results,
    List.dropLast_concat]
  show ts ++ [Message.mk "user" (.blocks (rs.map resultBlock ++ [resultBlock m]))]
    = ts ++ [Message.mk "user" (.blocks ((rs ++ [m]).map resultBlock))]
  rw [List.map_append, List.map_singleton]

theorem foldl_addTurn_results {ms : List ChatRelay.Message} (h : ∀ m ∈ ms, m.role = .tool)
    (ts : List Message) (rs : List ChatRelay.Message) :
    ms.foldl addTurn (ts ++ [(Group.results rs).lower])
      = ts ++ [(Group.results (rs ++ ms)).lower] := by
  induction ms generalizing rs with
  | nil => rw [List.append_nil, List.foldl_nil]
  | cons m ms ih =>
    obtain ⟨hm, hms⟩ := List.forall_mem_cons.mp h
    rw [List.foldl_cons, addTurn_results hm, ih hms, List.append_assoc]
    rfl

/-- the messages of groups make the turns of the groups, behind turns that the first of them does
not join -/
theorem foldl_addTurn_groups {gs : List Group} (hgs : Apart gs) {ts : List Message}
    (h : startsWithResults gs = true → ts.getLast?.bind Message.results? = none) :
    (gs.flatMap Group.messages).foldl addTurn ts = ts ++ gs.map Group.lower := by
  induction gs generalizing ts with
  | nil => exact (List.append_nil ts).symm
  | cons g gs ih =>
    obtain ⟨hg, hnext, hgs⟩ := hgs
    rw [List.flatMap_cons, List.foldl_append, List.map_cons, List.append_cons]
    cases g with
    | results ms =>
      obtain ⟨m, rest, rfl⟩ := List.exists_cons_of_ne_nil hg.1
      obtain ⟨hm, hrest⟩ := List.forall_mem_cons.mp hg.2
      have hfirst : addTurn ts m = ts ++ [(Group.results [m]).lower] := by
        rw [addTurn, if_pos hm, addResult, h rfl]
        rfl
      have hrun : (m :: rest).foldl addTurn ts = ts ++ [(Group.results (m :: rest)).lower] := by
        rw [List.foldl_cons, hfirst, foldl_addTurn_results hrest]
        rfl
      show (gs.flatMap Group.messages).foldl addTurn ((m :: rest).foldl addTurn ts) = _
      rw [hrun]
      refine ih hgs fun hstart => ?_
      rw [hnext rfl] at hstart
      exact nomatch hstart
    | speech m =>
      have hturn : addTurn ts m = ts ++ [(Group.speech m).lower] := if_neg hg
      show (gs.flatMap Group.messages).foldl addTurn (addTurn ts m) = _
      rw [hturn]
      refine ih hgs fun _ => ?_
      rw [List.getLast?_concat]
      exact results?_lowerMessage m

/-- looking at the last turn alone finds the groups of the messages -/
theorem lowerMessages_eq (ms : List ChatRelay.Message) :
    lowerMessages ms = (groupTurns ms).map Group.lower := by
  have hfold := @foldl_addTurn_groups _ (apart_groupTurns ms) [] fun _ => rfl
  rwa [flatMap_messages_groupTurns, List.nil_append] at hfold

/-! ## the turns of groups -/

/-- a tool's message as its block is read back -/
def rereadResult (m : ChatRelay.Message) : ChatRelay.Message :=
  { role := .tool
    content := some (.text m.plainText)
    toolCallId := some (m.toolCallId.getD "")
    toolFailed := m.toolFailed }

theorem lift_results {ms : List ChatRelay.Message} (hne : ms ≠ []) :
    (Group.results ms).lower.lift = .ok (ms.map rereadResult) := by
  have hresults : (ms.map resultBlock).filterMap Block.toolMessage? = ms.map rereadResult := by
    rw [List.filterMap_map]
    exact congrFun List.filterMap_eq_map ms
  have hparts : (ms.map resultBlock).filterMap Block.part? = [] := by
    rw [List.filterMap_map]
    exact List.filterMap_eq_nil_iff.mpr fun _ _ => rfl
  have hturn : (ms.map resultBlock).foldl addThought {} = {} := by
    refine foldl_addThought_of_silent (fun b hb t => ?_) {}
    obtain ⟨m, -, rfl⟩ := List.mem_map.mp hb
    rfl
  have hlift : (Group.results ms).lower.lift = .ok (liftBlocks .user (ms.map resultBlock)) := rfl
  have hsome : (ms.map rereadResult).isEmpty = false := by
    rw [List.isEmpty_map]
    exact List.isEmpty_eq_false_iff.mpr hne
  rw [hlift, liftBlocks_eq, hresults, hparts, hturn, hsome]
  rfl

/-- the turn of a group is read back as a group that makes it -/
theorem lift_group {g : Group} (hg : g.Sound)
    (h : ∀ m ∈ g.messages, ∀ c ∈ m.calls, (inputOf c).ReadsBack) :
    ∃ x : Group, g.lower.lift = .ok x.messages ∧ x.lower = g.lower ∧
      x.isResults = g.isResults ∧ x.Sound ∧ ∀ m ∈ x.messages, m.role ≠ .system := by
  cases g with
  | results ms =>
    refine ⟨.results (ms.map rereadResult), lift_results hg.1, ?_, rfl, ⟨?_, ?_⟩, ?_⟩
    · show Message.mk "user" (.blocks ((ms.map rereadResult).map resultBlock)) = _
      rw [List.map_map]
      rfl
    · exact fun e => hg.1 (List.map_eq_nil_iff.mp e)
    · intro m hm
      obtain ⟨x, -, rfl⟩ := List.mem_map.mp hm
      rfl
    · intro m hm
      obtain ⟨x, -, rfl⟩ := List.mem_map.mp hm
      exact nofun
  | speech m =>
    obtain ⟨x, hlift, hlower, hrole⟩ := lift_lowerMessage (h m (List.mem_singleton.mpr rfl))
    refine ⟨.speech x, hlift, hlower, rfl, ?_, fun y hy => ?_⟩
    · rcases hrole with hx | hx <;> exact fun e => nomatch hx.symm.trans e
    · obtain rfl : y = x := List.mem_singleton.mp hy
      rcases hrole with hx | hx <;> exact fun e => nomatch hx.symm.trans e

theorem liftMessages_cons {t : Message} {ts : List Message} {xs ys : List ChatRelay.Message}
    (ht : t.lift = .ok xs) (hts : liftMessages ts = .ok ys) :
    liftMessages (t :: ts) = .ok (xs ++ ys) := by
  rw [liftMessages, ht, hts]
  rfl

/-- the turns of groups that stand apart are read back as such groups, which make the same turns -/
theorem lift_groups {gs : List Group} (hgs : Apart gs)
    (h : ∀ m ∈ gs.flatMap Group.messages, ∀ c ∈ m.calls, (inputOf c).ReadsBack) :
    ∃ xs, liftMessages (gs.map Group.lower) = .ok (xs.flatMap Group.messages) ∧
      xs.map Group.lower = gs.map Group.lower ∧ startsWithResults xs = startsWithResults gs ∧
      Apart xs ∧ ∀ m ∈ xs.flatMap Group.messages, m.role ≠ .system := by
  induction gs with
  | nil =>
    refine ⟨[], rfl, rfl, rfl, trivial, fun m hm => ?_⟩
    rw [List.flatMap_nil] at hm
    exact absurd hm List.not_mem_nil
  | cons g gs ih =>
    obtain ⟨hg, hnext, hgs⟩ := hgs
    rw [List.flatMap_cons] at h
    obtain ⟨x, hlift, hlower, hkind, hx, hroles⟩ :=
      lift_group hg fun m hm => h m (List.mem_append_left _ hm)
    obtain ⟨xs, hlifts, hlowers, hstart, hxs, hallroles⟩ :=
      ih hgs fun m hm => h m (List.mem_append_right _ hm)
    refine ⟨x :: xs, ?_, ?_, ?_, ⟨hx, ?_, hxs⟩, fun m hm => ?_⟩
    · exact liftMessages_cons hlift hlifts
    · rw [List.map_cons, List.map_cons, hlower, hlowers]
    · show (some x).any Group.isResults = (some g).any Group.isResults
      rw [Option.any_some, Option.any_some, hkind]
    · rw [hkind, hstart]
      exact hnext
    · rw [List.flatMap_cons, List.mem_append] at hm
      rcases hm with hm | hm
      · exact hroles m hm
      · exact hallroles m hm

/-- the turns of messages are read back as messages that make the same turns -/
theorem lift_groupTurns {ms : List ChatRelay.Message}
    (h : ∀ m ∈ ms, ∀ c ∈ m.calls, (inputOf c).ReadsBack) :
    ∃ xs, liftMessages ((groupTurns ms).map Group.lower) = .ok xs ∧
      (groupTurns xs).map Group.lower = (groupTurns ms).map Group.lower ∧
      ∀ m ∈ xs, m.role ≠ .system := by
  rw [← flatMap_messages_groupTurns ms] at h
  obtain ⟨gs, hlift, hlower, -, hgs, hroles⟩ := lift_groups (apart_groupTurns ms) h
  refine ⟨gs.flatMap Group.messages, hlift, ?_, hroles⟩
  rw [groupTurns_messages hgs, hlower]

end Anthropic
end ChatRelay
