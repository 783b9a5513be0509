import ChatRelay.Proofs.Anthropic.Seals
import Mathlib.Data.List.Flatten

/-!
# Images on the way

Images stand in the turns of a request, as blocks of their own or inside results of tools.  A
result becomes the text it holds, and an assistant's turn is sent again as thinking, text and tool
uses.  So the images that come through are those that a user's turn holds as blocks of its own.

* `images_lowerMessage`   the images of a turn that is sent;
* `images_groupTurns`     the images of all of them;
* `flatMap_imagesSent`    what a turn that is read comes to;
* `images_sent_iff`       the images that are sent, and when none is missing.
-/

namespace ChatRelay.Anthropic

/-! ## images -/

mutual
/-- the images of a block, those inside of a result of a tool among them -/
def Block.images : Block → List ImageSource
  | .image source => [source]
  | .toolResult _ output _ => outputImages output
  | .text _ | .toolUse .. | .thinking .. | .redacted _ => []

/-- the images of what a tool gave back -/
def outputImages : ToolOutput Block → List ImageSource
  | .blocks bs => blocksImages bs
  | .missing | .text _ => []

/-- the images of a list of blocks -/
def blocksImages : List Block → List ImageSource
  | [] => []
  | b :: bs => b.images ++ blocksImages bs
end

/-- the image that a block is -/
def Block.pictures : Block → List ImageSource
  | .image source => [source]
  | _ => []

namespace ImageSource

/-- an image as it is sent again, by way of its address -/
def resent (s : ImageSource) : ImageSource := sourceOfAddress s.address

/-- an image that its address gives back: inline data whose media type has no comma, or an address
that is not a data address -/
def Plain : ImageSource → Prop
  | .base64 mediaType _ => ',' ∉ mediaType.toList
  | .url address => Text.afterStart? "data:".toList address.toList = none

theorem resent_of_plain {s : ImageSource} (h : s.Plain) : s.resent = s := by
  cases s with
  | base64 mediaType data =>
    have hdata := @sourceOfAddress_data mediaType.toList data.toList h
    rwa [String.ofList_toList, String.ofList_toList] at hdata
  | url address =>
    have hnone : Text.afterStart? "data:".toList address.toList = none := h
    rw [resent, ImageSource.address, sourceOfAddress, hnone]
    rfl

end ImageSource

namespace Message

/-- the images of a turn -/
def images (t : Message) : List ImageSource := t.blocks.flatMap Block.images

/-- the images that a user's turn holds as blocks of its own -/
def pictures (t : Message) : List ImageSource :=
  if t.role = "user" then t.blocks.flatMap Block.pictures else []

/-- a turn whose images are all blocks of a user's turn -/
structure KeepsImages (t : Message) : Prop where
  spoken : t.role ≠ "user" → t.images = []
  results : ∀ b ∈ t.blocks, b.toolMessage?.isSome → b.images = []

end Message

/-- the images of a request -/
def Request.images (q : Request) : List ImageSource := q.messages.flatMap Message.images

theorem blocksImages_eq (bs : List Block) : blocksImages bs = bs.flatMap Block.images := by
  induction bs with
  | nil => rfl
  | cons b bs ih => rw [blocksImages, ih, List.flatMap_cons]

/-- the images of a result of a tool are those of its blocks -/
@[simp] theorem images_toolResult (id : String) (bs : List Block) (failed : Option Bool) :
    (Block.toolResult id (.blocks bs) failed).images = bs.flatMap Block.images := by
  rw [Block.images, outputImages, blocksImages_eq]

/-! ## some of the images, or all -/

/-- lists that are parts of others have their length, all together, only where each is the whole -/
theorem length_flatMap_eq_iff {α β : Type} {f g : α → List β} {l : List α}
    (h : ∀ a ∈ l, (f a).Sublist (g a)) :
    (l.flatMap f).length = (l.flatMap g).length ↔ ∀ a ∈ l, f a = g a := by
  refine ⟨fun hlength => ?_, fun heq => by rw [List.flatMap_congr heq]⟩
  induction l with
  | nil => exact List.forall_mem_nil _
  | cons a l ih =>
    obtain ⟨ha, hl⟩ := List.forall_mem_cons.mp h
    have hhead : (f a).length ≤ (g a).length := ha.length_le
    have htail : (l.flatMap f).length ≤ (l.flatMap g).length :=
      (List.Sublist.flatMap_right l hl).length_le
    rw [List.flatMap_cons, List.flatMap_cons, List.length_append, List.length_append] at hlength
    exact List.forall_mem_cons.mpr ⟨ha.eq_of_length (by omega), ih hl (by omega)⟩

theorem pictures_sublist_block (b : Block) : b.pictures.Sublist b.images := by
  cases b with
  | image source => exact List.Sublist.refl _
  | text _ | toolUse _ _ _ | toolResult _ _ _ | thinking _ _ | redacted _ =>
    exact List.nil_sublist _

theorem pictures_eq_images_iff (b : Block) :
    b.pictures = b.images ↔ (b.toolMessage?.isSome → b.images = []) := by
  cases b with
  | toolResult id output failed => exact ⟨fun h _ => h.symm, fun h => (h rfl).symm⟩
  | text _ | image _ | toolUse _ _ _ | thinking _ _ | redacted _ =>
    exact ⟨fun _ => nofun, fun _ => rfl⟩

namespace Message

theorem pictures_sublist (t : Message) : t.pictures.Sublist t.images := by
  unfold pictures
  split
  · exact List.Sublist.flatMap_right _ fun b _ => pictures_sublist_block b
  · exact List.nil_sublist _

theorem pictures_eq_images_iff_keepsImages (t : Message) :
    t.pictures = t.images ↔ t.KeepsImages := by
  have hparts : ∀ b ∈ t.blocks, b.pictures.Sublist b.images := fun b _ => pictures_sublist_block b
  have hblocks : t.blocks.flatMap Block.pictures = t.images ↔
      ∀ b ∈ t.blocks, b.toolMessage?.isSome → b.images = [] := by
    rw [images, ← (List.Sublist.flatMap_right t.blocks hparts).length_eq,
      length_flatMap_eq_iff hparts]
    exact forall₂_congr fun b _ => pictures_eq_images_iff b
  by_cases hrole : t.role = "user"
  · rw [pictures, if_pos hrole, hblocks]
    exact ⟨fun h => ⟨fun hne => absurd hrole hne, h⟩, KeepsImages.results⟩
  · rw [pictures, if_neg hrole]
    constructor
    · intro hnone
      refine ⟨fun _ => hnone.symm, fun b hb _ => ?_⟩
      exact List.flatMap_eq_nil_iff.mp hnone.symm b hb
    · exact fun h => (h.spoken hrole).symm

instance (t : Message) : Decidable t.KeepsImages :=
  decidable_of_iff _ t.pictures_eq_images_iff_keepsImages

end Message

/-! ## what is sent -/

/-- the address of an image part -/
def address? : Part → Option String
  | .image address _ => some address
  | .text _ | .audio .. => none

/-- the addresses of the images of a message -/
def addresses (m : ChatRelay.Message) : List String :=
  ((m.content.map Content.toParts).getD []).filterMap address?

/-- the images that go out with a message; results of tools go out as text -/
def imagesSent (m : ChatRelay.Message) : List ImageSource :=
  if m.role = .tool then [] else (lowerMessage m).images

theorem images_speechOfBlocks (word : String) (bs : List Block) :
    ({ role := word, content := speechOfBlocks bs } : Message).images
      = bs.flatMap Block.images := by
  rcases speechOfBlocks_cases bs with rfl | ⟨s, rfl⟩ | hblocks
  · rfl
  · rfl
  · rw [Message.images, Message.blocks, hblocks]

theorem images_thinkingBlocks (m : ChatRelay.Message) :
    (thinkingBlocks m).flatMap Block.images = [] := by
  rw [thinkingBlocks_eq]
  split
  · cases m.signature <;> rfl
  · rfl

theorem images_assistantBlocks (m : ChatRelay.Message) :
    (assistantBlocks m).flatMap Block.images = [] := by
  have hplain : (if m.plainText = "" then [] else [Block.text m.plainText]).flatMap Block.images
      = [] := by
    split <;> rfl
  have huses : (m.calls.map toolUseBlock).flatMap Block.images = [] := by
    rw [List.flatMap_map]
    exact List.flatMap_eq_nil_iff.mpr fun c _ => rfl
  rw [assistantBlocks, List.flatMap_append, List.flatMap_append, images_thinkingBlocks, hplain,
    huses, List.append_nil, List.append_nil]

theorem images_blockOfPart? (ps : List Part) :
    (ps.filterMap blockOfPart?).flatMap Block.images
      = (ps.filterMap address?).map sourceOfAddress := by
  induction ps with
  | nil => rfl
  | cons p ps ih =>
    cases p with
    | text s => exact ih
    | image address detail => exact congrArg (sourceOfAddress address :: ·) ih
    | audio data format => exact ih

/-- an assistant's turn takes no images along, a user's turn all of its message -/
theorem images_lowerMessage (m : ChatRelay.Message) :
    (lowerMessage m).images
      = if m.role = .assistant then [] else (addresses m).map sourceOfAddress := by
  unfold lowerMessage
  split
  · rw [images_speechOfBlocks, images_assistantBlocks]
  · rw [images_speechOfBlocks, images_blockOfPart?, addresses]

theorem images_results (ms : List ChatRelay.Message) : (Group.results ms).lower.images = [] := by
  show (ms.map resultBlock).flatMap Block.images = []
  rw [List.flatMap_map]
  exact List.flatMap_eq_nil_iff.mpr fun m _ => rfl

/-- the images of the turns that are sent are those that go out with their messages -/
theorem images_groupTurns (ms : List ChatRelay.Message) :
    ((groupTurns ms).map Group.lower).flatMap Message.images = ms.flatMap imagesSent := by
  induction ms with
  | nil => rfl
  | cons m ms ih =>
    rw [List.flatMap_cons, imagesSent]
    by_cases hm : m.role = .tool
    · rw [if_pos hm, List.nil_append, ← ih]
      rcases groupTurns_cons_tool hm ms with ⟨rs, gs, hms, hcons⟩ | ⟨-, hcons⟩
      · rw [hms, hcons, List.map_cons, List.map_cons, List.flatMap_cons, List.flatMap_cons,
          images_results, images_results]
      · rw [hcons, List.map_cons, List.flatMap_cons, images_results, List.nil_append]
    · rw [if_neg hm, groupTurns, if_neg hm, List.map_cons, List.flatMap_cons, ih]
      rfl

/-! ## what is read -/

theorem address?_part? (bs : List Block) :
    (bs.filterMap Block.part?).filterMap address?
      = (bs.flatMap Block.pictures).map ImageSource.address := by
  induction bs with
  | nil => rfl
  | cons b bs ih =>
    cases b with
    | image source => exact congrArg (source.address :: ·) ih
    | text _ | toolUse _ _ _ | toolResult _ _ _ | thinking _ _ | redacted _ => exact ih

theorem addresses_saidBy (role : Role) (bs : List Block) :
    addresses (saidBy role bs) = (bs.flatMap Block.pictures).map ImageSource.address := by
  rw [← address?_part?, addresses, saidBy]
  cases hparts : bs.filterMap Block.part? with
  | nil =>
    show (((bs.foldl addThought {}).message.content.map Content.toParts).getD []).filterMap _ = []
    unfold Turn.message
    split <;> rfl
  | cons p ps =>
    show (Content.ofParts (p :: ps)).toParts.filterMap address? = _
    rw [toParts_ofParts]

theorem imagesSent_ofText (role : Role) (s : String) : imagesSent (.ofText role s) = [] := by
  rw [imagesSent, images_lowerMessage]
  split
  · rfl
  · exact ite_self []

theorem imagesSent_saidBy {word : String} {role : Role} (h : liftRole word = .ok role)
    (bs : List Block) :
    imagesSent (saidBy role bs)
      = if word = "user" then (bs.flatMap Block.pictures).map ImageSource.resent else [] := by
  have hsaid : (saidBy role bs).role = role := rfl
  rw [imagesSent, images_lowerMessage, hsaid, addresses_saidBy, List.map_map]
  rcases liftRole_cases h with ⟨rfl, rfl⟩ | ⟨rfl, rfl⟩
  · rfl
  · rfl

theorem flatMap_imagesSent_toolMessages (bs : List Block) :
    (bs.filterMap Block.toolMessage?).flatMap imagesSent = [] :=
  List.flatMap_eq_nil_iff.mpr fun m hm => if_pos (role_toolMessages m hm)

/-- of what a turn is read as, the images go out that a user's turn holds as blocks of its own -/
theorem flatMap_imagesSent {t : Message} {ms : List ChatRelay.Message} (h : t.lift = .ok ms) :
    ms.flatMap imagesSent = t.pictures.map ImageSource.resent := by
  obtain ⟨role, hrole, h⟩ := ok_of_bind h
  unfold Message.pictures Message.blocks
  cases hcontent : t.content with
  | text s =>
    rw [hcontent] at h
    obtain rfl : [ChatRelay.Message.ofText role s] = ms := Except.ok.inj h
    rw [List.flatMap_singleton, imagesSent_ofText]
    exact (congrArg (List.map ImageSource.resent) (ite_self [])).symm
  | blocks bs =>
    rw [hcontent] at h
    obtain rfl : liftBlocks role bs = ms := Except.ok.inj h
    rw [liftBlocks_eq]
    split
    · next hsilent =>
      simp only [Bool.and_eq_true, List.isEmpty_iff] at hsilent
      have hnone : bs.flatMap Block.pictures = [] := by
        have hparts := address?_part? bs
        rw [hsilent.1.1] at hparts
        exact List.map_eq_nil_iff.mp hparts.symm
      rw [flatMap_imagesSent_toolMessages, hnone, ite_self]
      rfl
    · rw [List.flatMap_append, flatMap_imagesSent_toolMessages, List.nil_append,
        List.flatMap_singleton, imagesSent_saidBy hrole, apply_ite (List.map ImageSource.resent)]
      rfl

theorem flatMap_imagesSent_liftMessages {ts : List Message} {ms : List ChatRelay.Message}
    (h : liftMessages ts = .ok ms) :
    ms.flatMap imagesSent = (ts.flatMap Message.pictures).map ImageSource.resent := by
  induction ts generalizing ms with
  | nil =>
    obtain rfl : [] = ms := Except.ok.inj h
    rfl
  | cons t ts ih =>
    obtain ⟨xs, hxs, h⟩ := ok_of_bind h
    obtain ⟨ys, hys, h⟩ := ok_of_bind h
    obtain rfl : xs ++ ys = ms := Except.ok.inj h
    rw [List.flatMap_append, flatMap_imagesSent hxs, ih hys, List.flatMap_cons, List.map_append]

/-! ## all the way -/

/-- **Images that come through.**  The images of the request that is sent are those that users'
turns of the request that was read hold as blocks of their own, in order, each by way of its
address, and so unchanged where it is plain.  No image is missing exactly where all of them are such
blocks: an image in an assistant's turn or in a result of a tool is not sent. -/
theorem images_sent_iff (b later : Budgets) {q : Request} {u : ChatRelay.Request}
    (hu : q.lift b = .ok u) :
    (lowerRequest later u).images
      = (q.messages.flatMap Message.pictures).map ImageSource.resent ∧
    (∀ t ∈ q.messages, ∀ s ∈ t.pictures, s.Plain → s ∈ (lowerRequest later u).images) ∧
    ((lowerRequest later u).images = q.images.map ImageSource.resent ↔
      ∀ t ∈ q.messages, t.KeepsImages) := by
  obtain ⟨ms, hms, hsent⟩ := messages_lowerRequest hu later
  have himages : (lowerRequest later u).images
      = (q.messages.flatMap Message.pictures).map ImageSource.resent := by
    rw [Request.images, hsent, images_groupTurns, flatMap_imagesSent_liftMessages hms]
  have hparts : ∀ t ∈ q.messages, t.pictures.Sublist t.images := fun t _ => t.pictures_sublist
  have hall : (q.messages.flatMap Message.pictures).length = q.images.length ↔
      ∀ t ∈ q.messages, t.KeepsImages := by
    rw [Request.images, length_flatMap_eq_iff hparts]
    exact forall₂_congr fun t _ => t.pictures_eq_images_iff_keepsImages
  refine ⟨himages, fun t ht s hs hplain => ?_, ?_⟩
  · rw [himages]
    exact List.mem_map.mpr
      ⟨s, List.mem_flatMap.mpr ⟨t, ht, hs⟩, ImageSource.resent_of_plain hplain⟩
  · rw [himages, ← hall]
    constructor
    · intro heq
      simpa only [List.length_map] using congrArg List.length heq
    · intro hlength
      rw [(List.Sublist.flatMap_right q.messages hparts).eq_of_length hlength]
      rfl

/-- a question about two pictures -/
def pictured : Request :=
  { model := "m"
    maxTokens := some 100
    messages := [
      { role := "user", content := .blocks [
          .image (.base64 "image/png" "iVBOR"), .text "or", .image (.url "https://x/cat.png")] },
      { role := "assistant", content := .blocks [.toolUse "t" "look" .empty] },
      { role := "user", content := .blocks [.toolResult "t" (.text "a cat") none] }] }

theorem images_sent_iff_pictured :
    ∃ u, pictured.lift {} = .ok u ∧
      (lowerRequest {} u).images = [.base64 "image/png" "iVBOR", .url "https://x/cat.png"] ∧
      (lowerRequest {} u).images = pictured.images.map ImageSource.resent := by
  have hread : ∃ u, pictured.lift {} = .ok u ∧ u.model = "m" := by decide +kernel
  obtain ⟨u, hu, -⟩ := hread
  obtain ⟨himages, -, hall⟩ := images_sent_iff {} {} hu
  refine ⟨u, hu, himages.trans (by decide +kernel), hall.mpr (by decide +kernel)⟩

/-- a tool that gives a screenshot back -/
def screenshot : Request :=
  { model := "m"
    maxTokens := some 100
    messages := [
      { role := "user", content := .text "look" },
      { role := "assistant", content := .blocks [.toolUse "t" "shoot" .empty] },
      { role := "user", content := .blocks [
          .toolResult "t" (.blocks [.text "done", .image (.base64 "image/png" "iVBOR")]) none] }] }

/-- the picture that the tool gave back is not sent -/
theorem screenshot_lost :
    screenshot.images = [.base64 "image/png" "iVBOR"] ∧
    ∃ u, screenshot.lift {} = .ok u ∧
      (lowerRequest {} u).images = [] ∧
      (lowerRequest {} u).messages.getLast? = some
        { role := "user", content := .blocks [.toolResult "t" (.text "done") none] } := by
  decide +kernel

end ChatRelay.Anthropic
