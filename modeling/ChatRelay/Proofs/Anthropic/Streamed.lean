import ChatRelay.Proofs.Anthropic.Standing
import ChatRelay.Proofs.Assembly

/-!
# An answer and its stream

A backend may give an answer at once or stream it: who speaks, then every block under its place,
emptied, with growth that fills it again, then the stop reason.  Blocks may be cut into pieces
anywhere and grow in between each other.  The gathered stream is the response that the answer is.

* `Fills`              growth that fills an emptied block;
* `Streams`            events that bring the blocks of an answer;
* `collect_streamed`   the response of a streamed answer is that of the answer.
-/

namespace ChatRelay.Anthropic

/-! ## one block -/

/-- a block as it is announced: what has been withheld comes at once, all other content later -/
def Block.emptied : Block → Block
  | .text _ => .text ""
  | .thinking .. => .thinking "" none
  | .toolUse id name _ => .toolUse id name .empty
  | b => b

/-- growth that fills a block once it is announced, cut into pieces anywhere; a signature comes
whole, before, between or behind the pieces of its thinking -/
inductive Fills : Block → List Delta → Prop
  | text {s : String} (pieces : List String) (h : concat pieces = s) :
      Fills (.text s) (pieces.map .text)
  | thinking {thought : String} (pieces : List String) (h : concat pieces = thought) :
      Fills (.thinking thought none) (pieces.map .thinking)
  | signed {thought : String} (before : List String) (sign : String) (after : List String)
      (h : concat (before ++ after) = thought) :
      Fills (.thinking thought (some sign))
        (before.map .thinking ++ .signature sign :: after.map .thinking)
  | redacted (data : String) : Fills (.redacted data) []
  | toolUse (id name : String) {input : Json.Value} (pieces : List String)
      (h : concat pieces = input.render) : Fills (.toolUse id name input) (pieces.map .inputJson)

namespace Growing

/-- a block of an answer that has come whole; images and tool results say nothing -/
def whole : Block → Growing
  | .text s => .text s
  | .thinking thought signature => .thinking thought signature
  | .redacted data => .redacted data
  | .toolUse id name input => .toolUse id name input.render
  | .image _ | .toolResult .. => .text ""

theorem addTo_whole (t : Turn) (b : Block) : (whole b).addTo t = addBlock t b := by
  cases b <;> simp [whole, addTo, addBlock, Turn.addText]

theorem foldl_addTo_whole (bs : List Block) (t : Turn) :
    (bs.map whole).foldl addTo t = bs.foldl addBlock t := by
  rw [List.foldl_map]
  simp only [addTo_whole]

/-- a block that takes pieces of one kind ends up with all of them joined -/
theorem foldl_grow_pieces {hold : String → Growing} {piece : String → Delta}
    (h : ∀ s more, (hold s).grow (piece more) = hold (s ++ more)) (pieces : List String)
    (s : String) : (pieces.map piece).foldl grow (hold s) = hold (s ++ concat pieces) := by
  induction pieces generalizing s with
  | nil => simp
  | cons more pieces ih =>
    rw [List.map_cons, List.foldl_cons, h, ih, concat_cons, String.append_assoc]

theorem foldl_grow_text (pieces : List String) (s : String) :
    (pieces.map Delta.text).foldl grow (.text s) = .text (s ++ concat pieces) :=
  foldl_grow_pieces (fun _ _ => rfl) pieces s

theorem foldl_grow_thinking (pieces : List String) (s : String) (signature : Option String) :
    (pieces.map Delta.thinking).foldl grow (.thinking s signature)
      = .thinking (s ++ concat pieces) signature :=
  @foldl_grow_pieces (.thinking · signature) .thinking (fun _ _ => rfl) pieces s

end Growing

/-- an announced block that is filled stands whole -/
theorem Fills.standing {b : Block} {ds : List Delta} (h : Fills b ds) (i : UInt32) :
    standing (.blockStart i b.emptied :: ds.map (.blockDelta i)) = some (Growing.whole b) := by
  cases h with
  | text pieces hs =>
    have hstart : Growing.ofBlock? (.text "") = some (.text "") := rfl
    rw [Block.emptied, standing_of_start hstart, Growing.foldl_grow_text, String.empty_append, hs,
      Growing.whole]
  | thinking pieces hs =>
    have hstart : Growing.ofBlock? (.thinking "" none) = some (.thinking "" none) := rfl
    rw [Block.emptied, standing_of_start hstart, Growing.foldl_grow_thinking, String.empty_append,
      hs, Growing.whole]
  | signed before sign after hs =>
    have hstart : Growing.ofBlock? (.thinking "" none) = some (.thinking "" none) := rfl
    rw [Block.emptied, standing_of_start hstart, List.foldl_append, Growing.foldl_grow_thinking,
      List.foldl_cons, Growing.grow, Growing.foldl_grow_thinking, String.empty_append,
      ← concat_append, hs, Growing.whole]
  | redacted data =>
    have hstart : Growing.ofBlock? (.redacted data) = some (.redacted data) := rfl
    exact standing_of_start hstart []
  | toolUse id name pieces hs =>
    have hstart : Growing.ofBlock? (.toolUse id name .empty) = some (.toolUse id name "") := rfl
    have hpieces : (pieces.map Delta.inputJson).filterMap Delta.input? = pieces := by
      simp [List.filterMap_map, Function.comp_def, Delta.input?]
    rw [Block.emptied, standing_of_start hstart, Growing.foldl_grow_toolUse, hpieces,
      String.empty_append, hs, Growing.whole]

/-! ## the blocks of an answer -/

/-- events that bring the blocks of an answer: every block is announced under its place and
filled, and whatever else comes is about none of them -/
structure Streams (content : List Block) (body : List Event) : Prop where
  inner : ∀ e ∈ body, e.isInner = true
  within : ∀ e ∈ body, ∀ i ∈ e.block?, i.toNat < content.length
  filled : ∀ k b, content[k]? = some b → ∃ (i : UInt32) (ds : List Delta), i.toNat = k ∧
    Fills b ds ∧ about i body = .blockStart i b.emptied :: ds.map (.blockDelta i)

namespace Streams

variable {content : List Block} {body : List Event}

theorem length_le (h : Streams content body) : content.length ≤ UInt32.size := by
  refine Nat.le_of_not_lt fun hlt => ?_
  -- the block behind the last place would have to be announced under its place
  obtain ⟨i, -, hi, -⟩ := h.filled UInt32.size _ (List.getElem?_eq_getElem hlt)
  exact absurd hi (Nat.ne_of_lt i.toNat_lt_size)

theorem standing_about (h : Streams content body) (i : UInt32) :
    standing (about i body) = (content.map Growing.whole)[i.toNat]? := by
  rw [List.getElem?_map]
  cases hb : content[i.toNat]? with
  | some b =>
    obtain ⟨j, ds, hj, hfills, habout⟩ := h.filled _ b hb
    obtain rfl : j = i := UInt32.toNat_inj.mp hj
    rw [habout, hfills.standing]
    rfl
  | none =>
    have hnone : about i body = [] := by
      refine List.filter_eq_nil_iff.mpr fun e he hei => ?_
      have hlt := h.within e he i (of_decide_eq_true hei)
      exact absurd hlt (Nat.not_lt.mpr (List.getElem?_eq_none_iff.mp hb))
    rw [hnone]
    rfl

theorem blocks_gathered (h : Streams content body) (m : Answer) :
    (gathered (.messageStart m :: body)).blocks = Slots.numbered (content.map Growing.whole) := by
  have hlength : (content.map Growing.whole).length ≤ UInt32.size := by
    rw [List.length_map]
    exact h.length_le
  refine Slots.eq_of_find? (sorted_gathered _) (Slots.sorted_numbered hlength) fun i => ?_
  rw [find?_gathered, Slots.find?_numbered hlength]
  exact h.standing_about i

end Streams

/-! ## the answer -/

/-- events that stream an answer -/
inductive Streamed (w : Answer) : List Event → Prop
  | intro {m : Answer} {body : List Event} {ending : Ending} {tail : List Event}
      (speaker : m.id = w.id ∧ m.model = w.model) (usage : m.usage = w.usage)
      (blocks : Streams w.content body)
      (stops : w.stopReason.isSome) (reason : ending.stopReason = w.stopReason)
      (idle : ∀ e ∈ tail, e.isIdle = true) :
      Streamed w (.messageStart m :: body ++ .messageDelta ending (some w.usage) :: tail)

namespace Streamed

variable {w : Answer} {es : List Event}

theorem silent (h : Streamed w es) : ∀ e ∈ es, e.name ≠ "error" := by
  obtain ⟨-, -, blocks, -, -, idle⟩ := h
  intro e he
  rcases List.mem_append.mp he with he | he
  · rcases List.mem_cons.mp he with rfl | he
    · simp [Event.name]
    · have hinner := blocks.inner e he
      cases e <;> simp_all [Event.isInner, Event.name]
  · rcases List.mem_cons.mp he with rfl | he
    · simp [Event.name]
    · exact Event.name_ne_of_isIdle (idle e he)

theorem gathered_eq (h : Streamed w es) :
    ∃ n, gathered es = {
      id := w.id
      model := w.model
      blocks := Slots.numbered (w.content.map Growing.whole)
      stopReason := w.stopReason
      usage := some w.usage.lift
      count := n } := by
  obtain @⟨m, body, ending, tail, speaker, usage, blocks, -, reason, idle⟩ := h
  have hblocks := blocks.blocks_gathered m
  have hshell : (gathered (.messageStart m :: body)).shell
      = { id := m.id, model := m.model, usage := some m.usage.lift } :=
    shell_gathered [.messageStart m] blocks.inner
  obtain ⟨hid, hmodel, -, hstop, husage, -⟩ := Collected.mk.inj hshell
  -- the usage is reported twice, and a report merged with itself is the report
  have hsums : w.usage.lift.Sums := rfl
  rw [List.append_cons, gathered_idles _ idle, gathered_snoc]
  simp only [Collected.push, Collected.note]
  rw [hid, hmodel, hblocks, hstop, husage, speaker.1, speaker.2, usage, reason, Option.or_none,
    Option.map_some, ChatRelay.Usage.merge?, ChatRelay.Usage.merge_self hsums]
  exact ⟨_, rfl⟩

end Streamed

/-- **A streamed answer.**  Events that stream an answer, its blocks cut into pieces anywhere and
growing in between each other, are gathered to the response that the answer is. -/
theorem collect_streamed {w : Answer} {es : List Event} (h : Streamed w es) (now : UInt64) :
    collect now es = .ok (w.lift now) := by
  have hne : es ≠ [] := by
    cases h
    simp
  have hsilent := h.silent
  obtain ⟨reason, hreason⟩ : ∃ reason, w.stopReason = some reason := by
    obtain ⟨-, -, -, stops, -, -⟩ := h
    exact Option.isSome_iff_exists.mp stops
  obtain ⟨n, hgathered⟩ := h.gathered_eq
  have htold : told es = w.content.foldl addBlock {} := by
    rw [told, hgathered, Slots.values_numbered, Growing.foldl_addTo_whole]
  rw [collect_eq hsilent hne, htold, hgathered, Answer.lift, hreason]
  rfl

/-- an answer of signed thinking, two tool uses, text and withheld thinking -/
def remark : Answer :=
  { id := "m"
    content := [
      .thinking "hm" (some "sig"), .toolUse "t" "look" ⟨.object [("to", .text "sea")], by decide⟩,
      .text "I look", .toolUse "u" "wait" .empty, .redacted "r"]
    stopReason := some "tool_use"
    usage := { input := 3, output := 5 } }

/-- its blocks in pieces that come in between each other -/
def remarkBody : List Event :=
  [ .blockStart 2 (.text ""),
    .blockStart 0 (.thinking "" none),
    .blockDelta 0 (.thinking "h"),
    .blockDelta 2 (.text "I "),
    .blockStart 1 (.toolUse "t" "look" .empty),
    .blockDelta 0 (.signature "sig"),
    .blockDelta 1 (.inputJson "\x7b\"to\":"),
    .ping,
    .blockDelta 0 (.thinking "m"),
    .blockStop 0,
    .blockStart 4 (.redacted "r"),
    .blockDelta 2 (.text "look"),
    .blockStart 3 (.toolUse "u" "wait" .empty),
    .blockDelta 1 (.inputJson "\"sea\"\x7d"),
    .blockDelta 3 (.inputJson "\x7b\x7d") ]

theorem collect_streamed_remark :
    collect 7 (.messageStart { id := "m", usage := { input := 3, output := 5 } } :: remarkBody
        ++ .messageDelta { stopReason := some "tool_use" } (some { input := 3, output := 5 })
          :: [.messageStop]) = .ok (remark.lift 7) := by
  have hblocks : Streams remark.content remarkBody := {
    inner := by simp [remarkBody, Event.isInner]
    within := by simp [remarkBody, remark, Event.block?]
    filled := by
      intro k b hb
      rcases k with _ | _ | _ | _ | _ | k
      · obtain rfl := Option.some.inj hb
        exact ⟨0, _, rfl, .signed ["h"] "sig" ["m"] (by decide), rfl⟩
      · obtain rfl := Option.some.inj hb
        have hinput : Fills (.toolUse "t" "look" ⟨.object [("to", .text "sea")], by decide⟩) _ :=
          .toolUse "t" "look" ["\x7b\"to\":", "\"sea\"\x7d"] (by decide +kernel)
        exact ⟨1, _, rfl, hinput, rfl⟩
      · obtain rfl := Option.some.inj hb
        exact ⟨2, _, rfl, .text ["I ", "look"] (by decide), rfl⟩
      · obtain rfl := Option.some.inj hb
        exact ⟨3, _, rfl, .toolUse "u" "wait" ["\x7b\x7d"] (by decide +kernel), rfl⟩
      · obtain rfl := Option.some.inj hb
        exact ⟨4, _, rfl, .redacted "r", rfl⟩
      · simp [remark] at hb }
  exact collect_streamed (.intro ⟨rfl, rfl⟩ rfl hblocks rfl rfl (by decide)) 7

end ChatRelay.Anthropic
