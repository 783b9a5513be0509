import ChatRelay.Dialect.Anthropic.Stream
import ChatRelay.Proofs.FieldOrder

/-!
# The written form of stream events

An event of a stream comes back from what it is written as, whatever its blocks hold and however
deep their results nest.  Its tag is the name that it is sent under.  The events that fragments are
rendered as hold no free-form value but an empty one, so that they also come back from their text,
and what is rendered for a caller of messages is what a backend of messages is understood to send.

* `Block.ofJsonWithin_given`   a block, by recursion on the results that it holds;
* `Event.reads`, `Event.type_given`   an event, and its tag;
* `Emitted`, `BlockStream.emitted_run`   the events that fragments are rendered as;
* `events_return`              both, and a rendered stream as it is lifted.
-/

namespace ChatRelay.Anthropic

open Json

/-! ## blocks -/

theorem ImageSource.reads (s : ImageSource) : Reads ofJson s.toJson s := by
  intro w hw
  cases s with
  | base64 mediaType data =>
    simp only [toJson, field_eq_filled, filled_append] at hw
    obtain ⟨r, hr, h, htag⟩ := hw.tagged ["media_type", "data"] rfl (by decide)
    have htype := h.require "media_type" rfl (.text mediaType)
    have hdata := h.require "data" rfl (.text data)
    simp only [ofJson, htag .held tags (by decide), hr, htype, hdata, bind, Except.bind]
    rfl
  | url address =>
    obtain ⟨r, hr, haddress, htag⟩ := hw.taggedText (by decide)
    simp only [ofJson, htag .held tags (by decide), hr, haddress, bind, Except.bind]
    rfl

/-- the document of what a tool gave back, none where it gave nothing -/
def ToolOutput.document? : ToolOutput Block → Option Json
  | .missing => none
  | .text t => some (.text t)
  | .blocks bs => some (.array (Block.toJsons bs))

namespace Block

theorem outputFields_eq_filled (output : ToolOutput Block) :
    outputFields output = filled [("content", output.document?)] := by
  cases output <;> rfl

mutual
/-- a block is read whatever its results hold, with as many levels as what is given is deep -/
theorem ofJsonWithin_given : (b : Block) → ∀ {levels : Nat} (access : Access) {w : Json},
    Given b.toJson w → w.depth < levels → ofJsonWithin levels access w = .ok b
  | b, 0, access, w, hw, hdepth => absurd hdepth (Nat.not_lt_zero _)
  | .text t, levels + 1, access, w, hw, hdepth => by
    obtain ⟨r, hr, htext, htag⟩ := hw.taggedText (by decide)
    simp only [ofJsonWithin, htag access tags (by decide), hr, htext, bind, Except.bind]
    rfl
  | .image source, levels + 1, access, w, hw, hdepth => by
    rw [toJson, field_eq_filled] at hw
    obtain ⟨r, hr, h, htag⟩ := hw.tagged ["source"] rfl (by decide)
    have hsource := h.require "source" rfl source.reads
    simp only [ofJsonWithin, htag access tags (by decide), hr, hsource, bind, Except.bind]
    rfl
  | .toolUse id name input, levels + 1, access, w, hw, hdepth => by
    simp only [toJson, field_eq_filled, filled_append] at hw
    obtain ⟨r, hr, h, htag⟩ := hw.tagged ["id", "name", "input"] rfl (by decide)
    have hid := h.require "id" rfl (.text id)
    have hname := h.require "name" rfl (.text name)
    have hinput := h.require "input" rfl (.value input)
    simp only [ofJsonWithin, htag access tags (by decide), hr, hid, hname, hinput, bind,
      Except.bind]
    rfl
  | .toolResult toolUseId output failed, levels + 1, access, w, hw, hdepth => by
    simp only [toJson, field_eq_filled, fieldOf?_eq_filled, outputFields_eq_filled,
      filled_append] at hw
    obtain ⟨r, hr, h, htag⟩ := hw.tagged ["tool_use_id", "content", "is_error"] rfl (by decide)
    have hid := h.require "tool_use_id" rfl (.text toolUseId)
    have hfailed := h.bool? "is_error" rfl
    have hlevels : ∀ j ∈ r.find? "content", j.depth < levels := fun j hj =>
      Nat.lt_of_lt_of_le (Record.depth_find?_lt (hr []) hj) (Nat.le_of_lt_succ hdepth)
    have houtput := outputOfJson_given output (h "content") hlevels
    simp only [ofJsonWithin, htag access tags (by decide), hr, hid, hfailed, houtput, bind,
      Except.bind]
    rfl
  | .thinking thought signature, levels + 1, access, w, hw, hdepth => by
    simp only [toJson, field_eq_filled, fieldOf?_eq_filled, filled_append] at hw
    obtain ⟨r, hr, h, htag⟩ := hw.tagged ["thinking", "signature"] rfl (by decide)
    have hthought := h.require "thinking" rfl (.text thought)
    have hsignature := h.text? "signature" rfl
    simp only [ofJsonWithin, htag access tags (by decide), hr, hthought, hsignature, bind,
      Except.bind]
    rfl
  | .redacted data, levels + 1, access, w, hw, hdepth => by
    obtain ⟨r, hr, hdata, htag⟩ := hw.taggedText (by decide)
    simp only [ofJsonWithin, htag access tags (by decide), hr, hdata, bind, Except.bind]
    rfl

theorem outputOfJson_given : (output : ToolOutput Block) → ∀ {levels : Nat} {w : Option Json},
    Option.Rel Given output.document? w → (∀ j ∈ w, j.depth < levels) →
      outputOfJson (ofJsonWithin levels .held) w = .ok output
  | .missing, levels, w, hw, hlevels => by
    cases hw
    rfl
  | .text t, levels, w, hw, hlevels => by
    obtain ⟨hw⟩ := hw
    rw [hw.eq_of_canonical rfl]
    rfl
  | .blocks bs, levels, w, hw, hlevels => by
    obtain ⟨hw⟩ := hw
    obtain ⟨ws, rfl, hws⟩ := hw.items
    have hread := readAll_given bs hws (Nat.lt_of_succ_lt (hlevels _ rfl))
    show (readAll (ofJsonWithin levels .held) ws).map ToolOutput.blocks = _
    rw [hread]
    rfl

theorem readAll_given : (bs : List Block) → ∀ {levels : Nat} {ws : List Json},
    List.Forall₂ Given (toJsons bs) ws → depthItems ws < levels →
      readAll (ofJsonWithin levels .held) ws = .ok bs
  | [], levels, _, .nil, hlevels => rfl
  | b :: bs, levels, w :: ws, .cons hw hws, hlevels => by
    have hfirst := ofJsonWithin_given b .held hw
      (Nat.lt_of_le_of_lt (Nat.le_max_left _ _) hlevels)
    have hrest := readAll_given bs hws (Nat.lt_of_le_of_lt (Nat.le_max_right _ _) hlevels)
    rw [readAll, hfirst, hrest]
end

theorem reads (b : Block) (access : Access) : Reads (ofJson access) b.toJson b :=
  fun w hw => b.ofJsonWithin_given access hw (Nat.lt_succ_self w.depth)

mutual
@[simp] theorem meaningful_toJson : (b : Block) → b.toJson.Meaningful
  | .text t => by simp [toJson]
  | .image (.base64 mediaType data) => by simp [toJson, ImageSource.toJson]
  | .image (.url address) => by simp [toJson, ImageSource.toJson]
  | .toolUse id name input => by simp [toJson]
  | .toolResult toolUseId output failed => by simp [toJson, meaningful_outputFields output]
  | .thinking thought signature => by simp [toJson]
  | .redacted data => by simp [toJson]

theorem meaningful_outputFields : (output : ToolOutput Block) →
    EachField Meaningful (outputFields output)
  | .missing => by simp [outputFields]
  | .text t => by simp [outputFields]
  | .blocks bs => by simpa [outputFields] using meaningful_toJsons bs

theorem meaningful_toJsons : (bs : List Block) → ∀ j ∈ toJsons bs, j.Meaningful
  | [] => nofun
  | b :: bs => List.forall_mem_cons.mpr ⟨meaningful_toJson b, meaningful_toJsons bs⟩
end

end Block

/-! ## answers -/

namespace Usage

theorem reads (u : Usage) : Reads ofJson u.toJson u := by
  intro w hw
  simp only [toJson, field_eq_filled, fieldOf?_eq_filled, filled_append] at hw
  obtain ⟨r, hr, h⟩ := hw.record ["input_tokens", "output_tokens", "cache_creation_input_tokens",
    "cache_read_input_tokens"] rfl (by decide)
  have hinput := h.getD "input_tokens" 0 rfl (.word32 u.input)
  have houtput := h.getD "output_tokens" 0 rfl (.word32 u.output)
  have hwritten := h.word32? "cache_creation_input_tokens" rfl
  have hread := h.word32? "cache_read_input_tokens" rfl
  simp only [ofJson, hr, hinput, houtput, hwritten, hread, bind, Except.bind]
  rfl

@[simp] theorem meaningful_toJson (u : Usage) : u.toJson.Meaningful := by simp [toJson]

@[simp] theorem fits_toJson (u : Usage) (n : Nat) : u.toJson.Fits (n + 1) := by simp [toJson]

end Usage

namespace Answer

/-- the reasons of an answer are written also where there are none -/
theorem reads (p : Answer) (access : Access) : Reads (ofJson access) p.toJson p := by
  intro w hw
  simp only [toJson, field_eq_filled, filled_append] at hw
  obtain ⟨r, hr, h⟩ := hw.record ["id", "type", "role", "content", "model", "stop_reason",
    "stop_sequence", "usage"] rfl (by decide)
  have hid := h.require "id" rfl (.text p.id)
  have hkind := h.getD "type" "message" rfl (.text p.kind)
  have hrole := h.getD "role" "assistant" rfl (.text p.role)
  have hcontent := h.getD "content" [] rfl (.list fun b _ => b.reads access)
  have hmodel := h.getD "model" "" rfl (.text p.model)
  have hreason := h.textOrNull "stop_reason" rfl
  have hsequence := h.textOrNull "stop_sequence" rfl
  have husage := h.getD "usage" {} rfl p.usage.reads
  simp only [ofJson, hr, hid, hkind, hrole, hcontent, hmodel, hreason, hsequence, husage, bind,
    Except.bind]
  rfl

end Answer

/-! ## events -/

theorem ErrorDetail.reads (e : ErrorDetail) : Reads ofJson e.toJson e := by
  intro w hw
  simp only [toJson, field_eq_filled, filled_append] at hw
  obtain ⟨r, hr, h⟩ := hw.record ["type", "message"] rfl (by decide)
  have hkind := h.require "type" rfl (.text e.kind)
  have hmessage := h.require "message" rfl (.text e.message)
  simp only [ofJson, hr, hkind, hmessage, bind, Except.bind]
  rfl

namespace Delta

theorem reads (d : Delta) : Reads ofJson d.toJson d := by
  intro w hw
  cases d with
  | text s =>
    obtain ⟨r, hr, htext, htag⟩ := hw.taggedText (by decide)
    simp only [ofJson, htag .held tags (by decide), hr, htext, bind, Except.bind]
    rfl
  | inputJson fragment =>
    obtain ⟨r, hr, hfragment, htag⟩ := hw.taggedText (by decide)
    simp only [ofJson, htag .held tags (by decide), hr, hfragment, bind, Except.bind]
    rfl
  | thinking thought =>
    obtain ⟨r, hr, hthought, htag⟩ := hw.taggedText (by decide)
    simp only [ofJson, htag .held tags (by decide), hr, hthought, bind, Except.bind]
    rfl
  | signature sign =>
    obtain ⟨r, hr, hsign, htag⟩ := hw.taggedText (by decide)
    simp only [ofJson, htag .held tags (by decide), hr, hsign, bind, Except.bind]
    rfl

@[simp] theorem meaningful_toJson (d : Delta) : d.toJson.Meaningful := by
  cases d <;> simp [toJson]

@[simp] theorem fits_toJson (d : Delta) (n : Nat) : d.toJson.Fits (n + 1) := by
  cases d <;> simp [toJson]

end Delta

namespace Ending

theorem reads (e : Ending) : Reads ofJson e.toJson e := by
  intro w hw
  simp only [toJson, field_eq_filled, filled_append] at hw
  obtain ⟨r, hr, h⟩ := hw.record ["stop_reason", "stop_sequence"] rfl (by decide)
  have hreason := h.textOrNull "stop_reason" rfl
  have hsequence := h.textOrNull "stop_sequence" rfl
  simp only [ofJson, hr, hreason, hsequence, bind, Except.bind]
  rfl

end Ending

namespace Event

theorem name_mem_tags (e : Event) : e.name ∈ tags := by cases e <;> simp [name, tags]

/-- the fields of an event besides its tag, where there is something to write for them -/
def entries : Event → List (String × Option Json)
  | .messageStart message => [("message", some message.toJson)]
  | .blockStart index block =>
    [("index", some (ofWord32 index)), ("content_block", some block.toJson)]
  | .blockDelta index delta => [("index", some (ofWord32 index)), ("delta", some delta.toJson)]
  | .blockStop index => [("index", some (ofWord32 index))]
  | .messageDelta ending usage =>
    [("delta", some ending.toJson), ("usage", usage.map Usage.toJson)]
  | .messageStop | .ping => []
  | .error detail => [("error", some detail.toJson)]

theorem toJson_eq_tagged (e : Event) : e.toJson = tagged e.name (filled e.entries) := by
  cases e with
  | messageDelta ending usage => cases usage <;> rfl
  | _ => rfl

theorem nodup_entries (e : Event) : ("type" :: e.entries.map (·.1)).Nodup := by
  cases e <;> simp [entries]

/-- an event is known by its name and read from its fields -/
theorem reads (e : Event) : Reads ofJson e.toJson e := by
  intro w hw
  rw [toJson_eq_tagged] at hw
  obtain ⟨r, hr, h, htag⟩ := hw.tagged _ rfl e.nodup_entries
  have htag := htag .direct tags e.name_mem_tags
  cases e with
  | messageStart message =>
    have hmessage := h.require "message" rfl (message.reads .held)
    simp only [ofJson, htag, name, hr, hmessage, bind, Except.bind]
    rfl
  | blockStart index block =>
    have hindex := h.require "index" rfl (.word32 index)
    have hblock := h.require "content_block" rfl (block.reads .held)
    simp only [ofJson, htag, name, hr, hindex, hblock, bind, Except.bind]
    rfl
  | blockDelta index delta =>
    have hindex := h.require "index" rfl (.word32 index)
    have hdelta := h.require "delta" rfl delta.reads
    simp only [ofJson, htag, name, hr, hindex, hdelta, bind, Except.bind]
    rfl
  | blockStop index =>
    have hindex := h.require "index" rfl (.word32 index)
    simp only [ofJson, htag, name, hr, hindex, bind, Except.bind]
    rfl
  | messageDelta ending usage =>
    have hending := h.require "delta" rfl ending.reads
    have husage := h.get? "usage" rfl fun u _ => ⟨nofun, Usage.reads u⟩
    simp only [ofJson, htag, name, hr, hending, husage, bind, Except.bind]
    rfl
  | messageStop | ping =>
    simp only [ofJson, htag, name, hr, bind, Except.bind]
    rfl
  | error detail =>
    have hdetail := h.require "error" rfl detail.reads
    simp only [ofJson, htag, name, hr, hdetail, bind, Except.bind]
    rfl

/-- whatever is given for an event says its name in the field `type` -/
theorem type_given {e : Event} {w : Json} (hw : Given e.toJson w) :
    ∃ fs, w = .object fs ∧ fs.lookup "type" = some (.text e.name) := by
  rw [toJson_eq_tagged] at hw
  rw [tagged_filled] at hw
  obtain ⟨gs, rfl, -, h⟩ := hw.object rfl e.nodup_entries
  exact ⟨gs, rfl, h.tag List.lookup_cons_self⟩

theorem meaningful_toJson (e : Event) : e.toJson.Meaningful := by
  cases e <;> simp [toJson, Answer.toJson, Ending.toJson, ErrorDetail.toJson]

end Event

/-! ## the events that fragments are rendered as -/

/-- an event of a stream of fragments: its message starts without content, its blocks start empty -/
inductive Emitted : Event → Prop
  | start (id model : String) : Emitted (.messageStart { id, model })
  | text (i : UInt32) : Emitted (.blockStart i (.text ""))
  | thinking (i : UInt32) : Emitted (.blockStart i (.thinking "" none))
  | toolUse (i : UInt32) (id name : String) : Emitted (.blockStart i (.toolUse id name .empty))
  | delta (i : UInt32) (d : Delta) : Emitted (.blockDelta i d)
  | stop (i : UInt32) : Emitted (.blockStop i)
  | ending (e : Ending) (u : Usage) : Emitted (.messageDelta e (some u))
  | last : Emitted .messageStop

/-- an event of this kind is read from its text -/
theorem Emitted.fits {e : Event} (h : Emitted e) : e.toJson.Fits 3 := by
  cases h <;> simp [Event.toJson, Answer.toJson, Block.toJson, Ending.toJson, Value.empty]

namespace BlockStream

namespace Progress

/-- the events given so far are of this kind -/
def Emits (p : Progress) : Prop := ∀ e ∈ p.events, Emitted e

namespace Emits

variable {p : Progress}

theorem emit (h : p.Emits) {e : Event} (he : Emitted e) : (p.emit e).Emits :=
  List.forall_mem_append.mpr ⟨h, List.forall_mem_singleton.mpr he⟩

theorem start (h : p.Emits) (a : Ambient) (c : Response) : (p.start a c).Emits := by
  unfold Progress.start
  split
  · exact h
  · exact h.emit (.start _ _)

theorem closeCurrent (h : p.Emits) : p.closeCurrent.Emits := by
  unfold Progress.closeCurrent
  split
  · exact h.emit (.stop _)
  · exact h

theorem closeAll (h : p.Emits) : p.closeAll.Emits :=
  List.forall_mem_append.mpr ⟨h.closeCurrent, List.forall_mem_map.mpr fun i _ => .stop i⟩

theorem openBlock (h : p.Emits) {b : Block} (hb : ∀ i, Emitted (.blockStart i b)) :
    (p.openBlock b).Emits := h.closeCurrent.emit (hb _)

theorem addText (h : p.Emits) (text : String) : (p.addText text).Emits := by
  unfold Progress.addText
  split
  · exact h.emit (.delta _ _)
  · exact (h.openBlock .text).emit (.delta _ _)

theorem addThinking (h : p.Emits) (d : Delta) : (p.addThinking d).Emits := by
  unfold Progress.addThinking
  split
  · exact h.emit (.delta _ _)
  · exact (h.openBlock .thinking).emit (.delta _ _)

theorem addArguments (h : p.Emits) (i : UInt32) (arguments : String) :
    (p.addArguments i arguments).Emits := by
  unfold Progress.addArguments
  split
  · exact h
  · exact h.emit (.delta _ _)

theorem addCall (h : p.Emits) (a : Ambient) (c : ToolCall) : (p.addCall a c).Emits := by
  unfold Progress.addCall
  split
  · split
    · exact h.addArguments _ _
    · exact h
  · refine addArguments ?_ _ _
    exact h.openBlock fun i => .toolUse i _ _

theorem addCalls (h : p.Emits) (a : Ambient) (cs : List ToolCall) :
    (cs.foldl (Progress.addCall a) p).Emits := by
  induction cs generalizing p with
  | nil => exact h
  | cons c cs ih => exact ih (h.addCall a c)

theorem addDelta (h : p.Emits) (a : Ambient) (m : ChatRelay.Message) : (p.addDelta a m).Emits := by
  have hsay {q : Progress} (hq : q.Emits) :
      (if m.plainText = "" then q else q.addText m.plainText).Emits := by
    split
    · exact hq
    · exact hq.addText m.plainText
  unfold Progress.addDelta
  refine addCalls ?_ a m.calls
  cases nonEmpty? m.reasoning with
  | none =>
    cases nonEmpty? m.signature with
    | none => exact hsay h
    | some sign => exact hsay (h.addThinking (.signature sign))
  | some thought =>
    have hthought := h.addThinking (.thinking thought)
    cases nonEmpty? m.signature with
    | none => exact hsay hthought
    | some sign => exact hsay (hthought.addThinking (.signature sign))

theorem stop (h : p.Emits) (reason : FinishReason) : (p.stop reason).Emits :=
  List.forall_mem_append.mpr ⟨h.closeAll,
    List.forall_mem_cons.mpr ⟨.ending _ _, List.forall_mem_singleton.mpr .last⟩⟩

theorem finishWith (h : p.Emits) (reason : Option FinishReason) : (p.finishWith reason).Emits := by
  unfold Progress.finishWith
  split
  · exact h.closeAll
  · exact h

theorem report (h : p.Emits) (usage : Option ChatRelay.Usage) : (p.report usage).Emits := by
  unfold Progress.report
  split
  · exact h
  · dsimp only
    split
    · refine stop ?_ _
      exact h
    · exact h

theorem finish (h : p.Emits) (a : Ambient) : (p.finish a).Emits := by
  refine stop ?_ _
  exact h.start a {}

end Emits

end Progress

theorem emitted_step (s : BlockStream) (a : Ambient) (c : Response) :
    ∀ e ∈ (s.step a c).1, Emitted e := by
  have hnone : Progress.Emits { events := [], state := s } := nofun
  have hstart := hnone.start a c
  unfold step
  split
  · exact nofun
  · split
    · exact hnone.finish a
    · refine Progress.Emits.report ?_ c.usage
      split
      · next choice _ =>
        cases choice.fragment? with
        | none => exact hstart.finishWith choice.finish
        | some m => exact (hstart.addDelta a m).finishWith choice.finish
      · exact hstart

theorem emitted_run (s : BlockStream) (a : Ambient) (cs : List Response) :
    ∀ e ∈ (s.run a cs).1, Emitted e := by
  induction cs generalizing s with
  | nil => exact nofun
  | cons c cs ih =>
    rw [run_cons]
    exact List.forall_mem_append.mpr ⟨s.emitted_step a c, ih _⟩

end BlockStream

/-! ## from text to text -/

/-- the terminator has no brace in it, so that no event is taken for it -/
theorem isDoneFromBackend_renderEvent (e : Event) :
    (renderEvent e).isDoneFromBackend = false := by
  have hbrace : '\x7b' ∈ e.toJson.chars := List.mem_cons_self
  have hkept := Text.mem_trimChars hbrace (by decide)
  refine decide_eq_false fun hdone => ?_
  have hchars : Text.trimChars e.toJson.chars = doneMarker.toList := by
    rw [← hdone]
    simp [renderEvent, Text.trim, render]
  rw [hchars] at hkept
  exact absurd hkept (by decide)

theorem eventOf?_renderEvent {e : Event} (h : Emitted e) : eventOf? (renderEvent e) = some e := by
  have hparse : parse Event.ofJson (renderEvent e).data = .ok e :=
    e.reads.parse_render h.fits (by decide)
  rw [eventOf?, hparse]

section

variable {es : List Event}

theorem map_eventOf?_renderEvent (h : ∀ e ∈ es, Emitted e) :
    (es.map renderEvent).map eventOf? = es.map some := by
  rw [List.map_map]
  exact List.map_congr_left fun e he => eventOf?_renderEvent (h e he)

/-- what is rendered is lifted as the events it was rendered from -/
theorem map_liftStep_renderEvent (h : ∀ e ∈ es, Emitted e) (s : Fragments) :
    (es.map renderEvent).map (liftStep s) = es.map s.step := by
  rw [List.map_map]
  refine List.map_congr_left fun e he => ?_
  rw [Function.comp_apply, liftStep, isDoneFromBackend_renderEvent,
    eventOf?_renderEvent (h e he)]
  rfl

end

theorem items_renderFeed (a : Ambient) (x : Feed Response) :
    (renderFeed a x).items = (BlockStream.run a {} x.items).1.map renderEvent := by
  have hscan (s : BlockStream) (cs : List Response) (ending : Option Fault) :
      (Feed.scanItems (fun (s : BlockStream) c =>
          .ok ((BlockStream.step a s c).1.map renderEvent, (BlockStream.step a s c).2))
        (fun _ => .ok []) s cs ending).1 = (s.run a cs).1.map renderEvent := by
    induction cs generalizing s with
    | nil => cases ending <;> rfl
    | cons c cs ih =>
      rw [BlockStream.run_cons, List.map_append, ← ih]
      rfl
  rw [renderFeed, Feed.items_scan]
  exact hscan {} x.items x.fault?

/-- **Stream events that are written and read again.**  Every event comes back from the value that
it is written as, which has for its type the name that the event is sent under.  What a stream of
fragments is rendered as is read event for event where it is lifted: no event is passed over, and
none is taken for the terminator. -/
theorem events_return :
    (∀ e : Event, ∃ v, Value.ofJson? e.toJson = some v ∧ Event.ofJson v.json = .ok e ∧
      ∃ fs, v.json = .object fs ∧
        fs.lookup "type" = (renderEvent e).name.map .text) ∧
    ∀ (a : Ambient) (x : Feed Response),
      (renderFeed a x).items = (BlockStream.run a {} x.items).1.map renderEvent ∧
      (renderFeed a x).items.map eventOf? = (BlockStream.run a {} x.items).1.map some ∧
      ∀ s : Fragments,
        (renderFeed a x).items.map (liftStep s) = (BlockStream.run a {} x.items).1.map s.step := by
  refine ⟨fun e => ?_, fun a x => ?_⟩
  · obtain ⟨v, hv, hgiven⟩ := e.meaningful_toJson.exists_value
    exact ⟨v, hv, e.reads v.json hgiven, Event.type_given hgiven⟩
  · have hemitted := BlockStream.emitted_run {} a x.items
    rw [items_renderFeed]
    exact ⟨rfl, map_eventOf?_renderEvent hemitted, map_liftStep_renderEvent hemitted⟩

end ChatRelay.Anthropic
