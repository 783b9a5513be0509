import ChatRelay.Caller
import ChatRelay.Proofs.OpenAi.Answered
import ChatRelay.Proofs.OpenAi.Recorded
import ChatRelay.Proofs.SlotOrder

/-!
# Streams that are written as chunks and read again

A written fragment is not the one it was written from: roles become the assistant's, parts plain
text, and a tool call that goes on loses its kind.  What the fragments add up to is the same.
Gathering goes step by step with gathering what is read again, whatever the fragments are and
however those of several choices are mixed; signatures alone have no field to go in.

* `unsigned_addChoice`      one fragment of a choice;
* `unsigned_assembly_add`   one chunk;
* `unsigned_foldl_add`      a list of chunks;
* `assemble_rereadChunk`    the response of a list of chunks, and of the events they are sent as.
-/

namespace ChatRelay

/-! ## without signatures -/

/-- a draft without its signature -/
def Draft.unsigned (d : Draft) : Draft := { d with signature := none }

/-- an assembly without the signatures of its drafts -/
def Assembly.unsigned (a : Assembly) : Assembly :=
  { a with drafts := a.drafts.map fun p => (p.1, p.2.unsigned) }

/-- a choice without the signature of its message -/
def Choice.unsigned (c : Choice) : Choice :=
  { c with message := c.message.map fun m => { m with signature := none } }

/-- a response without the signatures of its messages -/
def Response.unsigned (p : Response) : Response :=
  { p with choices := p.choices.map Choice.unsigned }

theorem Assembly.response_unsigned (a : Assembly) : a.unsigned.response = a.response.unsigned := by
  have hchoices : a.unsigned.response.choices = a.response.unsigned.choices := by
    show List.map _ (List.map _ a.drafts) = List.map _ (List.map _ a.drafts)
    rw [List.map_map, List.map_map]
    rfl
  show { a.response with choices := a.unsigned.response.choices } = a.response.unsigned
  rw [hchoices]
  rfl

theorem Draft.unsigned_finishWith (d : Draft) (r : Option FinishReason) :
    (d.finishWith r).unsigned = d.unsigned.finishWith r := by
  cases r with
  | none => rfl
  | some r =>
    rw [finishWith, finishWith]
    split <;> rfl

namespace OpenAi

/-! ## one fragment of a choice -/

/-- an identifier or name that is left out where it is empty is read as empty -/
theorem getD_nonEmpty (s : String) : (nonEmpty s).getD "" = s := by
  unfold nonEmpty
  split
  · next h => exact h.symm
  · rfl

theorem getD_nonEmptyList {α : Type} (as : Option (List α)) :
    (as.bind nonEmptyList).getD [] = as.getD [] := by
  cases as with
  | none => rfl
  | some as => cases as <;> rfl

/-- the kind of a call, which a fragment without identifier loses, is never joined -/
theorem joinCall_renderFragment (c : ToolCall) :
    Draft.joinCall (renderFragment c).lift = Draft.joinCall c := by
  have hlift : (renderFragment c).lift
      = { c with kind := (renderFragment c).kind.getD "function" } := by
    show ToolCall.mk c.index ((nonEmpty c.id).getD "") _ ((nonEmpty c.name).getD "") c.arguments = _
    rw [getD_nonEmpty, getD_nonEmpty]
  rw [hlift]
  rfl

theorem calls_renderDelta (f : ReasoningField) (m : ChatRelay.Message) :
    (renderDelta f m).lift.calls = m.calls.map fun c => (renderFragment c).lift := by
  have hmap : (renderDelta f m).lift.calls
      = ((m.toolCalls.bind nonEmptyList).getD []).map fun c => (renderFragment c).lift := by
    show (Option.map _ (Option.map _ (m.toolCalls.bind nonEmptyList))).getD [] = _
    cases m.toolCalls.bind nonEmptyList with
    | none => rfl
    | some cs => exact List.map_map
  rw [hmap, getD_nonEmptyList]
  rfl

theorem plainText_renderDelta (f : ReasoningField) (m : ChatRelay.Message) :
    (renderDelta f m).lift.plainText = m.plainText := by
  cases h : m.content <;> simp [renderDelta, Delta.lift, ChatRelay.Message.plainText, h]

/-- a fragment of a message adds what it adds after it was written and read, but a signature -/
theorem unsigned_add (f : ReasoningField) (d : Draft) (m : ChatRelay.Message) :
    (d.add m).unsigned = d.unsigned.add (renderDelta f m).lift := by
  have hreasoning : (renderDelta f m).lift.reasoning = m.reasoning :=
    contentPart_or_plainPart f m.reasoning
  have hcalls : (renderDelta f m).lift.calls.foldl
        (fun calls c => Slots.update c.index (Draft.joinCall c) calls) d.calls
      = m.calls.foldl (fun calls c => Slots.update c.index (Draft.joinCall c) calls) d.calls := by
    rw [calls_renderDelta, List.foldl_map]
    simp only [joinCall_renderFragment]
    rfl
  rw [Draft.add, Draft.add, plainText_renderDelta, hreasoning]
  show Draft.mk _ _ none _ _ = Draft.mk _ _ none _ _
  exact congrArg (fun calls => Draft.mk _ _ none calls _) hcalls.symm

/-- a choice without message and fragment is written as a fragment that says nothing -/
theorem add_lift_empty (d : Draft) : d.unsigned.add (Delta.lift {}) = d.unsigned := by
  show { d.unsigned with text := d.text ++ "" } = d.unsigned
  rw [String.append_empty]
  rfl

theorem unsigned_addChoice (f : ReasoningField) {c : ChatRelay.Choice}
    (h : ∀ w, c.finish = some (.other w) → FinishReason.ofWord w = .other w) (d : Draft) :
    (d.addChoice c).unsigned = d.unsigned.addChoice (renderChunkChoice f c).lift := by
  have hfragment : ((c.fragment?.map d.add).getD d).unsigned
      = d.unsigned.add ((c.fragment?.map (renderDelta f)).getD {}).lift := by
    cases c.fragment? with
    | none => exact (add_lift_empty d).symm
    | some m => exact unsigned_add f d m
  rw [Draft.addChoice, Draft.unsigned_finishWith, hfragment]
  show _ = Draft.finishWith _ ((c.finish.map FinishReason.word).map FinishReason.ofWord)
  rw [FinishReason.map_ofWord_word h]
  rfl

/-! ## one chunk -/

/-- a chunk as the other side reads it; the end marker is sent as a terminator of its own -/
def rereadChunk (f : ReasoningField) (p : Response) : Response :=
  if p.isDone then .done else (renderChunk f p).lift

theorem liftUsage_of_total {u : Usage} (h : u.total = 0 → u.prompt = 0 ∧ u.completion = 0) :
    liftUsage u = u := by
  have htotal : (if u.total = 0 then u.prompt.plus u.completion else u.total) = u.total := by
    by_cases hzero : u.total = 0
    · obtain ⟨hprompt, hcompletion⟩ := h hzero
      rw [if_pos hzero, hprompt, hcompletion, hzero]
      rfl
    · rw [if_neg hzero]
  rw [liftUsage_eq, htotal]

/-- the drafts grow in step, choice by choice, whichever choice comes next -/
theorem unsigned_draftChoices (f : ReasoningField) {cs : List ChatRelay.Choice}
    (h : ∀ c ∈ cs, ∀ w, c.finish = some (.other w) → FinishReason.ofWord w = .other w)
    (drafts : Slots Draft) :
    (cs.foldl Assembly.draftChoice drafts).map (fun p => (p.1, p.2.unsigned))
      = (cs.map fun c => (renderChunkChoice f c).lift).foldl Assembly.draftChoice
          (drafts.map fun p => (p.1, p.2.unsigned)) := by
  induction cs generalizing drafts with
  | nil => rfl
  | cons c cs ih =>
    have hstep : (Assembly.draftChoice drafts c).map (fun p => (p.1, p.2.unsigned))
        = Assembly.draftChoice (drafts.map fun p => (p.1, p.2.unsigned))
            (renderChunkChoice f c).lift := by
      refine Slots.map_update Draft.unsigned (fun o => ?_) c.index drafts
      cases o <;> exact unsigned_addChoice f (h c List.mem_cons_self) _
    rw [List.foldl_cons, ih fun x hx => h x (List.mem_cons_of_mem c hx), hstep]
    rfl

/-- **One chunk.**  An assembly grows by a chunk as it grows by the chunk that the other side
reads. -/
theorem unsigned_assembly_add (f : ReasoningField) {p : Response}
    (hfinish : ∀ c ∈ p.choices, ∀ w,
      c.finish = some (.other w) → FinishReason.ofWord w = .other w)
    (husage : ∀ u, p.usage = some u → u.total = 0 → u.prompt = 0 ∧ u.completion = 0)
    (a : Assembly) : (a.add p).unsigned = a.unsigned.add (rereadChunk f p) := by
  unfold rereadChunk
  by_cases hdone : p.isDone = true
  · rw [if_pos hdone, Assembly.add_of_isDone a hdone]
    rfl
  · have hreport : (renderChunk f p).lift.usage = p.usage := by
      show p.usage.map liftUsage = p.usage
      cases hu : p.usage with
      | none => rfl
      | some u => exact congrArg some (liftUsage_of_total (husage u hu))
    have hdrafts : (p.choices.foldl Assembly.draftChoice a.drafts).map
          (fun p => (p.1, p.2.unsigned))
        = (renderChunk f p).lift.choices.foldl Assembly.draftChoice a.unsigned.drafts := by
      rw [unsigned_draftChoices f hfinish]
      show _ = (List.map _ (List.map _ p.choices)).foldl _ _
      rw [List.map_map]
      rfl
    have hobject : "chat.completion.chunk" ≠ doneMarker := by decide
    have hread : (renderChunk f p).lift.isDone = false := decide_eq_false hobject
    rw [if_neg hdone, Assembly.add, if_neg hdone, Assembly.add, hread, hreport]
    show Assembly.mk _ _ _ _ _ _ ((p.choices.foldl Assembly.draftChoice a.drafts).map
      fun p => (p.1, p.2.unsigned)) = _
    rw [hdrafts]
    rfl

/-! ## a stream -/

theorem unsigned_foldl_add (f : ReasoningField) {chunks : List Response}
    (hfinish : ∀ p ∈ chunks, ∀ c ∈ p.choices, ∀ w,
      c.finish = some (.other w) → FinishReason.ofWord w = .other w)
    (husage : ∀ p ∈ chunks, ∀ u, p.usage = some u → u.total = 0 →
      u.prompt = 0 ∧ u.completion = 0)
    (a : Assembly) : (chunks.foldl Assembly.add a).unsigned
      = (chunks.map (rereadChunk f)).foldl Assembly.add a.unsigned := by
  induction chunks generalizing a with
  | nil => rfl
  | cons p chunks ih =>
    rw [List.foldl_cons, ih (fun x hx => hfinish x (List.mem_cons_of_mem p hx))
        (fun x hx => husage x (List.mem_cons_of_mem p hx)),
      unsigned_assembly_add f (hfinish p List.mem_cons_self) (husage p List.mem_cons_self)]
    rfl

theorem assemble_map_rereadChunk (f : ReasoningField) {chunks : List Response}
    (hfinish : ∀ p ∈ chunks, ∀ c ∈ p.choices, ∀ w,
      c.finish = some (.other w) → FinishReason.ofWord w = .other w)
    (husage : ∀ p ∈ chunks, ∀ u, p.usage = some u → u.total = 0 →
      u.prompt = 0 ∧ u.completion = 0) :
    Response.assemble (chunks.map (rereadChunk f)) = (Response.assemble chunks).unsigned := by
  rw [Response.assemble, Response.assemble, ← Assembly.response_unsigned,
    unsigned_foldl_add f hfinish husage]
  rfl

/-- the terminator is read as the end marker, every other event as it is assumed to be -/
theorem liftEvent_renderCompletionChunk (f : ReasoningField) {p : Response}
    (h : p.isDone = false →
      liftEvent (Caller.renderCompletionChunk f p) = .ok [(renderChunk f p).lift]) :
    liftEvent (Caller.renderCompletionChunk f p) = .ok [rereadChunk f p] := by
  unfold rereadChunk
  cases hdone : p.isDone with
  | true =>
    have hdata : ServerEvent.done.isDoneFromBackend = true := by decide
    rw [Caller.renderCompletionChunk, if_pos hdone, liftEvent, if_pos hdata]
    rfl
  | false => exact h hdone

/-- the stream as the other side reads it off the events that are sent -/
def rereadFeed (f : ReasoningField) (chunks : List Response) : Feed Response :=
  liftFeed (.ofSource ((chunks.map (Caller.renderCompletionChunk f)).map .ok))

/-- **Streamed and read again.**  Chunks that are written for either vendor and read again assemble
to the same response but for its signatures, whatever choices they belong to and however tool calls
are cut into fragments.  So does the stream of the events they are sent as, if every one of them is
read as the chunk it was printed from. -/
theorem assemble_rereadChunk (f : ReasoningField) (chunks : List Response)
    (hfinish : ∀ p ∈ chunks, ∀ c ∈ p.choices, ∀ w,
      c.finish = some (.other w) → FinishReason.ofWord w = .other w)
    (husage : ∀ p ∈ chunks, ∀ u, p.usage = some u → u.total = 0 →
      u.prompt = 0 ∧ u.completion = 0) :
    Response.assemble (chunks.map (rereadChunk f)) = (Response.assemble chunks).unsigned ∧
    ((∀ p ∈ chunks, p.isDone = false →
        liftEvent (Caller.renderCompletionChunk f p) = .ok [(renderChunk f p).lift]) →
      (rereadFeed f chunks).fault? = none ∧
      Response.assemble (rereadFeed f chunks).items = (Response.assemble chunks).unsigned) := by
  have hassemble := assemble_map_rereadChunk f hfinish husage
  refine ⟨hassemble, fun hread => ?_⟩
  obtain ⟨items, hscan, hsaid⟩ := said_scanItems_map
    (fun p hp => liftEvent_renderCompletionChunk f (hread p hp)) false
  rw [← List.map_eq_flatMap] at hsaid
  rw [rereadFeed, liftFeed, Feed.items_scan, Feed.fault?_scan, Feed.items_ofSource_ok,
    Feed.fault?_ofSource_ok, hscan]
  exact ⟨rfl, (Response.assemble_congr hsaid).trans hassemble⟩

/-- fragments of two choices by turns, one of them with two tool calls whose arguments arrive by
turns, a signature, a choice that says nothing, and an end marker before the last report -/
def braided : List Response :=
  [{ id := "r", model := "m", created := 1
     choices := [
      { index := 1, delta := some { role := .user, content := some (.text "He") } },
      { index := 0
        delta := some {
          toolCalls := some [
            { index := 3, id := "b", kind := "custom", name := "seek", arguments := "\x7b" },
            { index := 2, id := "a", name := "look" }]
          reasoning := some "hm"
          signature := some "s" } }] },
   { choices := [
      { index := 0
        message := some { toolCalls := some [{ index := 2, arguments := "[" }] } },
      { index := 1, delta := some { content := some (.parts [.text "l", .text "lo"]) } },
      { index := 0
        delta := some {
          toolCalls := some [
            { index := 3, arguments := "\x7d" }, { index := 2, arguments := "]" }]
          content := some (.text "") } }] },
   .done,
   { choices := [{ index := 1, finish := some (.other "paused") }]
     usage := some { prompt := 3, completion := 4, total := 9 } }]

/-- one fragment and the end marker -/
def brief : List Response :=
  [{ choices := [{ delta := some { content := some (.text "Hi"), signature := some "s" } }] },
   .done]

theorem assemble_rereadChunk_braided :
    Response.assemble (braided.map (rereadChunk .reasoning)) = {
        id := "r"
        object := "chat.completion"
        created := 1
        model := "m"
        choices := [
          { index := 0
            message := some {
              toolCalls := some [
                { index := 2, id := "a", name := "look", arguments := "[]" },
                { index := 3, id := "b", name := "seek", arguments := "\x7b\x7d" }]
              reasoning := some "hm" }
            finish := some .toolCalls },
          { index := 1
            message := some { content := some (.text "Hello") }
            finish := some (.other "paused") }]
        usage := some { prompt := 3, completion := 4, total := 9 } } ∧
    (Response.assemble braided).unsigned ≠ Response.assemble braided ∧
    (rereadFeed .reasoning brief).fault? = none ∧
    Response.assemble (rereadFeed .reasoning brief).items = {
        object := "chat.completion"
        choices := [{
          message := some { content := some (.text "Hi") }
          finish := some .stop }] } := by
  have hfinish : ∀ p ∈ braided ++ brief, ∀ c ∈ p.choices, ∀ w,
      c.finish = some (.other w) → FinishReason.ofWord w = .other w := by
    intro p hp c hc w hw
    have hreasons : ∀ p ∈ braided ++ brief, ∀ c ∈ p.choices,
        c.finish = none ∨ c.finish = some (.other "paused") := by decide
    rcases hreasons p hp c hc with h | h
    · exact nomatch h.symm.trans hw
    · obtain rfl : "paused" = w := FinishReason.other.inj (Option.some.inj (h.symm.trans hw))
      decide
  have husage : ∀ p ∈ braided ++ brief, ∀ u, p.usage = some u → u.total = 0 →
      u.prompt = 0 ∧ u.completion = 0 := by
    intro p hp u hu htotal
    have hreports : ∀ p ∈ braided ++ brief,
        p.usage = none ∨ (p.usage.map (·.total)) = some 9 := by decide
    rcases hreports p hp with h | h
    · exact nomatch h.symm.trans hu
    · rw [hu, Option.map_some, htotal] at h
      exact absurd h (by decide)
  have hread : ∀ p ∈ brief, p.isDone = false →
      liftEvent (Caller.renderCompletionChunk .reasoning p)
        = .ok [(renderChunk .reasoning p).lift] := by
    decide +kernel
  obtain ⟨hbraided, -⟩ := assemble_rereadChunk .reasoning braided
    (fun p hp => hfinish p (List.mem_append_left brief hp))
    (fun p hp => husage p (List.mem_append_left brief hp))
  obtain ⟨-, hsent⟩ := assemble_rereadChunk .reasoning brief
    (fun p hp => hfinish p (List.mem_append_right braided hp))
    (fun p hp => husage p (List.mem_append_right braided hp))
  obtain ⟨hfault, hbrief⟩ := hsent hread
  rw [hbraided, hbrief]
  exact ⟨by decide, by decide, hfault, by decide⟩

end OpenAi
end ChatRelay
