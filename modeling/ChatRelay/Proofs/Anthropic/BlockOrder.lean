import ChatRelay.Dialect.Anthropic.BlockStream
import ChatRelay.Proofs.Anthropic.StreamOrder

/-!
# Fragments are written as a well-formed stream

The state of `BlockStream` says which blocks of the events so far are open: the tool blocks of
`openTools`, and behind them the block of `current`.  Every operation keeps this (`Agrees`), so
whatever the fragments say, their events are in order.  Block indices are words, which is why all
of it is said of streams with fewer than 2^32 blocks.

* `Agrees`                    what the events so far and the state have to do with each other;
* `Reached.step`              one fragment keeps it;
* `run_wellFormed`            the events of any list of fragments are the front of a well-formed
                              stream, and a whole one where the list has an end marker.
-/

namespace ChatRelay.Anthropic

/-- the open text or thinking block as it started -/
def OpenBlock.entry : OpenBlock → UInt32 × Block
  | .text i => (i, .text "")
  | .thinking i => (i, .thinking "" none)

@[simp] theorem OpenBlock.entry_fst (b : OpenBlock) : b.entry.1 = b.index := by cases b <;> rfl

theorem Block.isSpoken_of_isToolUse {b : Block} (h : b.isToolUse = true) : b.isSpoken = false := by
  cases b <;> simp_all [isToolUse, isSpoken]

namespace BlockStream

/-- the events of a message that has started and not ended, and the state behind them: the open
blocks are those the state says, the text or thinking block last -/
structure Agrees (es : List Event) (s : BlockStream) : Prop where
  underway : Underway es
  begun : es ≠ []
  isStarted : s.started = true
  unfinished : s.finished = false
  next : s.nextIndex.toNat = (blockStarts es).length
  blocks : ∃ tools, openBlocks es = tools ++ (s.current.map OpenBlock.entry).toList ∧
    tools.map (·.1) = s.openTools ∧ ∀ p ∈ tools, p.2.isToolUse = true

/-- what holds of the events so far, as long as there are fewer blocks than indices -/
def Holds (I : List Event → BlockStream → Prop) (past : List Event) (p : Progress) : Prop :=
  (blockStarts (past ++ p.events)).length < UInt32.size → I (past ++ p.events) p.state

theorem blockStarts_append_stops (es : List Event) (is : List UInt32) :
    blockStarts (es ++ is.map .blockStop) = blockStarts es := by
  have hnone : (is.map Event.blockStop).filterMap Event.start? = [] := by
    simp [List.filterMap_map, Event.start?]
  rw [blockStarts, List.filterMap_append, hnone, List.append_nil, blockStarts]

theorem append_emit (past : List Event) (p : Progress) (e : Event) :
    past ++ (p.emit e).events = past ++ p.events ++ [e] := (List.append_assoc ..).symm

theorem append_closeAll (past : List Event) (p : Progress) :
    past ++ p.closeAll.events
      = past ++ p.closeCurrent.events ++ p.closeCurrent.state.openTools.map .blockStop :=
  (List.append_assoc ..).symm

namespace Agrees

variable {es past : List Event} {s : BlockStream} {p : Progress}

theorem grow (h : Agrees es s) {i : UInt32} {b : Block} {d : Delta} (hb : (i, b) ∈ openBlocks es)
    (hd : d.fits b = true) : Agrees (es ++ [.blockDelta i d]) s where
  underway := .snoc h.underway ⟨b, hb, hd⟩
  begun := by simp
  isStarted := h.isStarted
  unfinished := h.unfinished
  next := by simpa [blockStarts_snoc, Event.start?] using h.next
  blocks := by simpa [openBlocks_snoc, openAfter] using h.blocks

theorem current_mem (h : Agrees es s) {b : OpenBlock} (hb : s.current = some b) :
    b.entry ∈ openBlocks es := by
  obtain ⟨tools, ho, -, -⟩ := h.blocks
  simp [ho, hb]

theorem tool_mem (h : Agrees es s) {i : UInt32} (hi : i ∈ s.openTools) :
    ∃ b, (i, b) ∈ openBlocks es ∧ b.isToolUse = true := by
  obtain ⟨tools, ho, ht, hu⟩ := h.blocks
  rw [← ht] at hi
  obtain ⟨⟨j, b⟩, hp, rfl⟩ := List.mem_map.mp hi
  exact ⟨b, by simp [ho, hp], hu _ hp⟩

/-- the end of some blocks, all of which were open -/
theorem stop (h : Agrees es s) {is : List UInt32} {t : BlockStream}
    (hu : Underway (es ++ is.map .blockStop)) (hs : t.started = true) (hf : t.finished = false)
    (hn : t.nextIndex = s.nextIndex)
    (hb : ∃ tools, openBlocks (es ++ is.map .blockStop) =
        tools ++ (t.current.map OpenBlock.entry).toList ∧
      tools.map (·.1) = t.openTools ∧ ∀ p ∈ tools, p.2.isToolUse = true) :
    Agrees (es ++ is.map .blockStop) t where
  underway := hu
  begun := by simp [h.begun]
  isStarted := hs
  unfinished := hf
  next := by rw [hn, h.next, blockStarts_append_stops]
  blocks := hb

theorem closeCurrent (h : Agrees (past ++ p.events) p.state) :
    Agrees (past ++ p.closeCurrent.events) p.closeCurrent.state ∧
      p.closeCurrent.state.current = none := by
  unfold Progress.closeCurrent
  split
  · next b hb =>
    obtain ⟨tools, ho, ht, hu⟩ := h.blocks
    rw [hb] at ho
    obtain ⟨h1, h2⟩ := h.underway.stop ho
    rw [b.entry_fst] at h1 h2
    rw [append_emit]
    have hstop : Agrees (past ++ p.events ++ [b.index].map .blockStop)
        { p.state with current := none } :=
      h.stop h1 h.isStarted h.unfinished rfl ⟨tools, h2, ht, hu⟩
    exact ⟨hstop, rfl⟩
  · next hb => exact ⟨h, hb⟩

theorem closeAll (h : Agrees (past ++ p.events) p.state) :
    Agrees (past ++ p.closeAll.events) p.closeAll.state ∧
      openBlocks (past ++ p.closeAll.events) = [] := by
  obtain ⟨hc, hn⟩ := h.closeCurrent
  obtain ⟨tools, ho, ht, -⟩ := hc.blocks
  rw [hn, Option.map_none, Option.toList_none, List.append_nil] at ho
  obtain ⟨h1, h2⟩ := hc.underway.stops ho
  have hmap : tools.map (Event.blockStop ·.1) = p.closeCurrent.state.openTools.map .blockStop := by
    simp [← ht]
  rw [hmap] at h1 h2
  rw [append_closeAll]
  refine ⟨hc.stop h1 hc.isStarted hc.unfinished rfl ⟨[], ?_, rfl, by simp⟩, h2⟩
  rw [h2, Progress.closeAll, hn]
  rfl

/-- a block that starts where no text or thinking block is open, and a state that knows it -/
theorem openStart (h : Agrees es s) (hc : s.current = none)
    (hn : s.nextIndex.toNat + 1 < UInt32.size) {b : Block} {t : BlockStream}
    (hs : t.started = true) (hf : t.finished = false)
    (hi : t.nextIndex = s.nextIndex + 1)
    (hb : ∀ tools, tools.map (·.1) = s.openTools → (∀ p ∈ tools, p.2.isToolUse = true) →
      ∃ tools', tools ++ [(s.nextIndex, b)] = tools' ++ (t.current.map OpenBlock.entry).toList ∧
        tools'.map (·.1) = t.openTools ∧ ∀ p ∈ tools', p.2.isToolUse = true) :
    Agrees (es ++ [.blockStart s.nextIndex b]) t := by
  obtain ⟨tools, ho, ht, hu⟩ := h.blocks
  rw [hc, Option.map_none, Option.toList_none, List.append_nil] at ho
  have hadmits : Admits es (.blockStart s.nextIndex b) := by
    refine ⟨h.begun, h.next, fun _ p hp => ?_⟩
    rw [ho] at hp
    exact Block.isSpoken_of_isToolUse (hu p hp)
  exact {
    underway := .snoc h.underway hadmits
    begun := by simp
    isStarted := hs
    unfinished := hf
    next := by
      rw [hi, UInt32.toNat_add, blockStarts_snoc, List.length_append, ← h.next]
      exact Nat.mod_eq_of_lt hn
    blocks := by
      rw [openBlocks_snoc, openAfter, ho]
      exact hb tools ht hu }

end Agrees

/-! ## the operations -/

theorem closeCurrent_state (p : Progress) :
    p.closeCurrent.state = { p.state with current := none } := by
  unfold Progress.closeCurrent
  split
  · rfl
  · next h => simp [← h]

theorem openBlock_state (p : Progress) (b : Block) :
    (p.openBlock b).state
      = { p.state with current := none, nextIndex := p.state.nextIndex + 1 } := by
  show { p.closeCurrent.state with nextIndex := p.closeCurrent.state.nextIndex + 1 } = _
  rw [closeCurrent_state]

theorem blockStarts_closeCurrent (past : List Event) (p : Progress) :
    blockStarts (past ++ p.closeCurrent.events) = blockStarts (past ++ p.events) := by
  unfold Progress.closeCurrent
  split
  · rw [append_emit, blockStarts_snoc]
    exact List.append_nil _
  · rfl

theorem blockStarts_closeAll (past : List Event) (p : Progress) :
    blockStarts (past ++ p.closeAll.events) = blockStarts (past ++ p.events) := by
  rw [append_closeAll, blockStarts_append_stops, blockStarts_closeCurrent]

theorem append_openBlock (past : List Event) (p : Progress) (b : Block) :
    past ++ (p.openBlock b).events
      = past ++ p.closeCurrent.events ++ [.blockStart p.state.nextIndex b] := by
  show past ++ (p.closeCurrent.events ++ [.blockStart p.closeCurrent.state.nextIndex b]) = _
  rw [closeCurrent_state, List.append_assoc]

namespace Holds

variable {I J : List Event → BlockStream → Prop} {past : List Event} {p : Progress}

/-- the events of a step are past when the next one begins -/
theorem next {es : List Event} {s : BlockStream} (h : Holds I past ⟨es, s⟩) :
    Holds I (past ++ es) ⟨[], s⟩ := by
  simpa [Holds] using h

theorem join {es fs : List Event} {s : BlockStream}
    (h : Holds I (past ++ es) ⟨fs, s⟩) : Holds I past ⟨es ++ fs, s⟩ := by
  simpa [Holds, List.append_assoc] using h

theorem emit (h : Holds I past p) {e : Event} (he : e.start? = none)
    (hIJ : I (past ++ p.events) p.state → J (past ++ p.events ++ [e]) p.state) :
    Holds J past (p.emit e) := by
  intro hlt
  rw [append_emit, blockStarts_snoc, he] at hlt
  rw [append_emit]
  exact hIJ (h (by simpa using hlt))

/-- an event that starts a block, behind the end of the open text or thinking block -/
theorem emitStart (h : Holds I past p) {b : Block} {t : BlockStream}
    (hIJ : I (past ++ p.events) p.state →
      (blockStarts (past ++ p.events)).length + 1 < UInt32.size →
      J (past ++ p.closeCurrent.events ++ [.blockStart p.state.nextIndex b]) t) :
    Holds J past { p.openBlock b with state := t } := by
  intro hlt
  show J (past ++ (p.openBlock b).events) t
  have hlt' : (blockStarts (past ++ p.events)).length + 1 < UInt32.size := by
    rw [append_openBlock, blockStarts_snoc, blockStarts_closeCurrent] at hlt
    simpa [Event.start?] using hlt
  rw [append_openBlock]
  exact hIJ (h (Nat.lt_of_succ_lt hlt')) hlt'

theorem grow (h : Holds Agrees past p) {i : UInt32} {d : Delta}
    (hb : Agrees (past ++ p.events) p.state →
      ∃ b, (i, b) ∈ openBlocks (past ++ p.events) ∧ d.fits b = true) :
    Holds Agrees past (p.emit (.blockDelta i d)) := by
  refine h.emit rfl fun hp => ?_
  obtain ⟨b, hmem, hd⟩ := hb hp
  exact hp.grow hmem hd

/-- a block that an operation opens, noted in the state by `t` -/
theorem openBlock (h : Holds Agrees past p) {b : Block} {t : BlockStream}
    (hs : t.started = p.state.started) (hf : t.finished = p.state.finished)
    (hi : t.nextIndex = p.state.nextIndex + 1)
    (hb : ∀ tools, tools.map (·.1) = p.state.openTools → (∀ p ∈ tools, p.2.isToolUse = true) →
      ∃ tools', tools ++ [(p.state.nextIndex, b)]
          = tools' ++ (t.current.map OpenBlock.entry).toList ∧
        tools'.map (·.1) = t.openTools ∧ ∀ p ∈ tools', p.2.isToolUse = true) :
    Holds Agrees past { p.openBlock b with state := t } := by
  refine h.emitStart fun hp hlt => ?_
  obtain ⟨hc, -⟩ := hp.closeCurrent
  rw [closeCurrent_state] at hc
  rw [← hp.next] at hlt
  exact hc.openStart rfl hlt (hs.trans hp.isStarted) (hf.trans hp.unfinished) hi hb

/-- the text or thinking block that an operation opens -/
theorem openSpoken (h : Holds Agrees past p) {b : OpenBlock} (hi : b.index = p.state.nextIndex) :
    Holds Agrees past { p.openBlock b.entry.2 with
      state := { (p.openBlock b.entry.2).state with current := some b } } := by
  have he : b.entry = (p.state.nextIndex, b.entry.2) := by rw [← hi, ← b.entry_fst]
  rw [openBlock_state]
  exact h.openBlock rfl rfl rfl fun tools ht hu => ⟨tools, by rw [← he]; rfl, ht, hu⟩

theorem addText (h : Holds Agrees past p) (text : String) : Holds Agrees past (p.addText text) := by
  unfold Progress.addText
  split
  · next i hi => exact h.grow fun hp => ⟨_, hp.current_mem hi, rfl⟩
  · have ho := h.openSpoken (b := .text p.state.nextIndex) rfl
    exact ho.grow fun hp => ⟨_, hp.current_mem rfl, rfl⟩

theorem addThinking (h : Holds Agrees past p) {d : Delta} (hd : d.fits (.thinking "" none) = true) :
    Holds Agrees past (p.addThinking d) := by
  unfold Progress.addThinking
  split
  · next i hi => exact h.grow fun hp => ⟨_, hp.current_mem hi, hd⟩
  · have ho := h.openSpoken (b := .thinking p.state.nextIndex) rfl
    exact ho.grow fun hp => ⟨_, hp.current_mem rfl, hd⟩

theorem addArguments (h : Holds Agrees past p) {i : UInt32} (hi : i ∈ p.state.openTools)
    (arguments : String) : Holds Agrees past (p.addArguments i arguments) := by
  unfold Progress.addArguments
  split
  · exact h
  · refine h.grow fun hp => ?_
    obtain ⟨b, hb, hu⟩ := hp.tool_mem hi
    refine ⟨b, hb, ?_⟩
    cases b <;> simp_all [Block.isToolUse, Delta.fits]

theorem addCall (h : Holds Agrees past p) (a : Ambient) (c : ToolCall) :
    Holds Agrees past (p.addCall a c) := by
  unfold Progress.addCall
  split
  · next block hblock =>
    split
    · next hopen => exact h.addArguments hopen _
    · exact h
  · next hnew =>
    refine Holds.addArguments ?_ (by simp) _
    rw [openBlock_state]
    refine h.openBlock rfl rfl rfl fun tools ht hu => ?_
    refine ⟨tools ++ [(p.state.nextIndex, _)], (List.append_nil _).symm, by simp [ht], ?_⟩
    intro q hq
    rcases List.mem_append.mp hq with hq | hq
    · exact hu q hq
    · rw [List.mem_singleton.mp hq]
      rfl

theorem addCalls (h : Holds Agrees past p) (a : Ambient) (cs : List ToolCall) :
    Holds Agrees past (cs.foldl (Progress.addCall a) p) := by
  induction cs generalizing p with
  | nil => exact h
  | cons c cs ih => exact ih (h.addCall a c)

theorem addThought (h : Holds Agrees past p) (o : Option String) :
    Holds Agrees past (match Progress.nonEmpty? o with
      | some thought => p.addThinking (.thinking thought)
      | none => p) := by
  split
  · exact h.addThinking rfl
  · exact h

theorem addSign (h : Holds Agrees past p) (o : Option String) :
    Holds Agrees past (match Progress.nonEmpty? o with
      | some sign => p.addThinking (.signature sign)
      | none => p) := by
  split
  · exact h.addThinking rfl
  · exact h

theorem addDelta (h : Holds Agrees past p) (a : Ambient) (m : ChatRelay.Message) :
    Holds Agrees past (p.addDelta a m) := by
  unfold Progress.addDelta
  refine addCalls ?_ a _
  split
  · exact addSign (addThought h _) _
  · exact addText (addSign (addThought h _) _) _

theorem closeAll (h : Holds Agrees past p) : Holds Agrees past p.closeAll := by
  intro hlt
  rw [blockStarts_closeAll] at hlt
  exact (h hlt).closeAll.1

theorem finishWith (h : Holds Agrees past p) (reason : Option FinishReason) :
    Holds Agrees past (p.finishWith reason) := by
  unfold Progress.finishWith
  split
  · intro hlt
    have hc := h.closeAll hlt
    exact ⟨hc.underway, hc.begun, hc.isStarted, hc.unfinished, hc.next, hc.blocks⟩
  · exact h

end Holds

/-! ## fragments -/

/-- where a stream may be: before its start, underway, or at its end -/
inductive Reached (es : List Event) (s : BlockStream) : Prop
  | fresh (hes : es = []) (hs : s = {})
  | underway (h : Agrees es s)
  | ended (hs : s.finished = true) (h : WellFormed es)

section

variable {past : List Event} {p : Progress}

theorem Holds.start (h : Holds Reached past p) (hf : p.state.finished = false) (a : Ambient)
    (c : Response) : Holds Agrees past (p.start a c) := by
  intro hlt
  have hlt' : (blockStarts (past ++ p.events)).length < UInt32.size := by
    unfold Progress.start at hlt
    split at hlt
    · exact hlt
    · rw [append_emit, blockStarts_snoc] at hlt
      simpa [Event.start?] using hlt
  unfold Progress.start
  cases h hlt' with
  | fresh hes hs =>
    rw [if_neg (by simp [hs]), append_emit, hes, hs]
    exact { underway := .snoc .nil rfl
            begun := by simp
            isStarted := rfl
            unfinished := rfl
            next := rfl
            blocks := ⟨[], rfl, rfl, by simp⟩ }
  | underway h =>
    rw [if_pos h.isStarted]
    exact h
  | ended hs _ => simp [hf] at hs

theorem Holds.stop (h : Holds Agrees past p) (reason : FinishReason) :
    Holds Reached past (p.stop reason) := by
  intro hlt
  have he : past ++ (p.stop reason).events = past ++ p.closeAll.events
      ++ [.messageDelta { stopReason := some (stopOfFinish reason) }
        (some ((p.closeAll.state.usage.map lowerUsage).getD {})), .messageStop] :=
    (List.append_assoc ..).symm
  rw [he] at hlt ⊢
  have hlt' : (blockStarts (past ++ p.events)).length < UInt32.size := by
    rw [blockStarts_ending, blockStarts_closeAll] at hlt
    exact hlt
  obtain ⟨hc, ho⟩ := (h hlt').closeAll
  exact .ended rfl (hc.underway.wellFormed hc.begun ho _ _)

theorem Holds.report (h : Holds Agrees past p) (usage : Option ChatRelay.Usage) :
    Holds Reached past (p.report usage) := by
  have hnote : ∀ (pending : Option FinishReason) (usage : Option ChatRelay.Usage),
      Holds Agrees past { p with state := { p.state with pending, usage } } := by
    intro pending usage hlt
    have hp := h hlt
    exact ⟨hp.underway, hp.begun, hp.isStarted, hp.unfinished, hp.next, hp.blocks⟩
  unfold Progress.report
  split
  · exact fun hlt => .underway (h hlt)
  · split
    · exact (hnote _ _).stop _
    · exact fun hlt => .underway (hnote _ _ hlt)

theorem Holds.finish (h : Holds Reached past p) (hf : p.state.finished = false) (a : Ambient) :
    Holds Reached past (p.finish a) := by
  refine Holds.stop (fun hlt => ?_) _
  have hp := h.start hf a {} hlt
  exact ⟨hp.underway, hp.begun, hp.isStarted, hp.unfinished, hp.next, hp.blocks⟩

theorem Reached.step (s : BlockStream) (h : Holds Reached past ⟨[], s⟩) (a : Ambient)
    (c : Response) : Holds Reached past ⟨(s.step a c).1, (s.step a c).2⟩ := by
  unfold BlockStream.step
  split
  · exact h
  · next hf =>
    have hf' : s.finished = false := by simpa using hf
    split
    · exact h.finish hf' a
    · have hstart := h.start hf' a c
      refine Holds.report ?_ _
      split
      · refine Holds.finishWith ?_ _
        split
        · exact hstart.addDelta a _
        · exact hstart
      · exact hstart

theorem Reached.run (s : BlockStream) (h : Holds Reached past ⟨[], s⟩) (a : Ambient)
    (cs : List Response) : Holds Reached past ⟨(s.run a cs).1, (s.run a cs).2⟩ := by
  induction cs generalizing s past with
  | nil => exact h
  | cons c cs ih =>
    have hstep := Reached.step s h a c
    rw [run_cons]
    exact (ih _ hstep.next).join

end

/-! ## the end marker -/

theorem finished_step_of_isDone (s : BlockStream) (a : Ambient) {c : Response}
    (h : c.isDone = true) : (s.step a c).2.finished = true := by
  unfold BlockStream.step
  split
  · next hf => exact hf
  · rfl

theorem finished_run_of_isDone (s : BlockStream) (a : Ambient) {cs : List Response}
    (h : ∃ c ∈ cs, c.isDone = true) : (s.run a cs).2.finished = true := by
  obtain ⟨c, hc, hd⟩ := h
  obtain ⟨xs, ys, rfl⟩ := List.append_of_mem hc
  have hf := finished_step_of_isDone (s.run a xs).2 a hd
  rw [run_append, run_cons, run_of_finished hf]
  exact hf

/-- **Whatever the fragments, their events are in order**: they are the front of a well-formed
stream, and all of one as soon as the end marker is among the fragments. -/
theorem run_wellFormed (a : Ambient) (cs : List Response)
    (h : (blockStarts (run a {} cs).1).length < UInt32.size) :
    (∃ rest, WellFormed ((run a {} cs).1 ++ rest)) ∧
      ((∃ c ∈ cs, c.isDone = true) → WellFormed (run a {} cs).1) := by
  have hfresh : Holds Reached [] ⟨[], {}⟩ := fun _ => .fresh rfl rfl
  have hreached : Reached (run a {} cs).1 (run a {} cs).2 := Reached.run {} hfresh a cs h
  cases hreached with
  | fresh hes hs =>
    refine ⟨?_, fun hd => ?_⟩
    · rw [hes]
      exact Underway.nil.completable
    · have hf := finished_run_of_isDone {} a hd
      simp [hs] at hf
  | underway hu =>
    refine ⟨hu.underway.completable, fun hd => ?_⟩
    have hf := finished_run_of_isDone {} a hd
    simp [hu.unfinished] at hf
  | ended hs hw => exact ⟨⟨[], by simpa using hw⟩, fun _ => hw⟩

/-- fragments that go on after a finish reason, a second call among those of the first -/
def straying : List Response :=
  [ { choices := [{ delta := some { content := some (.text "a") } }] },
    { choices := [{ delta := some {
        toolCalls := some [{ index := 4, id := "t", name := "f" }] } }] },
    { choices := [{ delta := some { reasoning := some "b" }, finish := some .stop }] },
    { choices := [{ delta := some { toolCalls := some [{ index := 4, arguments := "c" },
        { index := 2 }] } }] },
    .done ]

theorem run_wellFormed_straying :
    (blockStarts (run ⟨0, fun _ => "0"⟩ {} straying).1).length < UInt32.size ∧
      WellFormed (run ⟨0, fun _ => "0"⟩ {} straying).1 := by
  have hfew : (blockStarts (run ⟨0, fun _ => "0"⟩ {} straying).1).length < UInt32.size := by decide
  exact ⟨hfew, (run_wellFormed _ straying hfew).2 ⟨.done, by simp [straying], rfl⟩⟩

end BlockStream
end ChatRelay.Anthropic
