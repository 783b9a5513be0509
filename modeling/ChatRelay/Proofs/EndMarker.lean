import ChatRelay.Caller
import ChatRelay.Proofs.Anthropic.FragmentTurn
import ChatRelay.Proofs.StreamEnd
import ChatRelay.Proofs.StreamFaults

/-!
# The end marker of a stream

A backend may mark the end of its stream once, several times or never, and may go on behind the
mark.  What is lifted from the stream has the end marker where the first mark stands, or at its end
where there is no mark and no fault.  Everything behind the mark is lifted all the same.

* `OpenAi.lifts`, `Anthropic.lifts`   both readers go by the signs of their events;
* `Backend.endMarker_once`            the end marker comes once, or not at all before a fault;
* `Backend.endMarker_last_iff`        when it is the last that comes.
-/

namespace ChatRelay

/-! ## chunks -/

namespace OpenAi

/-- whether an event marks the end: it is the terminator, or a chunk that calls itself the end -/
def marksEnd (e : ServerEvent) : Bool := (faultOf? e).isNone && (fragments e).any (·.isDone)

/-- whether an event is a chunk that does not call itself the end -/
def speaks (e : ServerEvent) : Bool := (faultOf? e).isNone && (fragments e).any (!·.isDone)

/-- the signs of chunks; what a chunk says does not depend on those before it -/
def signs : Signs ServerEvent where
  marks := marksEnd
  fault? := faultOf?
  speaks _ := speaks

theorem signs_marks : signs.marks = marksEnd := by rw [signs]
theorem signs_fault? : signs.fault? = faultOf? := by rw [signs]
theorem signs_speaks (past : List ServerEvent) : signs.speaks past = speaks := by rw [signs]

theorem liftEvent_of_faultless {e : ServerEvent} (h : faultOf? e = none) :
    liftEvent e = .ok (fragments e) := by
  unfold faultOf? at h
  by_cases hdone : e.isDoneFromBackend = true
  · unfold liftEvent fragments
    rw [if_pos hdone, if_pos hdone]
  · rw [if_neg hdone] at h
    refine liftEvent_of_plain fun detail hd => ?_
    rw [hd] at h
    exact nomatch h

/-- an event carries one fragment at most -/
theorem fragments_cases (e : ServerEvent) : fragments e = [] ∨ ∃ c, fragments e = [c] := by
  unfold fragments
  split
  · exact .inr ⟨_, rfl⟩
  · cases chunkOf? e with
    | none => exact .inl rfl
    | some c => exact .inr ⟨c, rfl⟩

theorem liftStep_of_faultless {e : ServerEvent} (h : faultOf? e = none) (seen : Bool) :
    liftStep seen e = .ok (if seen then (fragments e).filter (!·.isDone) else fragments e,
      seen || marksEnd e) := by
  unfold liftStep marksEnd
  rw [liftEvent_of_faultless h, h, Option.isNone_none, Bool.true_and]
  cases seen <;> simp

theorem faultless_of_liftStep {seen : Bool} {e : ServerEvent} {p : List Response × Bool}
    (h : liftStep seen e = .ok p) : faultOf? e = none := by
  refine Option.eq_none_iff_forall_ne_some.mpr fun f hf => ?_
  rw [(liftStep_eq_error_iff seen e f).mpr hf] at h
  exact nomatch h

theorem lifts : Lifts signs liftStep liftTrailer id fun _ _ => True where
  fails := by
    rw [signs_fault?]
    exact liftStep_eq_error_iff
  faultless e h := by
    rw [signs_marks, marksEnd, Bool.and_eq_true_iff] at h
    rw [signs_fault?]
    exact Option.isNone_iff_eq_none.mp h.1
  next _ seen e out t _ h := by
    rw [signs_marks]
    rw [liftStep_of_faultless (faultless_of_liftStep h)] at h
    exact ⟨trivial, (Prod.mk.inj (Except.ok.inj h)).2.symm⟩
  tells seen e out t h hm hseen := by
    obtain rfl : seen = false := hseen
    rw [signs_marks, marksEnd] at hm
    obtain ⟨hnone, hany⟩ := Bool.and_eq_true_iff.mp hm
    rw [liftStep_of_faultless (Option.isNone_iff_eq_none.mp hnone), if_neg Bool.false_ne_true] at h
    obtain rfl := (Prod.mk.inj (Except.ok.inj h)).1
    rcases fragments_cases e with hf | ⟨c, hf⟩
    · rw [hf] at hany
      exact nomatch hany
    · rw [hf] at hany ⊢
      exact ⟨c, by simpa using hany, rfl⟩
  goesOn _ seen e out t _ h hno := by
    have he := faultless_of_liftStep h
    have hmarks : marksEnd e = (fragments e).any (·.isDone) := by
      rw [marksEnd, he, Option.isNone_none, Bool.true_and]
    have hspeaks : speaks e = (fragments e).any (!·.isDone) := by
      rw [speaks, he, Option.isNone_none, Bool.true_and]
    rw [liftStep_of_faultless he] at h
    rw [signs_marks, hmarks, id] at hno
    rw [signs_speaks, hspeaks, ← (Prod.mk.inj (Except.ok.inj h)).1]
    rcases fragments_cases e with hf | ⟨c, hf⟩ <;> rw [hf] at hno ⊢
    · cases seen <;> simp
    · clear h hmarks hspeaks
      cases hc : c.isDone <;> cases seen <;> simp_all
  closes _ := rfl

theorem told_liftFeed (x : Feed ServerEvent) : Told signs x.items x.fault? (liftFeed x).results :=
  lifts.told trivial rfl x

end OpenAi

/-! ## block events -/

namespace Anthropic

/-- the block event that an event carries, none where it is the terminator -/
def heard? (e : ServerEvent) : Option Event :=
  if e.isDoneFromBackend then none else eventOf? e

/-- the block events that a stream carries -/
def heard (events : List ServerEvent) : List Event := events.filterMap heard?

/-- whether a tool block has started under an index -/
def hasTool (es : List Event) (i : UInt32) : Bool :=
  (blockStarts es).any fun p => p.1 = i && p.2.kind = .tool

/-- whether an event says something about the message, behind those before it -/
def Event.speaks (past : List Event) : Event → Bool
  | .blockStart _ (.toolUse ..) => true
  | .blockStart _ (.text s) => s ≠ ""
  | .blockStart _ (.thinking thought _) => thought ≠ ""
  | .blockDelta _ (.text _) | .blockDelta _ (.thinking _) => true
  | .blockDelta i (.inputJson _) => hasTool past i
  | .messageDelta ending usage => ending.stopReason.isSome || usage.isSome
  | _ => false

/-- whether an event marks the end: it is the terminator, or the end of the message -/
def marksEnd (e : ServerEvent) : Bool := e.isDoneFromBackend || heard? e = some .messageStop

/-- whether an event says something, behind those before it -/
def speaks (past : List ServerEvent) (e : ServerEvent) : Bool :=
  (heard? e).any (Event.speaks (heard past))

/-- the signs of block events -/
def signs : Signs ServerEvent where
  marks := marksEnd
  fault? := faultOf?
  speaks := speaks

theorem signs_marks : signs.marks = marksEnd := by rw [signs]
theorem signs_fault? : signs.fault? = faultOf? := by rw [signs]
theorem signs_speaks : signs.speaks = speaks := by rw [signs]

theorem faultOf?_eq (e : ServerEvent) : faultOf? e = (heard? e).bind Event.fault? := by
  unfold faultOf? heard?
  split <;> rfl

theorem heard_snoc (past : List ServerEvent) (e : ServerEvent) :
    heard (past ++ [e]) = heard past ++ (heard? e).toList := by
  unfold heard
  rw [List.filterMap_append]
  cases h : heard? e <;> simp [h]

theorem hasTool_snoc (es : List Event) (e : Event) (i : UInt32) :
    hasTool (es ++ [e]) i
      = (hasTool es i || e.start?.any fun p => p.1 = i && p.2.kind = .tool) := by
  unfold hasTool
  rw [blockStarts_snoc, List.any_append]
  cases e.start? <;> simp

namespace Fragments

/-- a state that knows the tool blocks that have started -/
def Knows (past : List Event) (s : Fragments) : Prop :=
  ∀ i, (s.calls.lookup i).isSome = hasTool past i

variable {past : List Event} {s : Fragments}

theorem Knows.congr (h : Knows past s) {e : Event} {t : Fragments} (ht : t.calls = s.calls)
    (he : ∀ i, (e.start?.any fun p => p.1 = i && p.2.kind = .tool) = false) :
    Knows (past ++ [e]) t := by
  intro i
  rw [ht, h i, hasTool_snoc, he i, Bool.or_false]

theorem Knows.start (h : Knows past s) (i : UInt32) (b : Block) :
    Knows (past ++ [.blockStart i b]) (s.startBlock i b).2 := by
  cases b with
  | toolUse id name input =>
    intro j
    show (List.lookup j ((i, s.nextCall) :: s.calls)).isSome = _
    rw [hasTool_snoc, ← h j, List.lookup_cons]
    by_cases hj : j = i
    · simp [hj, Event.start?, Block.kind]
    · have hij : ¬ i = j := fun hi => hj hi.symm
      simp [beq_false_of_ne hj, hij, Event.start?]
  | text _ | thinking _ _ | image _ | toolResult _ _ _ | redacted _ =>
    exact h.congr rfl fun j => by simp [Event.start?, Block.kind]

theorem startBlock_speaks (past : List Event) (s : Fragments) (i : UInt32) (b : Block) :
    (s.startBlock i b).1 = [] ↔ Event.speaks past (.blockStart i b) = false := by
  cases b with
  | toolUse id name input => simp [startBlock, Event.speaks]
  | text t => by_cases ht : t = "" <;> simp [startBlock, Event.speaks, ht]
  | thinking t sign => by_cases ht : t = "" <;> simp [startBlock, Event.speaks, ht]
  | image _ | toolResult _ _ _ | redacted _ => simp [startBlock, Event.speaks]

theorem growBlock_speaks (h : Knows past s) (i : UInt32) (d : Delta) :
    s.growBlock i d = [] ↔ Event.speaks past (.blockDelta i d) = false := by
  cases d with
  | text t => simp [growBlock, Event.speaks]
  | thinking t => simp [growBlock, Event.speaks]
  | signature t => simp [growBlock, Event.speaks]
  | inputJson t =>
    have hi := h i
    cases hl : s.calls.lookup i with
    | none =>
      rw [hl] at hi
      simp [growBlock, hl, Event.speaks, ← hi]
    | some call =>
      rw [hl] at hi
      simp [growBlock, hl, Event.speaks, ← hi]

theorem endMessage_speaks (past : List Event) (s : Fragments) (ending : Ending)
    (usage : Option Usage) :
    (s.endMessage ending usage).2.calls = s.calls ∧
      ((s.endMessage ending usage).1 = [] ↔
        Event.speaks past (.messageDelta ending usage) = false) := by
  cases hreason : ending.stopReason <;> cases usage <;> simp [endMessage, hreason, Event.speaks]

/-- what one event does: the state goes on knowing the tool blocks, the end is told at the end of
the message alone, and something comes exactly of an event that speaks -/
theorem step_plain (h : Knows past s) {e : Event} {out : List Response} {t : Fragments}
    (hstep : s.step e = .ok (out, t)) (he : e ≠ .messageStop) :
    Knows (past ++ [e]) t ∧ t.done = s.done ∧ (∀ c ∈ out, c.isDone = false) ∧
      (out = [] ↔ e.speaks past = false) := by
  obtain ⟨hpieces, hdone⟩ := pieces_of_step hstep he
  have hout : ∀ c ∈ out, c.isDone = false := fun c hc => (hpieces c hc).unmarked
  cases e with
  | error detail => exact nomatch hstep
  | messageStop => exact absurd rfl he
  | messageStart m =>
    obtain ⟨rfl, rfl⟩ := Prod.mk.inj (Except.ok.inj hstep)
    exact ⟨h.congr rfl fun i => rfl, hdone, hout, by simp [Event.speaks]⟩
  | blockStop i | ping =>
    obtain ⟨rfl, rfl⟩ := Prod.mk.inj (Except.ok.inj hstep)
    exact ⟨h.congr rfl fun i => rfl, hdone, hout, by simp [Event.speaks]⟩
  | blockStart i b =>
    obtain ⟨rfl, rfl⟩ := Prod.mk.inj (Except.ok.inj hstep)
    exact ⟨h.start i b, hdone, hout, startBlock_speaks past s i b⟩
  | blockDelta i d =>
    obtain ⟨rfl, rfl⟩ := Prod.mk.inj (Except.ok.inj hstep)
    exact ⟨h.congr rfl fun i => rfl, hdone, hout, growBlock_speaks h i d⟩
  | messageDelta ending usage =>
    obtain ⟨rfl, rfl⟩ := Prod.mk.inj (Except.ok.inj hstep)
    obtain ⟨hcalls, hspeaks⟩ := endMessage_speaks past s ending usage
    exact ⟨h.congr hcalls fun i => rfl, hdone, hout, hspeaks⟩

theorem Knows.close (h : Knows past s) : Knows past s.close.2 := by
  intro i
  rw [← h i, Fragments.close]
  cases s.done <;> rfl

theorem Knows.closeMessage (h : Knows past s) : Knows (past ++ [.messageStop]) s.close.2 :=
  h.close.congr rfl fun _ => rfl

theorem done_close (s : Fragments) : s.close.2.done = true := by
  unfold Fragments.close
  split
  · assumption
  · rfl

end Fragments

/-- what a reader does with an event: it tells the end, passes the event over, or takes the step of
the block event in it -/
theorem liftStep_cases {s t : Fragments} {e : ServerEvent} {out : List Response}
    (h : liftStep s e = .ok (out, t)) :
    (marksEnd e = true ∧ (heard? e = none ∨ heard? e = some .messageStop) ∧ s.close = (out, t)) ∨
    (marksEnd e = false ∧ heard? e = none ∧ out = [] ∧ t = s) ∨
    ∃ event, marksEnd e = false ∧ heard? e = some event ∧ event ≠ .messageStop ∧
      s.step event = .ok (out, t) := by
  unfold marksEnd heard?
  unfold liftStep at h
  cases hdone : e.isDoneFromBackend with
  | true =>
    rw [hdone] at h
    exact .inl ⟨rfl, .inl rfl, Except.ok.inj h⟩
  | false =>
    rw [hdone] at h
    simp only [Bool.false_eq_true, if_false] at h ⊢
    cases hevent : eventOf? e with
    | none =>
      rw [hevent] at h
      obtain ⟨rfl, rfl⟩ := Prod.mk.inj (Except.ok.inj h)
      exact .inr (.inl ⟨rfl, rfl, rfl, rfl⟩)
    | some event =>
      rw [hevent] at h
      by_cases hstop : event = .messageStop
      · subst hstop
        exact .inl ⟨by simp, .inr rfl, Except.ok.inj h⟩
      · exact .inr (.inr ⟨event, by simp [hstop], rfl, hstop, h⟩)

theorem lifts : Lifts signs liftStep liftTrailer Fragments.done
    fun past s => Fragments.Knows (heard past) s where
  fails := by
    rw [signs_fault?]
    exact liftStep_eq_error_iff
  faultless e h := by
    rw [signs_marks, marksEnd, Bool.or_eq_true_iff, decide_eq_true_iff] at h
    rw [signs_fault?, faultOf?_eq]
    rcases h with hdone | hstop
    · rw [heard?, if_pos hdone]
      rfl
    · rw [hstop]
      rfl
  next past s e out t hs h := by
    rw [signs_marks, heard_snoc]
    rcases liftStep_cases h with ⟨hm, hheard, hclose⟩ | ⟨hm, hheard, rfl, rfl⟩
      | ⟨event, hm, hheard, hne, hstep⟩
    · obtain rfl : s.close.2 = t := congrArg Prod.snd hclose
      refine ⟨?_, by rw [s.done_close, hm, Bool.or_true]⟩
      rcases hheard with hheard | hheard <;> rw [hheard]
      · simpa using hs.close
      · exact hs.closeMessage
    · rw [hheard, hm, Option.toList_none, List.append_nil, Bool.or_false]
      exact ⟨hs, rfl⟩
    · obtain ⟨hk, hdone, -⟩ := Fragments.step_plain hs hstep hne
      rw [hheard, hm, Bool.or_false]
      exact ⟨hk, hdone⟩
  tells s e out t h hm hs := by
    rw [signs_marks] at hm
    rcases liftStep_cases h with ⟨-, -, hclose⟩ | ⟨hm', -⟩ | ⟨_, hm', -⟩
    · rw [Fragments.close, hs] at hclose
      exact ⟨.done, rfl, (congrArg Prod.fst hclose).symm⟩
    · exact absurd hm (Bool.eq_false_iff.mp hm')
    · exact absurd hm (Bool.eq_false_iff.mp hm')
  goesOn past s e out t hs h hno := by
    rw [signs_marks] at hno
    rw [signs_speaks, speaks]
    rcases liftStep_cases h with ⟨hm, hheard, hclose⟩ | ⟨-, hheard, rfl, -⟩
      | ⟨event, -, hheard, hne, hstep⟩
    · -- the end has been told, so nothing comes
      have hs : s.done = true := hno.resolve_left fun hm' => Bool.eq_false_iff.mp hm' hm
      rw [Fragments.close_of_done hs] at hclose
      obtain ⟨rfl, -⟩ := Prod.mk.inj hclose
      rcases hheard with hheard | hheard <;> simp [hheard, Event.speaks]
    · simp [hheard]
    · obtain ⟨-, -, hout, hspeaks⟩ := Fragments.step_plain hs hstep hne
      rw [hheard, Option.any_some]
      exact ⟨hout, hspeaks⟩
  closes s := by
    unfold liftTrailer Fragments.close
    cases s.done <;> rfl

theorem told_liftFeed (now : UInt64) (x : Feed ServerEvent) :
    Told signs x.items x.fault? (liftFeed now x).results :=
  lifts.told (fun _ => rfl) rfl x

end Anthropic

/-! ## backends -/

namespace Backend

/-- what the events of a backend are to their reader -/
def signs (b : Backend) : Signs ServerEvent :=
  match b.dialect with
  | .anthropic => Anthropic.signs
  | .openAi | .openRouter => OpenAi.signs

theorem signs_fault? (b : Backend) (e : ServerEvent) : b.signs.fault? e = b.faultOf? e := by
  unfold signs faultOf?
  cases b.dialect with
  | anthropic => simp only [Anthropic.signs_fault?]
  | openAi | openRouter => simp only [OpenAi.signs_fault?]

theorem told_liftFeed (b : Backend) (now : UInt64) (x : Feed ServerEvent) :
    Told b.signs x.items x.fault? (b.liftFeed now x).results := by
  unfold signs liftFeed
  cases b.dialect with
  | anthropic => exact Anthropic.told_liftFeed now x
  | openAi | openRouter => exact OpenAi.told_liftFeed x

/-- **The end marker comes once.**  A lifted stream has one end marker at most.  It has exactly one,
and no fault, where neither the source nor one of its events has a fault.  A fault is the last that
comes, and the end marker comes before it only where the backend marked the end. -/
theorem endMarker_once (b : Backend) (now : UInt64) (x : Feed ServerEvent) :
    (b.liftFeed now x).results.countP isEnd ≤ 1 ∧
    (x.fault? = none → (∀ e ∈ x.items, b.faultOf? e = none) →
      (b.liftFeed now x).results.countP isEnd = 1 ∧
      ∀ r ∈ (b.liftFeed now x).results, r.isOk = true) ∧
    ∀ before f rest, (b.liftFeed now x).results = before ++ .error f :: rest →
      rest = [] ∧ (∀ r ∈ before, r.isOk = true) ∧
      ((∃ r ∈ before, isEnd r = true) ↔ b.signs.Marked x.items) := by
  have htold := b.told_liftFeed now x
  refine ⟨?_, fun hx hitems => ?_, fun before f rest h => ?_⟩
  · rcases htold.countP_isEnd with ⟨hcount, -⟩ | ⟨hcount, -⟩ <;> omega
  · have hfaultless : ∀ e ∈ x.items, b.signs.fault? e = none := fun e he => by
      rw [signs_fault?]
      exact hitems e he
    refine ⟨?_, htold.isOk_of_faultless hfaultless hx⟩
    rcases htold.countP_isEnd with ⟨hcount, -⟩ | ⟨-, -, hfault⟩
    · exact hcount
    · rw [List.findSome?_eq_none_iff.mpr hfaultless, hx] at hfault
      exact absurd rfl hfault
  · obtain ⟨rfl, hbefore⟩ := Feed.results_eq_append_error h
    refine ⟨rfl, hbefore, ?_⟩
    rw [← htold.any_isEnd_iff (f := f) (by simp [h]), h]
    simp [isEnd]

/-- **When the end marker is the last.**  Nothing comes behind the end marker exactly where the
source has no fault behind the first mark and no event there reports one or says anything.  Before
a fault there is no end marker exactly where the end was not marked. -/
theorem endMarker_last_iff (b : Backend) (now : UInt64) (x : Feed ServerEvent) :
    ((∀ before c rest, (b.liftFeed now x).results = before ++ .ok c :: rest →
        c.isDone = true → rest = []) ↔
      ∀ past e rest, x.items = past ++ e :: rest → b.signs.IsFirstMark past e →
        x.fault? = none ∧ b.signs.Quiet (past ++ [e]) rest) ∧
    ∀ f, .error f ∈ (b.liftFeed now x).results →
      ((∀ r ∈ (b.liftFeed now x).results, isEnd r = false) ↔ ¬ b.signs.Marked x.items) := by
  have htold := b.told_liftFeed now x
  refine ⟨htold.last_iff, fun f hf => ?_⟩
  rw [← htold.any_isEnd_iff hf]
  simp

/-- a stream that goes on behind its terminator until it is cut -/
def overrun : List (Except Fault ServerEvent) :=
  [ .ok { data := "[DONE]" },
    .ok { data := "\x7b\"choices\":[\x7b\"delta\":\x7b\"content\":\"late\"\x7d\x7d]\x7d" },
    .error (.transport "reset") ]

/-- the fragment behind the terminator -/
def late : Response :=
  { object := "chat.completion.chunk"
    choices := [{ delta := some { content := some (.text "late") } }] }

/-- a fragment and a fault come behind the end marker, and the caller gets both behind the
terminator -/
theorem overrun_behind_endMarker :
    (chunking.liftFeed 0 (.ofSource overrun)).results
      = [.ok .done, .ok late, .error (.transport "reset")] ∧
    (({ dialect := .openAi } : Caller).renderFeed { now := 0, token := fun _ => "" }
      (chunking.liftFeed 0 (.ofSource overrun))).items.map (·.isDone) = [true, false] ∧
    (({ dialect := .openAi } : Caller).renderFeed { now := 0, token := fun _ => "" }
      (chunking.liftFeed 0 (.ofSource overrun))).fault? = some (.transport "reset") := by
  have hitems : (chunking.liftFeed 0 (.ofSource overrun)).items = [.done, late] := by
    decide +kernel
  have hfault : (chunking.liftFeed 0 (.ofSource overrun)).fault?
      = some (.transport "reset") := by decide +kernel
  refine ⟨?_, by decide +kernel, by decide +kernel⟩
  rw [Feed.results, hitems, hfault]
  rfl

end Backend
end ChatRelay
