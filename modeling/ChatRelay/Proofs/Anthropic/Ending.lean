import ChatRelay.Proofs.Anthropic.BlockTurn

/-!
# When a message ends, and what its end says

A finish reason waits for usage, which may come with it, behind it or not at all; usage may as well
come before it, and a later reason replaces one that waits.  The message ends with the first chunk
behind which there is an end marker, or a reason and then usage.  It says the last reason that was
given and all usage that was reported.

* `Ends`, `Over`     the chunks that end a message;
* `Awaits`           what a writer knows that has not ended the message;
* `Awaits.step`      a chunk that does not end the message keeps this;
* `Awaits.ending`    one that does gives the ending;
* `message_ends`     the two along a stream of chunks.
-/

namespace ChatRelay.Anthropic

/-- whether an event is one of those that end a message -/
def Event.isEnding : Event → Bool
  | .messageDelta .. | .messageStop => true
  | _ => false

namespace BlockStream

open Assembly (mergeReports mergeReports_append)

/-! ## operations that do not end the message -/

/-- an operation that talks on: it adds events that do not end the message, and leaves open whether
the message has ended and how it is to end -/
structure Talks (p q : Progress) : Prop where
  events : ∃ more, q.events = p.events ++ more ∧ ∀ e ∈ more, e.isEnding = false
  pending : q.state.pending = p.state.pending
  usage : q.state.usage = p.state.usage
  finished : q.state.finished = p.state.finished

namespace Talks

variable {p q : Progress}

theorem refl (p : Progress) : Talks p p :=
  ⟨⟨[], (List.append_nil _).symm, List.forall_mem_nil _⟩, rfl, rfl, rfl⟩

theorem quiet (h : Talks p q) (hp : ∀ e ∈ p.events, e.isEnding = false) :
    ∀ e ∈ q.events, e.isEnding = false := by
  obtain ⟨more, hmore, hno⟩ := h.events
  rw [hmore]
  exact List.forall_mem_append.mpr ⟨hp, hno⟩

theorem emit (h : Talks p q) {e : Event} (he : e.isEnding = false) : Talks p (q.emit e) := by
  obtain ⟨more, hmore, hno⟩ := h.events
  refine ⟨⟨more ++ [e], ?_, ?_⟩, h.pending, h.usage, h.finished⟩
  · show q.events ++ [e] = _
    rw [hmore, List.append_assoc]
  · exact List.forall_mem_append.mpr ⟨hno, List.forall_mem_singleton.mpr he⟩

/-- a note in the state beside what the ending will say and whether it has come -/
theorem note (h : Talks p q) {t : BlockStream} (hp : t.pending = q.state.pending)
    (hu : t.usage = q.state.usage) (hf : t.finished = q.state.finished) :
    Talks p { q with state := t } :=
  ⟨h.events, hp.trans h.pending, hu.trans h.usage, hf.trans h.finished⟩

theorem start (a : Ambient) (c : Response) (h : Talks p q) : Talks p (q.start a c) := by
  unfold Progress.start
  split
  · exact h
  · refine emit ?_ rfl
    exact h.note rfl rfl rfl

theorem closeCurrent (h : Talks p q) : Talks p q.closeCurrent := by
  unfold Progress.closeCurrent
  split
  · refine emit ?_ rfl
    exact h.note rfl rfl rfl
  · exact h

theorem closeAll (h : Talks p q) : Talks p q.closeAll := by
  obtain ⟨⟨more, hmore, hno⟩, hp, hu, hf⟩ := h.closeCurrent
  refine ⟨⟨more ++ q.closeCurrent.state.openTools.map .blockStop, ?_, ?_⟩, hp, hu, hf⟩
  · show q.closeCurrent.events ++ _ = _
    rw [hmore, List.append_assoc]
  · refine List.forall_mem_append.mpr ⟨hno, fun e he => ?_⟩
    obtain ⟨i, -, rfl⟩ := List.mem_map.mp he
    rfl

theorem openBlock (h : Talks p q) (b : Block) : Talks p (q.openBlock b) := by
  refine emit ?_ rfl
  exact h.closeCurrent.note rfl rfl rfl

theorem addText (h : Talks p q) (text : String) : Talks p (q.addText text) := by
  unfold Progress.addText
  split
  · exact h.emit rfl
  · refine emit ?_ rfl
    exact (h.openBlock _).note rfl rfl rfl

theorem addThinking (h : Talks p q) (d : Delta) : Talks p (q.addThinking d) := by
  unfold Progress.addThinking
  split
  · exact h.emit rfl
  · refine emit ?_ rfl
    exact (h.openBlock _).note rfl rfl rfl

theorem addArguments (h : Talks p q) (i : UInt32) (arguments : String) :
    Talks p (q.addArguments i arguments) := by
  unfold Progress.addArguments
  split
  · exact h
  · exact h.emit rfl

theorem addCall (h : Talks p q) (a : Ambient) (c : ToolCall) : Talks p (q.addCall a c) := by
  unfold Progress.addCall
  split
  · split
    · exact h.addArguments _ _
    · exact h
  · refine addArguments ?_ _ _
    exact (h.openBlock _).note rfl rfl rfl

theorem addCalls (h : Talks p q) (a : Ambient) (cs : List ToolCall) :
    Talks p (cs.foldl (Progress.addCall a) q) := by
  induction cs generalizing q with
  | nil => exact h
  | cons c cs ih => exact ih (h.addCall a c)

theorem addThought (h : Talks p q) (o : Option String) :
    Talks p (match Progress.nonEmpty? o with
      | some thought => q.addThinking (.thinking thought)
      | none => q) := by
  split
  · exact h.addThinking _
  · exact h

theorem addSign (h : Talks p q) (o : Option String) :
    Talks p (match Progress.nonEmpty? o with
      | some sign => q.addThinking (.signature sign)
      | none => q) := by
  split
  · exact h.addThinking _
  · exact h

theorem addDelta (h : Talks p q) (a : Ambient) (m : ChatRelay.Message) :
    Talks p (q.addDelta a m) := by
  unfold Progress.addDelta
  refine addCalls ?_ a _
  split
  · exact addSign (addThought h _) _
  · exact addText (addSign (addThought h _) _) _

theorem say (h : Talks p q) (a : Ambient) (c : Response) : Talks p (q.say a c) := by
  unfold Progress.say
  split
  · exact addDelta (h.start a c) a _
  · exact h.start a c

/-- the ending comes behind events that do not end the message, with the usage that is known -/
theorem stop (h : Talks p q) (r : FinishReason) :
    ∃ more, (q.stop r).events = p.events ++ more ++ endingOf r p.state.usage ∧
      ∀ e ∈ more, e.isEnding = false := by
  obtain ⟨more, hmore, hno⟩ := h.closeAll.events
  refine ⟨more, ?_, hno⟩
  show q.closeAll.events ++ endingOf r q.closeAll.state.usage = _
  rw [hmore, h.closeAll.usage]

end Talks

/-! ## the chunks that end a message -/

/-- a chunk that ends a message, behind others: an end marker, or usage at or behind a finish
reason -/
inductive Ends (past : List Response) (c : Response) : Prop
  | marked (hd : c.isDone = true)
  | reported (hd : c.isDone = false) (hu : c.usage.isSome = true)
      (hr : ∃ x ∈ past ++ [c], x.isDone = false ∧ (decided? x).isSome = true)

/-- chunks behind which a message is over: one of them ends it -/
def Over (cs : List Response) : Prop := ∃ front c back, cs = front ++ c :: back ∧ Ends front c

/-- the chunks that count: an end marker is passed over, whatever it carries -/
def heard (cs : List Response) : List Response := cs.filter (!·.isDone)

/-- the last finish reason that some chunks give -/
def lastReason? (cs : List Response) : Option FinishReason := (cs.filterMap decided?).getLast?

/-- the finish reason of some chunks, or the one that fits the calls they bring -/
def reasonOf (cs : List Response) : FinishReason :=
  (lastReason? cs).getD (if (callFragments cs).isEmpty then .stop else .toolCalls)

variable {past cs : List Response} {c : Response}

/-! ## chunks, one more -/

theorem Ends.of_unmarked (h : Ends past c) (hd : c.isDone = false) :
    c.usage.isSome = true ∧ ∃ x ∈ past ++ [c], x.isDone = false ∧ (decided? x).isSome = true := by
  obtain hmark | ⟨-, hu, hr⟩ := h
  · rw [hd] at hmark
    exact nomatch hmark
  · exact ⟨hu, hr⟩

theorem over_snoc_iff : Over (past ++ [c]) ↔ Over past ∨ Ends past c := by
  constructor
  · rintro ⟨front, x, back, heq, hx⟩
    rcases List.eq_nil_or_concat back with rfl | ⟨back, y, rfl⟩
    · obtain ⟨rfl, hxc⟩ := List.append_inj' heq rfl
      obtain rfl := List.singleton_inj.mp hxc
      exact .inr hx
    · rw [List.concat_eq_append, ← List.cons_append, ← List.append_assoc] at heq
      obtain ⟨rfl, -⟩ := List.append_inj' heq rfl
      exact .inl ⟨front, x, back, rfl, hx⟩
  · rintro (⟨front, x, back, rfl, hx⟩ | hc)
    · exact ⟨front, x, back ++ [c], by simp, hx⟩
    · exact ⟨past, c, [], rfl, hc⟩

theorem Over.first (h : Over cs) :
    ∃ front c back, cs = front ++ c :: back ∧ ¬ Over front ∧ Ends front c := by
  induction cs using List.reverseRecOn with
  | nil =>
    obtain ⟨front, c, back, heq, -⟩ := h
    simp at heq
  | append_singleton cs c ih =>
    by_cases hcs : Over cs
    · obtain ⟨front, x, back, rfl, hx⟩ := ih hcs
      exact ⟨front, x, back ++ [c], by simp, hx⟩
    · exact ⟨cs, c, [], rfl, hcs, (over_snoc_iff.mp h).resolve_left hcs⟩

theorem lastReason?_snoc : lastReason? (past ++ [c]) = (decided? c).or (lastReason? past) := by
  rw [lastReason?, List.filterMap_append, List.getLast?_append]
  cases hc : decided? c <;> simp [hc, lastReason?]

/-- the reason of chunks that agree on one -/
theorem reasonOf_eq {r : FinishReason} (hr : ∀ x ∈ cs.filterMap decided?, x = r)
    (hsome : lastReason? cs ≠ none) : reasonOf cs = r := by
  obtain ⟨x, hx⟩ := Option.ne_none_iff_exists'.mp hsome
  rw [reasonOf, hx]
  exact hr x (List.mem_of_getLast? hx)

theorem callFragments_snoc :
    callFragments (past ++ [c]) = callFragments past ++ ((said? c).map (·.calls)).getD [] := by
  simp [callFragments, List.flatMap_append]

theorem mergeReports_snoc (u : Option ChatRelay.Usage) :
    mergeReports u (past ++ [c]) = ChatRelay.Usage.merge? (mergeReports u past) c.usage := by
  rw [mergeReports_append]
  rfl

theorem heard_of_unmarked (h : ∀ c ∈ cs, c.isDone = false) : heard cs = cs := by
  refine List.filter_eq_self.mpr fun c hc => ?_
  rw [h c hc]
  rfl

theorem heard_snoc_marked (hd : c.isDone = true) : heard (past ++ [c]) = heard past := by
  simp [heard, List.filter_append, hd]

/-- among chunks without an end marker one gives a finish reason if there is a last one that does -/
theorem exists_decided_iff (h : ∀ c ∈ cs, c.isDone = false) :
    (∃ x ∈ cs, x.isDone = false ∧ (decided? x).isSome = true) ↔ lastReason? cs ≠ none := by
  rw [lastReason?, Ne, List.getLast?_eq_none_iff, List.filterMap_eq_nil_iff]
  push Not
  constructor
  · rintro ⟨x, hx, -, hr⟩
    exact ⟨x, hx, Option.isSome_iff_ne_none.mp hr⟩
  · rintro ⟨x, hx, hr⟩
    exact ⟨x, hx, h x hx, Option.isSome_iff_ne_none.mpr hr⟩

/-! ## the calls that a writer has seen -/

@[simp] theorem toolBlocks_start (a : Ambient) (c : Response) (p : Progress) :
    (p.start a c).state.toolBlocks = p.state.toolBlocks := by
  unfold Progress.start
  split <;> rfl

@[simp] theorem toolBlocks_openBlock (p : Progress) (b : Block) :
    (p.openBlock b).state.toolBlocks = p.state.toolBlocks := by
  rw [openBlock_state]

@[simp] theorem toolBlocks_addText (p : Progress) (text : String) :
    (p.addText text).state.toolBlocks = p.state.toolBlocks := by
  unfold Progress.addText
  split
  · rfl
  · exact toolBlocks_openBlock p (.text "")

@[simp] theorem toolBlocks_addThinking (p : Progress) (d : Delta) :
    (p.addThinking d).state.toolBlocks = p.state.toolBlocks := by
  unfold Progress.addThinking
  split
  · rfl
  · exact toolBlocks_openBlock p (.thinking "" none)

@[simp] theorem toolBlocks_addArguments (p : Progress) (i : UInt32) (arguments : String) :
    (p.addArguments i arguments).state.toolBlocks = p.state.toolBlocks := by
  unfold Progress.addArguments
  split <;> rfl

theorem toolBlocks_addCall_ne_nil (a : Ambient) (p : Progress) (c : ToolCall) :
    (p.addCall a c).state.toolBlocks ≠ [] := by
  unfold Progress.addCall
  split
  · next block hblock =>
    have hne : p.state.toolBlocks ≠ [] := by
      intro hnil
      rw [hnil] at hblock
      exact nomatch hblock
    split
    · rwa [toolBlocks_addArguments]
    · exact hne
  · rw [toolBlocks_addArguments]
    exact Slots.update_ne_nil _ _ _

theorem toolBlocks_addCalls (a : Ambient) (p : Progress) (calls : List ToolCall) :
    (calls.foldl (Progress.addCall a) p).state.toolBlocks = [] ↔
      p.state.toolBlocks = [] ∧ calls = [] := by
  induction calls generalizing p with
  | nil => simp
  | cons c calls ih =>
    rw [List.foldl_cons, ih]
    simp [toolBlocks_addCall_ne_nil]

theorem toolBlocks_addDelta (a : Ambient) (p : Progress) (m : ChatRelay.Message) :
    (p.addDelta a m).state.toolBlocks = [] ↔ p.state.toolBlocks = [] ∧ m.calls = [] := by
  rw [Progress.addDelta, toolBlocks_addCalls]
  refine and_congr_left' (Eq.congr_left ?_)
  cases Progress.nonEmpty? m.reasoning <;> cases Progress.nonEmpty? m.signature <;>
    by_cases ht : m.plainText = "" <;> simp [ht]

theorem toolBlocks_say (a : Ambient) (p : Progress) (c : Response) :
    (p.say a c).state.toolBlocks = [] ↔
      p.state.toolBlocks = [] ∧ ((said? c).map (·.calls)).getD [] = [] := by
  unfold Progress.say
  cases said? c with
  | none => simp
  | some m => simp [toolBlocks_addDelta]

theorem toolBlocks_finishWith (p : Progress) (r : Option FinishReason) :
    (p.finishWith r).state.toolBlocks = p.state.toolBlocks := by
  cases r with
  | none => rfl
  | some r =>
    show p.closeCurrent.state.toolBlocks = _
    rw [closeCurrent_state]

/-! ## a writer that goes on -/

/-- what a writer knows behind some chunks if the message has not ended: the reason that waits, the
usage so far, and whether there have been calls -/
structure Awaits (past : List Response) (s : BlockStream) : Prop where
  unmarked : ∀ c ∈ past, c.isDone = false
  unfinished : s.finished = false
  pending : s.pending = lastReason? past
  usage : s.usage = mergeReports none past
  calls : s.toolBlocks = [] ↔ callFragments past = []

/-- a chunk that has been written up to its report: its finish reason waits with the others -/
structure Said (past : List Response) (c : Response) (p : Progress) : Prop where
  quiet : ∀ e ∈ p.events, e.isEnding = false
  unfinished : p.state.finished = false
  pending : p.state.pending = lastReason? (past ++ [c])
  usage : p.state.usage = mergeReports none past
  calls : p.state.toolBlocks = [] ↔ callFragments (past ++ [c]) = []

namespace Awaits

variable {s : BlockStream}

theorem fresh : Awaits [] {} where
  unmarked := List.forall_mem_nil _
  unfinished := rfl
  pending := rfl
  usage := rfl
  calls := iff_of_true rfl rfl

theorem say (h : Awaits past s) (a : Ambient) (c : Response) :
    Said past c (((⟨[], s⟩ : Progress).say a c).finishWith (decided? c)) := by
  have hsaid := (Talks.refl (⟨[], s⟩ : Progress)).say a c
  have hcalls : ((⟨[], s⟩ : Progress).say a c).state.toolBlocks = [] ↔
      callFragments (past ++ [c]) = [] := by
    rw [toolBlocks_say, callFragments_snoc, List.append_eq_nil_iff]
    exact and_congr_left' h.calls
  rw [← toolBlocks_finishWith _ (decided? c)] at hcalls
  cases hdec : decided? c with
  | none =>
    rw [hdec] at hcalls
    exact {
      quiet := hsaid.quiet (List.forall_mem_nil _)
      unfinished := hsaid.finished.trans h.unfinished
      pending := by
        rw [lastReason?_snoc, hdec]
        exact hsaid.pending.trans h.pending
      usage := hsaid.usage.trans h.usage
      calls := hcalls }
  | some r =>
    rw [hdec] at hcalls
    exact {
      quiet := hsaid.closeAll.quiet (List.forall_mem_nil _)
      unfinished := hsaid.closeAll.finished.trans h.unfinished
      pending := by
        rw [lastReason?_snoc, hdec]
        rfl
      usage := hsaid.closeAll.usage.trans h.usage
      calls := hcalls }

theorem unmarked_snoc (h : Awaits past s) (hd : c.isDone = false) :
    ∀ x ∈ past ++ [c], x.isDone = false :=
  List.forall_mem_append.mpr ⟨h.unmarked, List.forall_mem_singleton.mpr hd⟩

/-- a chunk that is no end marker ends the message if it reports usage where a reason is known -/
theorem ends_iff (h : Awaits past s) (hd : c.isDone = false) :
    Ends past c ↔ c.usage ≠ none ∧ lastReason? (past ++ [c]) ≠ none := by
  rw [← exists_decided_iff (h.unmarked_snoc hd), ← Option.isSome_iff_ne_none]
  exact ⟨fun hc => hc.of_unmarked hd, fun ⟨hu, hr⟩ => .reported hd hu hr⟩

/-- the step of a chunk that does not end the message -/
theorem step (h : Awaits past s) (a : Ambient) (hc : ¬ Ends past c) :
    Awaits (past ++ [c]) (s.step a c).2 ∧ ∀ e ∈ (s.step a c).1, e.isEnding = false := by
  have hd : c.isDone = false := Bool.eq_false_iff.mpr fun hd => hc (.marked hd)
  have hsaid := h.say a c
  rw [h.ends_iff hd] at hc
  rw [step_eq h.unfinished a hd]
  generalize ((⟨[], s⟩ : Progress).say a c).finishWith (decided? c) = p at hsaid
  cases hu : c.usage with
  | none =>
    refine ⟨⟨h.unmarked_snoc hd, hsaid.unfinished, hsaid.pending, ?_, hsaid.calls⟩, hsaid.quiet⟩
    rw [mergeReports_snoc, hu, ChatRelay.Usage.merge?_none_right]
    exact hsaid.usage
  | some u =>
    -- the report would end the message if a reason were known
    have hnone : lastReason? (past ++ [c]) = none := by
      by_contra hr
      exact hc ⟨by simp [hu], hr⟩
    have hpending := hsaid.pending.trans hnone
    have hreport : p.report (some u) = { p with state := { p.state with
        usage := ChatRelay.Usage.merge? p.state.usage (some u) } } := by
      simp only [Progress.report, hpending]
    rw [hreport]
    refine ⟨⟨h.unmarked_snoc hd, hsaid.unfinished, hsaid.pending, ?_, hsaid.calls⟩, hsaid.quiet⟩
    rw [mergeReports_snoc, hu, ← hsaid.usage]

/-- the reason that an end marker finds -/
theorem reason_eq (h : Awaits past s) :
    s.pending.getD (if s.toolBlocks.isEmpty then .stop else .toolCalls) = reasonOf past := by
  have hempty : s.toolBlocks.isEmpty = (callFragments past).isEmpty := by
    rw [Bool.eq_iff_iff, List.isEmpty_iff, List.isEmpty_iff]
    exact h.calls
  rw [h.pending, hempty, reasonOf]

theorem ending_of_marked (h : Awaits past s) (a : Ambient) (hd : c.isDone = true) :
    ∃ pre, (s.step a c).1 = pre ++ endingOf (reasonOf past) (mergeReports none past) ∧
      ∀ e ∈ pre, e.isEnding = false := by
  have hstart := (Talks.refl (⟨[], s⟩ : Progress)).start a {}
  have htools := toolBlocks_start a {} (⟨[], s⟩ : Progress)
  have hstep : (s.step a c).1 = ((⟨[], s⟩ : Progress).finish a).events := by
    simp [BlockStream.step, h.unfinished, hd]
  generalize hp : (⟨[], s⟩ : Progress).start a {} = p at hstart htools
  have hreason : p.state.pending.getD (if p.state.toolBlocks.isEmpty then .stop else .toolCalls)
      = reasonOf past := by
    rw [hstart.pending, htools]
    exact h.reason_eq
  have hfinish : (⟨[], s⟩ : Progress).finish a = Progress.stop (reasonOf past)
      { p with state := { p.state with pending := none } } := by
    simp only [Progress.finish, hp, hreason]
  obtain ⟨more, hmore, hno⟩ :=
    (Talks.refl { p with state := { p.state with pending := none } }).stop (reasonOf past)
  rw [hstep, hfinish, hmore, ← h.usage, ← hstart.usage]
  refine ⟨p.events ++ more, rfl, List.forall_mem_append.mpr ⟨?_, hno⟩⟩
  exact hstart.quiet (List.forall_mem_nil _)

theorem ending_of_reported (h : Awaits past s) (a : Ambient) (hd : c.isDone = false)
    (hc : Ends past c) :
    (∃ pre, (s.step a c).1
        = pre ++ endingOf (reasonOf (past ++ [c])) (mergeReports none (past ++ [c])) ∧
      ∀ e ∈ pre, e.isEnding = false) ∧ (s.step a c).2.finished = true := by
  have hsaid := h.say a c
  obtain ⟨hu, hr⟩ := (h.ends_iff hd).mp hc
  obtain ⟨u, hu⟩ := Option.ne_none_iff_exists'.mp hu
  obtain ⟨r, hr⟩ := Option.ne_none_iff_exists'.mp hr
  rw [step_eq h.unfinished a hd, hu]
  generalize ((⟨[], s⟩ : Progress).say a c).finishWith (decided? c) = p at hsaid
  have hreport : p.report (some u) = Progress.stop r { p with state := { p.state with
      usage := ChatRelay.Usage.merge? p.state.usage (some u), pending := none } } := by
    simp only [Progress.report, hsaid.pending.trans hr]
  have hreason : reasonOf (past ++ [c]) = r := by
    rw [reasonOf, hr]
    rfl
  rw [hreport, hreason, mergeReports_snoc, hu, ← hsaid.usage]
  obtain ⟨more, hmore, hno⟩ := (Talks.refl { p with state := { p.state with
    usage := ChatRelay.Usage.merge? p.state.usage (some u), pending := none } }).stop r
  exact ⟨⟨p.events ++ more, hmore, List.forall_mem_append.mpr ⟨hsaid.quiet, hno⟩⟩, rfl⟩

/-- the step of a chunk that ends the message -/
theorem ending (h : Awaits past s) (a : Ambient) (hc : Ends past c) :
    (∃ pre, (s.step a c).1 = pre ++
        endingOf (reasonOf (heard (past ++ [c]))) (mergeReports none (heard (past ++ [c]))) ∧
      ∀ e ∈ pre, e.isEnding = false) ∧ (s.step a c).2.finished = true := by
  cases hd : c.isDone with
  | true =>
    rw [heard_snoc_marked hd, heard_of_unmarked h.unmarked]
    exact ⟨h.ending_of_marked a hd, finished_step_of_isDone s a hd⟩
  | false =>
    rw [heard_of_unmarked (h.unmarked_snoc hd)]
    exact h.ending_of_reported a hd hc

end Awaits

/-! ## a stream of chunks -/

theorem run_snoc (a : Ambient) (s : BlockStream) (cs : List Response) (c : Response) :
    s.run a (cs ++ [c]) = ((s.run a cs).1 ++ ((s.run a cs).2.step a c).1,
      ((s.run a cs).2.step a c).2) := by
  rw [run_append, run_cons, run_nil, List.append_nil]

theorem run_awaits (a : Ambient) (h : ¬ Over cs) :
    Awaits cs (run a {} cs).2 ∧ ∀ e ∈ (run a {} cs).1, e.isEnding = false := by
  -- from the right, since whether a chunk ends the message depends on those in front of it
  induction cs using List.reverseRecOn with
  | nil => exact ⟨.fresh, List.forall_mem_nil _⟩
  | append_singleton cs c ih =>
    rw [over_snoc_iff, not_or] at h
    obtain ⟨hawaits, hquiet⟩ := ih h.1
    obtain ⟨hstep, hno⟩ := hawaits.step a h.2
    rw [run_snoc]
    exact ⟨hstep, List.forall_mem_append.mpr ⟨hquiet, hno⟩⟩

/-- the first chunk that ends a message ends it, whatever comes behind -/
theorem run_ends (a : Ambient) {front : List Response} (back : List Response)
    (hfront : ¬ Over front) (hc : Ends front c) :
    ∃ pre, (run a {} (front ++ c :: back)).1 = pre ++ endingOf (reasonOf (heard (front ++ [c])))
        (mergeReports none (heard (front ++ [c]))) ∧
      ∀ e ∈ pre, e.isEnding = false := by
  obtain ⟨hawaits, hquiet⟩ := run_awaits a hfront
  obtain ⟨⟨pre, hpre, hno⟩, hf⟩ := hawaits.ending a hc
  refine ⟨(run a {} front).1 ++ pre, ?_, List.forall_mem_append.mpr ⟨hquiet, hno⟩⟩
  rw [run_append, run_cons, run_of_finished hf, List.append_nil, hpre, List.append_assoc]

theorem finished_run_iff (a : Ambient) (cs : List Response) :
    (run a {} cs).2.finished = true ↔ Over cs := by
  constructor
  · intro hf
    by_contra h
    rw [(run_awaits a h).1.unfinished] at hf
    exact nomatch hf
  · intro h
    obtain ⟨front, c, back, rfl, hfront, hc⟩ := h.first
    obtain ⟨-, hf⟩ := (run_awaits a hfront).1.ending a hc
    rw [run_append, run_cons, run_of_finished hf]
    exact hf

/-- **When a message ends, and what its end says.**  A message is over behind an end marker, and
behind usage at or behind a finish reason; until then no event ends it.  The chunk that brings this
about ends it: with the last finish reason among the first choices that count, or else one that fits
their calls, and with all reports of usage merged. -/
theorem message_ends (a : Ambient) (cs : List Response) :
    ((run a {} cs).2.finished = true ↔ Over cs) ∧
    (¬ Over cs → ∀ e ∈ (run a {} cs).1, e.isEnding = false) ∧
    ∀ front c back, cs = front ++ c :: back → ¬ Over front → Over (front ++ [c]) →
      ∃ pre, ((run a {} front).2.step a c).1 = pre ++
          [.messageDelta { stopReason := some (stopOfFinish (reasonOf (heard (front ++ [c])))) }
            (some (((mergeReports none (heard (front ++ [c]))).map lowerUsage).getD {})),
           .messageStop] ∧
        (∀ e ∈ pre, e.isEnding = false) ∧
        (run a {} cs).1 = (run a {} front).1 ++ ((run a {} front).2.step a c).1 := by
  refine ⟨finished_run_iff a cs, fun h => (run_awaits a h).2, ?_⟩
  rintro front c back rfl hfront hc
  have hends : Ends front c := (over_snoc_iff.mp hc).resolve_left hfront
  obtain ⟨⟨pre, hpre, hno⟩, hf⟩ := (run_awaits a hfront).1.ending a hends
  refine ⟨pre, hpre, hno, ?_⟩
  rw [run_append, run_cons, run_of_finished hf, List.append_nil]

/-- usage in front of a finish reason, and a second reason that comes with a call; the usage behind
it ends the message -/
def lingering : List Response :=
  [ { usage := some { prompt := 3 } },
    { choices := [{ finish := some .stop }] },
    { choices := [{ delta := some { toolCalls := some [{ index := 2, id := "t", name := "f" }] },
                    finish := some .length }] } ]

theorem message_ends_lingering :
    (run ⟨0, fun _ => "0"⟩ {} lingering).2.finished = false ∧
    ∃ pre, (run ⟨0, fun _ => "0"⟩ {} (lingering ++ { usage := some { completion := 4 } } ::
        [{ choices := [{ finish := some .stop }], usage := some { completion := 9 } }, .done])).1
      = (run ⟨0, fun _ => "0"⟩ {} lingering).1 ++ (pre ++
        [.messageDelta { stopReason := some "max_tokens" } (some { input := 3, output := 4 }),
          .messageStop]) := by
  have hgoes : ¬ Over lingering := (message_ends ⟨0, fun _ => "0"⟩ lingering).1.not.mp (by decide)
  have hover : Over (lingering ++ [{ usage := some { completion := 4 } }]) :=
    (message_ends ⟨0, fun _ => "0"⟩ _).1.mp (by decide)
  obtain ⟨-, -, hends⟩ := message_ends ⟨0, fun _ => "0"⟩
    (lingering ++ { usage := some { completion := 4 } } ::
      [{ choices := [{ finish := some .stop }], usage := some { completion := 9 } }, .done])
  obtain ⟨pre, hpre, -, hrun⟩ := hends _ _ _ rfl hgoes hover
  refine ⟨by decide, pre, ?_⟩
  rw [hrun, hpre]
  rfl

/-- an end marker that carries a finish reason -/
def markedReason : Response := { object := doneMarker, choices := [{ finish := some .length }] }

/-- the finish reason of an end marker does not count -/
theorem marker_reason_passed_over :
    reasonOf [markedReason] = .length ∧ Over [markedReason] ∧
    ¬ ∃ pre u, (run ⟨0, fun _ => "0"⟩ {} [markedReason]).1 = pre ++
      [.messageDelta { stopReason := some (stopOfFinish (reasonOf [markedReason])) } u,
        .messageStop] := by
  refine ⟨rfl, ⟨[], markedReason, [], rfl, .marked rfl⟩, ?_⟩
  rintro ⟨pre, u, h⟩
  have hrun : (run ⟨0, fun _ => "0"⟩ {} [markedReason]).1
      = [.messageStart { id := "msg_0" }] ++
        [.messageDelta { stopReason := some "end_turn" } (some {}), .messageStop] := by decide
  rw [hrun] at h
  obtain ⟨-, hending⟩ := List.append_inj' h rfl
  simp [reasonOf, lastReason?, decided?, markedReason, stopOfFinish] at hending

end BlockStream
end ChatRelay.Anthropic
