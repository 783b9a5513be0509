import ChatRelay.Proofs.Anthropic.Mirror
import ChatRelay.Proofs.Assembly

/-!
# The written stream tells the turn of its fragments

Fragments up to a finish reason keep events, state and draft alike (`Begun.run`).  Behind the reason
the writer waits for usage or the end marker, and then gives the ending (`Waiting.report_run`).
Collecting what it has written gives the turn that the fragments are assembled to.

* `Begun.run`                  the fragments in front of the finish reason;
* `Waiting.report_run`         what follows it;
* `collect_run_eq_assemble`    the turn that is collected is the one that is assembled.
-/

namespace ChatRelay.Anthropic

open Assembly (mergeReports mergeReports_append mergeReports_of_none)

/-! ## what the ending says -/

/-- a count that is left out where it is zero -/
theorem getD_positive (x : TokenCount) : (if 0 < x then some x else none).getD 0 = x := by
  split
  · rfl
  · next hx =>
    have hzero := ChatRelay.Usage.firstCount_zero_right x
    rw [ChatRelay.Usage.firstCount, if_neg hx] at hzero
    exact hzero

/-- usage taken apart and put together again, where the cached tokens are part of the prompt -/
theorem lift_lowerUsage {u : ChatRelay.Usage}
    (h : u.cached.toNat + u.written.toNat ≤ u.prompt.toNat) :
    (lowerUsage u).lift.prompt = u.prompt ∧ (lowerUsage u).lift.completion = u.completion := by
  refine ⟨?_, rfl⟩
  show TokenCount.plus (TokenCount.plus (TokenCount.minus (u.prompt.minus u.cached) u.written)
    ((if 0 < u.cached then some u.cached else none).getD 0))
    ((if 0 < u.written then some u.written else none).getD 0) = u.prompt
  rw [getD_positive, getD_positive]
  refine UInt32.toNat_inj.mp ?_
  rw [TokenCount.toNat_plus, TokenCount.toNat_plus, TokenCount.toNat_minus, TokenCount.toNat_minus]
  have hlt := u.prompt.toNat_lt
  omega

namespace BlockStream

/-- the end of a message, with what is known of its usage -/
def endingOf (r : FinishReason) (u : Option ChatRelay.Usage) : List Event :=
  [.messageDelta { stopReason := some (stopOfFinish r) } (some ((u.map lowerUsage).getD {})),
    .messageStop]

/-! ## behind the finish reason -/

/-- a writer that waits with a finish reason, all its blocks ended -/
structure Waiting (r : FinishReason) (u : Option ChatRelay.Usage) (s : BlockStream) : Prop where
  isStarted : s.started = true
  unfinished : s.finished = false
  decided : s.pending = some r
  usage : s.usage = u
  noCurrent : s.current = none
  noTools : s.openTools = []

theorem stop_eq {p : Progress} (hc : p.state.current = none) (ht : p.state.openTools = [])
    (r : FinishReason) :
    p.stop r = ⟨p.events ++ endingOf r p.state.usage, { p.state with finished := true }⟩ := by
  obtain ⟨es, s⟩ := p
  cases s
  simp only at hc ht
  subst hc ht
  simp [Progress.stop, Progress.closeAll, Progress.closeCurrent, endingOf]

theorem Waiting.report {r : FinishReason} {u : Option ChatRelay.Usage} {p : Progress}
    (h : Waiting r u p.state) (v : ChatRelay.Usage) :
    (p.report (some v)).events = p.events ++ endingOf r (ChatRelay.Usage.merge? u (some v)) ∧
      (p.report (some v)).state.finished = true := by
  unfold Progress.report
  simp only [h.decided]
  rw [stop_eq (by exact h.noCurrent) (by exact h.noTools), h.usage]
  exact ⟨rfl, rfl⟩

theorem Waiting.step {r : FinishReason} {u : Option ChatRelay.Usage} {s : BlockStream}
    (h : Waiting r u s) (a : Ambient) {c : Response} (hd : c.isDone = false)
    (hc : c.choices = []) :
    s.step a c = (((⟨[], s⟩ : Progress).report c.usage).events,
      ((⟨[], s⟩ : Progress).report c.usage).state) := by
  have hstart : (⟨[], s⟩ : Progress).start a c = ⟨[], s⟩ := by
    rw [Progress.start, if_pos h.isStarted]
  simp only [BlockStream.step, h.unfinished, hd, hc, List.head?_nil, hstart, if_neg,
    Bool.false_eq_true, not_false_eq_true]

theorem Waiting.stepDone {r : FinishReason} {u : Option ChatRelay.Usage} {s : BlockStream}
    (h : Waiting r u s) (a : Ambient) {c : Response} (hd : c.isDone = true) :
    (s.step a c).1 = endingOf r u := by
  have hstart : (⟨[], s⟩ : Progress).start a {} = ⟨[], s⟩ := by
    rw [Progress.start, if_pos h.isStarted]
  simp only [BlockStream.step, h.unfinished, hd, if_pos, if_neg, Bool.false_eq_true,
    not_false_eq_true, Progress.finish, hstart, h.decided, Option.getD_some]
  rw [stop_eq (by exact h.noCurrent) (by exact h.noTools), h.usage]
  exact List.nil_append _

/-- behind a finish reason comes the ending, with all usage that is reported, at once where the
reason or a chunk behind it brings a report -/
theorem Waiting.report_run {r : FinishReason} {u : Option ChatRelay.Usage} {p : Progress}
    (h : Waiting r u p.state) (a : Ambient) (v : Option ChatRelay.Usage) {tail : List Response}
    {last : Response} (hlast : last.isDone = true) (htail : ∀ c ∈ tail, c.isDone = false)
    (hquiet : ∀ c ∈ tail, c.choices = [])
    (hone : (v.toList ++ tail.filterMap (·.usage)).length ≤ 1) :
    (p.report v).events ++ ((p.report v).state.run a (tail ++ [last])).1
      = p.events ++ endingOf r (mergeReports (ChatRelay.Usage.merge? u v) tail) := by
  induction tail generalizing p v with
  | nil =>
    cases v with
    | none =>
      show p.events ++ (p.state.run a [last]).1 = _
      rw [run_cons, h.stepDone a hlast, run_nil, List.append_nil]
      simp [mergeReports]
    | some v =>
      obtain ⟨he, hf⟩ := h.report v
      rw [he, run_of_finished hf, List.append_nil]
      rfl
  | cons c tail ih =>
    have hc := htail c List.mem_cons_self
    have htail' : ∀ c ∈ tail, c.isDone = false := fun x hx => htail x (List.mem_cons_of_mem _ hx)
    have hquiet' : ∀ c ∈ tail, c.choices = [] := fun x hx => hquiet x (List.mem_cons_of_mem _ hx)
    cases v with
    | none =>
      have hwait : Waiting r u (⟨[], p.state⟩ : Progress).state := h
      have hrest := ih hwait c.usage htail' hquiet' (by
        cases hu : c.usage <;> simpa [hu, List.filterMap_cons] using hone)
      show p.events ++ (p.state.run a (c :: (tail ++ [last]))).1 = _
      rw [run_cons, hwait.step a hc (hquiet c List.mem_cons_self), hrest,
        ChatRelay.Usage.merge?_none_right]
      rfl
    | some v =>
      obtain ⟨he, hf⟩ := h.report v
      -- the one report has come, so the rest of the tail brings none
      have hnone : mergeReports (ChatRelay.Usage.merge? u (some v)) (c :: tail)
          = ChatRelay.Usage.merge? u (some v) := by
        have hquiet : ∀ x ∈ c :: tail, x.usage = none := by
          have hnil : (c :: tail).filterMap (·.usage) = [] := by
            rw [← List.length_eq_zero_iff]
            simp only [Option.toList_some, List.length_append, List.length_singleton] at hone
            omega
          exact List.filterMap_eq_nil_iff.mp hnil
        exact mergeReports_of_none hquiet _
      rw [he, run_of_finished hf, List.append_nil, hnone]

/-! ## up to the finish reason -/

/-- the fragment of the message that a chunk brings -/
def said? (c : Response) : Option ChatRelay.Message := c.choices.head?.bind (·.fragment?)

/-- the finish reason that a chunk brings -/
def decided? (c : Response) : Option FinishReason := c.choices.head?.bind (·.finish)

/-- the fragments of tool calls that some chunks bring -/
def callFragments (chunks : List Response) : List ToolCall :=
  chunks.flatMap fun c => ((said? c).map (·.calls)).getD []

/-- the start of the message, and a fragment of it -/
def Progress.say (a : Ambient) (c : Response) (p : Progress) : Progress :=
  match said? c with
  | some m => (p.start a c).addDelta a m
  | none => p.start a c

/-- a chunk is a fragment, a finish reason and a report -/
theorem step_eq {s : BlockStream} (hf : s.finished = false) (a : Ambient) {c : Response}
    (hd : c.isDone = false) :
    s.step a c = (((((⟨[], s⟩ : Progress).say a c).finishWith (decided? c)).report c.usage).events,
      ((((⟨[], s⟩ : Progress).say a c).finishWith (decided? c)).report c.usage).state) := by
  simp only [BlockStream.step, hf, hd, if_neg, Bool.false_eq_true, not_false_eq_true]
  unfold Progress.say said? decided?
  cases c.choices with
  | nil => rfl
  | cons x xs =>
    cases hx : x.fragment? <;> simp [hx]

/-- a chunk of at most one choice adds its fragment and its finish reason to a draft -/
theorem foldl_addChoice {c : Response} (hc : c.choices.length ≤ 1) (d : Draft) :
    c.choices.foldl Draft.addChoice d
      = (((said? c).map d.add).getD d).finishWith (decided? c) := by
  unfold said? decided?
  match hx : c.choices with
  | [] => rfl
  | [x] => rfl
  | x :: y :: xs => simp [hx] at hc

theorem blockStarts_append (es fs : List Event) :
    blockStarts (es ++ fs) = blockStarts es ++ blockStarts fs := List.filterMap_append

theorem blockStarts_finishWith (past : List Event) (p : Progress) (r : Option FinishReason) :
    blockStarts (past ++ (p.finishWith r).events) = blockStarts (past ++ p.events) := by
  unfold Progress.finishWith
  split
  · exact blockStarts_closeAll past p
  · rfl

theorem blockStarts_report (past : List Event) (p : Progress) (v : Option ChatRelay.Usage) :
    blockStarts (past ++ (p.report v).events) = blockStarts (past ++ p.events) := by
  have hstop : ∀ (q : Progress) (r : FinishReason),
      blockStarts (past ++ (q.stop r).events) = blockStarts (past ++ q.events) := by
    intro q r
    have he : past ++ (q.stop r).events = past ++ q.closeAll.events
        ++ [.messageDelta { stopReason := some (stopOfFinish r) }
          (some ((q.closeAll.state.usage.map lowerUsage).getD {})), .messageStop] :=
      (List.append_assoc ..).symm
    rw [he, blockStarts_ending, blockStarts_closeAll]
  unfold Progress.report
  split
  · rfl
  · split
    · exact hstop _ _
    · rfl

/-- a message that has not started, or one underway -/
inductive Begun (rest : List ToolCall) (d : Draft) (u : Option ChatRelay.Usage) (es : List Event)
    (s : BlockStream) : Prop
  | fresh (hes : es = []) (hs : s = {}) (hd : d = {}) (hu : u = none) (hin : Introduced [] rest)
  | underway (h : Mirrors rest d u es s)

namespace Begun

variable {past es : List Event} {p : Progress} {s : BlockStream} {rest : List ToolCall} {d : Draft}
  {u : Option ChatRelay.Usage}

theorem unfinished (h : Begun rest d u es s) : s.finished = false := by
  cases h with
  | fresh _ hs => rw [hs]
  | underway h =>
    obtain ⟨m, ts, -, hmatch, -⟩ := h
    exact hmatch.standing.unfinished

theorem start (h : Holds (Begun rest d u) past p) (a : Ambient) (c : Response) :
    Holds (Mirrors rest d u) past (p.start a c) := by
  intro hlt
  have hlt' : (blockStarts (past ++ p.events)).length < UInt32.size := by
    unfold Progress.start at hlt
    split at hlt
    · exact hlt
    · rw [append_emit, blockStarts_snoc] at hlt
      simpa [Event.start?] using hlt
  unfold Progress.start
  cases h hlt' with
  | fresh hes hs hd hu hin =>
    rw [if_neg (by simp [hs]), append_emit, hes, hs, hd, hu]
    refine ⟨{ id := if c.id = "" then a.identifier "msg_" 0 else c.id, model := c.model }, [], rfl,
      ?_, hin, by simp⟩
    exact { echoes := { tells := .opening _, signature := rfl, calls := rfl }
            ascending := .nil
            numbered := rfl
            next := rfl
            current := fun _ hb => by cases hb
            toolBlocks := rfl
            openTools := rfl
            standing := ⟨rfl, rfl, rfl, rfl⟩ }
  | underway hu =>
    obtain ⟨m, ts, -, hmatch, -⟩ := id hu
    rw [if_pos hmatch.standing.isStarted]
    exact hu

theorem say (a : Ambient) (c : Response)
    (h : Holds (Begun (((said? c).map (·.calls)).getD [] ++ rest) d u) past p) :
    Holds (Mirrors rest (((said? c).map d.add).getD d) u) past (p.say a c) := by
  unfold Progress.say
  split
  · next m hm =>
    rw [hm] at h ⊢
    exact Mirrors.addDelta a m (start h a c)
  · next hm =>
    rw [hm] at h ⊢
    exact start h a c

theorem report (h : Holds (Mirrors rest d u) past p) (v : Option ChatRelay.Usage) :
    Holds (Mirrors rest d (ChatRelay.Usage.merge? u v)) past (p.report v) := by
  intro hlt
  rw [blockStarts_report] at hlt
  obtain ⟨m, ts, hm, hmatch, hrest⟩ := h hlt
  cases v with
  | none =>
    rw [ChatRelay.Usage.merge?_none_right]
    exact ⟨m, ts, hm, hmatch, hrest⟩
  | some v =>
    simp only [Progress.report, hmatch.standing.undecided]
    refine ⟨m, ts, hm, { hmatch with standing := ?_ }, hrest⟩
    exact ⟨hmatch.standing.isStarted, hmatch.standing.unfinished, rfl,
      by rw [hmatch.standing.usage]⟩

theorem step (s : BlockStream) (a : Ambient) {c : Response} (hd : c.isDone = false)
    (hc : c.choices.length ≤ 1) (hr : decided? c = none)
    (h : Holds (Begun (((said? c).map (·.calls)).getD [] ++ rest) d u) past ⟨[], s⟩) :
    Holds (Begun rest (c.choices.foldl Draft.addChoice d) (ChatRelay.Usage.merge? u c.usage)) past
      ⟨(s.step a c).1, (s.step a c).2⟩ := by
  by_cases hf : s.finished = false
  · have hsaid := report (say a c h) c.usage
    rw [foldl_addChoice hc, hr, step_eq hf a hd, hr]
    exact fun hlt => .underway (hsaid hlt)
  · rw [step_of_finished (by simpa using hf)]
    exact fun hlt => absurd (h hlt).unfinished hf

theorem run (s : BlockStream) (a : Ambient) {body : List Response}
    (hd : ∀ c ∈ body, c.isDone = false) (hc : ∀ c ∈ body, c.choices.length ≤ 1)
    (hr : ∀ c ∈ body, decided? c = none)
    (h : Holds (Begun (callFragments body ++ rest) d u) past ⟨[], s⟩) :
    Holds (Begun rest ((body.flatMap (·.choices)).foldl Draft.addChoice d) (mergeReports u body))
      past ⟨(s.run a body).1, (s.run a body).2⟩ := by
  induction body generalizing s past d u with
  | nil => exact h
  | cons c body ih =>
    rw [callFragments, List.flatMap_cons, List.append_assoc] at h
    have hstep := step s a (hd c List.mem_cons_self) (hc c List.mem_cons_self)
      (hr c List.mem_cons_self) h
    have hrest := ih _ (fun x hx => hd x (List.mem_cons_of_mem _ hx))
      (fun x hx => hc x (List.mem_cons_of_mem _ hx)) (fun x hx => hr x (List.mem_cons_of_mem _ hx))
      hstep.next
    rw [run_cons, List.flatMap_cons, List.foldl_append]
    exact hrest.join

end Begun

/-- a finish reason ends all blocks: the writer waits, and its events still say what the draft
holds -/
theorem Mirrors.decide {past : List Event} {p : Progress} {rest : List ToolCall} {d : Draft}
    {u : Option ChatRelay.Usage} (h : Mirrors rest d u (past ++ p.events) p.state)
    (r : FinishReason) :
    Waiting r u (p.finishWith (some r)).state ∧
      ∃ m ts, m.usage = {} ∧ Echoes m ts d (past ++ (p.finishWith (some r)).events) := by
  obtain ⟨m, ts, hm, hmatch, -⟩ := h
  have hclosed := hmatch.closeCurrent
  refine ⟨?_, m, ts, hm, ?_⟩
  · exact {
      isStarted := hclosed.standing.isStarted
      unfinished := hclosed.standing.unfinished
      decided := rfl
      usage := hclosed.standing.usage
      noCurrent := congrArg BlockStream.current (closeCurrent_state p)
      noTools := rfl }
  · show Echoes m ts d (past ++ p.closeAll.events)
    rw [append_closeAll]
    exact hclosed.echoes.stops _

/-! ## the turn -/

/-- the stop reasons that have a finish reason of their own -/
def stopWords : List String :=
  ["end_turn", "stop_sequence", "pause_turn", "max_tokens", "tool_use", "refusal"]

theorem finishOfStop_of_not_mem {w : String} (h : w ∉ stopWords) : finishOfStop w = .other w := by
  simp only [stopWords, List.mem_cons, List.not_mem_nil, or_false, not_or] at h
  simp [finishOfStop, h]

/-- a finish reason comes back from its stop reason, unless it is another's -/
theorem finishOfStop_stopOfFinish_of_kept {r : FinishReason}
    (h : ∀ w, r = .other w → finishOfStop w = .other w) : finishOfStop (stopOfFinish r) = r := by
  cases r with
  | other w => exact h w rfl
  | stop | length | toolCalls | contentFilter => decide

theorem finishOfStop_stopOfFinish {r : FinishReason} (h : ∀ w, r = .other w → w ∉ stopWords) :
    finishOfStop (stopOfFinish r) = r :=
  finishOfStop_stopOfFinish_of_kept fun w hw => finishOfStop_of_not_mem (h w hw)

/-- the fragments of one turn: some without a finish reason, the one that brings it, some that at
most report usage, and the end marker -/
structure SingleTurn (body : List Response) (fin : Response) (tail : List Response)
    (last : Response) (reason : FinishReason) : Prop where
  marked : last.isDone = true
  unmarked : ∀ c ∈ body ++ fin :: tail, c.isDone = false
  single : ∀ c ∈ body ++ [fin], c.choices.length ≤ 1 ∧ ∀ x ∈ c.choices, x.index = 0
  undecided : ∀ c ∈ body, ∀ x ∈ c.choices, x.finish = none
  decided : ∃ x ∈ fin.choices, x.finish = some reason
  known : reason.word ≠ "" ∧ ∀ w, reason = .other w → w ∉ stopWords
  quiet : ∀ c ∈ tail, c.choices = []
  reported : ((fin :: tail).filterMap (·.usage)).length ≤ 1
  introduced : Introduced [] (callFragments (body ++ [fin]))

namespace SingleTurn

variable {body tail : List Response} {fin last : Response} {reason : FinishReason}

theorem body_decided? (h : SingleTurn body fin tail last reason) :
    ∀ c ∈ body, decided? c = none := by
  intro c hc
  unfold decided?
  cases hx : c.choices with
  | nil => rfl
  | cons x xs => exact h.undecided c hc x (by simp [hx])

theorem fin_choices (h : SingleTurn body fin tail last reason) :
    ∃ x, fin.choices = [x] ∧ x.finish = some reason := by
  obtain ⟨x, hx, hr⟩ := h.decided
  have hone := (h.single fin (by simp)).1
  match hc : fin.choices with
  | [] => simp [hc] at hx
  | [y] =>
    obtain rfl : x = y := by simpa [hc] using hx
    exact ⟨x, rfl, hr⟩
  | y :: z :: xs => simp [hc] at hone

theorem fin_decided? (h : SingleTurn body fin tail last reason) : decided? fin = some reason := by
  obtain ⟨x, hx, hr⟩ := h.fin_choices
  rw [decided?, hx]
  exact hr

theorem index_eq_zero (h : SingleTurn body fin tail last reason) :
    ∀ x ∈ (body ++ fin :: tail).flatMap (·.choices), x.index = 0 := by
  intro x hx
  obtain ⟨c, hc, hxc⟩ := List.mem_flatMap.mp hx
  by_cases htail : c ∈ tail
  · simp [h.quiet c htail] at hxc
  · exact (h.single c (by simp_all)).2 x hxc

/-- what is written for a turn: events that say what its draft holds, and the ending -/
theorem run_eq (h : SingleTurn body fin tail last reason) (a : Ambient)
    (hfew : (blockStarts (run a {} (body ++ fin :: (tail ++ [last]))).1).length < UInt32.size) :
    ∃ m ts es d, m.usage = {} ∧ Echoes m ts d es ∧
      ((body ++ fin :: tail).flatMap (·.choices)).foldl Draft.addChoice {}
        = { d with finish := some reason } ∧
      (run a {} (body ++ fin :: (tail ++ [last]))).1
        = es ++ endingOf reason (mergeReports none (body ++ fin :: tail)) := by
  have hcalls : callFragments (body ++ [fin])
      = callFragments body ++ (((said? fin).map (·.calls)).getD [] ++ []) := by
    simp [callFragments, List.flatMap_append]
  have hfresh : Holds (Begun (callFragments body ++ (((said? fin).map (·.calls)).getD [] ++ []))
      {} none) [] ⟨[], {}⟩ := fun _ => .fresh rfl rfl rfl rfl (hcalls ▸ h.introduced)
  have hbody := Begun.run {} a (fun c hc => h.unmarked c (by simp [hc]))
    (fun c hc => (h.single c (by simp [hc])).1) h.body_decided? hfresh
  rw [run_append, run_cons, blockStarts_append, blockStarts_append, List.length_append,
    List.length_append] at hfew
  have hbodyFew : (blockStarts (run a {} body).1).length < UInt32.size := by omega
  have hunfinished : (run a {} body).2.finished = false := (hbody hbodyFew).unfinished
  have hsaid := Begun.say a fin hbody.next
  have hfin := step_eq hunfinished a (h.unmarked fin (by simp))
  rw [h.fin_decided?] at hfin
  -- neither the reason nor the report starts a block
  have hstarts := blockStarts_report (run a {} body).1
    ((Progress.say a fin ⟨[], (run a {} body).2⟩).finishWith (some reason)) fin.usage
  rw [blockStarts_finishWith, blockStarts_append] at hstarts
  rw [hfin] at hfew
  have hsaidFew : (blockStarts ((run a {} body).1
      ++ (Progress.say a fin ⟨[], (run a {} body).2⟩).events)).length < UInt32.size := by
    rw [← hstarts, List.length_append]
    dsimp only at hfew
    omega
  obtain ⟨hwait, m, ts, hm, hecho⟩ := (hsaid hsaidFew).decide reason
  have htail := hwait.report_run a fin.usage h.marked (fun c hc => h.unmarked c (by simp [hc]))
    h.quiet (by
      have hone := h.reported
      rw [List.filterMap_cons] at hone
      cases hu : fin.usage <;> simpa [hu] using hone)
  refine ⟨m, ts, _, _, hm, hecho, ?_, ?_⟩
  · have hquiet : tail.flatMap (·.choices) = [] := List.flatMap_eq_nil_iff.mpr h.quiet
    rw [List.flatMap_append, List.flatMap_cons, hquiet, List.append_nil, List.foldl_append,
      foldl_addChoice (h.single fin (by simp)).1, h.fin_decided?, Draft.finishWith,
      if_neg h.known.1]
  · rw [run_append, run_cons, hfin, htail, List.nil_append, List.append_assoc]
    rw [mergeReports_append]
    rfl

end SingleTurn

/-- the ending leaves the blocks and brings stop reason and usage -/
theorem gathered_ending (es : List Event) (r : FinishReason) (u : Option ChatRelay.Usage) :
    (gathered (es ++ endingOf r u)).blocks = (gathered es).blocks ∧
      (gathered (es ++ endingOf r u)).stopReason = some (stopOfFinish r) ∧
      (gathered (es ++ endingOf r u)).usage = ChatRelay.Usage.merge? (gathered es).usage
        (some ((u.map lowerUsage).getD {}).lift) := by
  simp only [gathered, endingOf, List.foldl_append]
  exact ⟨rfl, rfl, rfl⟩

theorem silent_ending {es : List Event} (h : ∀ e ∈ es, e.name ≠ "error") (r : FinishReason)
    (u : Option ChatRelay.Usage) : ∀ e ∈ es ++ endingOf r u, e.name ≠ "error" := by
  intro e he
  rcases List.mem_append.mp he with he | he
  · exact h e he
  · simp only [endingOf, List.mem_cons, List.not_mem_nil, or_false] at he
    rcases he with rfl | rfl <;> simp [Event.name]

/-- the counts of the ending, behind a start without usage -/
theorem counts_ending {u : Option ChatRelay.Usage}
    (h : ∀ x, u = some x → x.cached.toNat + x.written.toNat ≤ x.prompt.toNat) :
    ∃ x, ChatRelay.Usage.merge? (some ({} : Usage).lift) (some ((u.map lowerUsage).getD {}).lift)
        = some x ∧
      x.prompt = (u.map (·.prompt)).getD 0 ∧ x.completion = (u.map (·.completion)).getD 0 := by
  refine ⟨_, rfl, ?_⟩
  cases u with
  | none => exact ⟨rfl, rfl⟩
  | some x =>
    obtain ⟨hp, hc⟩ := lift_lowerUsage (h x rfl)
    exact ⟨hp, (ChatRelay.Usage.firstCount_zero_right _).trans hc⟩

/-- **What is collected from the written stream is what the fragments are assembled to**: the same
content, reasoning, signature, tool calls, finish reason and counts. -/
theorem collect_run_eq_assemble (a : Ambient) (now : UInt64) {body tail chunks : List Response}
    {fin last : Response} {reason : FinishReason} (h : SingleTurn body fin tail last reason)
    (hchunks : chunks = body ++ fin :: tail ++ [last])
    (hfew : (blockStarts (run a {} chunks).1).length < UInt32.size)
    (hcache : ∀ u, (Response.assemble chunks).usage = some u →
      u.cached.toNat + u.written.toNat ≤ u.prompt.toNat) :
    ∃ p m n, collect now (run a {} chunks).1 = .ok p ∧
      p.choices = [{ message := some m, finish := some reason }] ∧
      (Response.assemble chunks).choices = [{ message := some n, finish := some reason }] ∧
      m.content = n.content ∧
      m.reasoning.getD "" = n.reasoning.getD "" ∧
      m.signature.getD "" = n.signature.getD "" ∧
      m.calls.map ToolCall.words = n.calls.map ToolCall.words ∧
      (p.usage.map (·.prompt)).getD 0
        = ((Response.assemble chunks).usage.map (·.prompt)).getD 0 ∧
      (p.usage.map (·.completion)).getD 0
        = ((Response.assemble chunks).usage.map (·.completion)).getD 0 := by
  subst hchunks
  obtain ⟨x, hx, -⟩ := h.fin_choices
  have hchoices := Response.assemble_choices h.marked h.unmarked h.index_eq_zero (by simp [hx])
  have husage := Response.assemble_usage h.marked h.unmarked
  rw [List.append_assoc, List.cons_append] at hfew
  obtain ⟨m, ts, es, d, hm, hecho, hdraft, hrun⟩ := h.run_eq a hfew
  rw [hdraft] at hchoices
  rw [husage] at hcache ⊢
  have hlist : body ++ fin :: tail ++ [last] = body ++ fin :: (tail ++ [last]) := by simp
  rw [hlist, hrun]
  rw [hlist] at hchoices
  obtain ⟨hblocks, hstop, hend⟩ :=
    gathered_ending es reason (mergeReports none (body ++ fin :: tail))
  obtain ⟨y, hy, hprompt, hcompletion⟩ := counts_ending hcache
  have hstart : (gathered es).usage = some ({} : Usage).lift := by
    rw [← hm]
    exact congrArg Collected.usage hecho.tells.shell
  rw [hstart, hy] at hend
  have hsilent :=
    silent_ending hecho.tells.silent reason (mergeReports none (body ++ fin :: tail))
  obtain ⟨n, hn, hcontent, hreasoning, hcalls, -, hsign⟩ := hecho.tells.message hecho.calls hblocks
  refine ⟨_, _, n, collect_eq hsilent (by simp [endingOf]) now, ?_, ?_, hcontent, hreasoning, ?_,
    ?_, ?_, ?_⟩
  · simp only [hstop, finishOfStop_stopOfFinish h.known.2]
  · have hchoice : ({ d with finish := some reason } : Draft).choice 0
        = { message := (d.choice 0).message, finish := some reason } := rfl
    rw [hchoices, hchoice, hn]
  · rw [hsign, ← hecho.signature, ← hblocks]
    exact congrArg (·.getD "") (foldl_addTo_signature _ {})
  · rw [hcalls, map_words_ofWords]
  · rw [hend]
    exact hprompt
  · rw [hend]
    exact hcompletion

/-- text, a thought and two tool calls that interleave -/
def mixed : List Response :=
  [ { choices := [{ delta := some { content := some (.text "a") } }] },
    { choices := [{ delta := some { reasoning := some "b", signature := some "s" } }] },
    { choices := [{ delta := some {
        toolCalls := some [{ index := 1, id := "t", name := "f" }] } }] },
    { choices := [{ delta := some { content := some (.text "c") } }] },
    { choices := [{ delta := some { toolCalls := some [{ index := 3, id := "u", name := "g" },
        { index := 1, arguments := "x" }] } }] } ]

def closing : Response :=
  { usage := some { prompt := 9, completion := 4, promptDetails := some { cached := 2 } } }

theorem collect_run_mixed : ∃ p m n,
    collect 0 (run ⟨0, fun _ => "0"⟩ {}
      (mixed ++ { choices := [{ finish := some .toolCalls }] } :: [closing] ++ [.done])).1 = .ok p ∧
    p.choices = [{ message := some m, finish := some .toolCalls }] ∧
    (Response.assemble
      (mixed ++ { choices := [{ finish := some .toolCalls }] } :: [closing] ++ [.done])).choices
        = [{ message := some n, finish := some .toolCalls }] ∧
    m.content = n.content ∧ m.calls.map ToolCall.words = n.calls.map ToolCall.words ∧
    (p.usage.map (·.prompt)).getD 0 = 9 := by
  have hturn : SingleTurn mixed { choices := [{ finish := some .toolCalls }] } [closing] .done
      .toolCalls := {
    marked := by decide
    unmarked := by decide
    single := by decide
    undecided := by decide
    decided := by decide
    known := ⟨by decide, nofun⟩
    quiet := by decide
    reported := by decide
    introduced := by
      simp [Introduced, callFragments, said?, mixed, Message.calls, Choice.fragment?] }
  obtain ⟨p, m, n, hp, hm, hn, hcontent, -, -, hcalls, hprompt, -⟩ :=
    collect_run_eq_assemble ⟨0, fun _ => "0"⟩ 0 hturn rfl (by decide) (by decide)
  exact ⟨p, m, n, hp, hm, hn, hcontent, hcalls, hprompt.trans (by decide)⟩

end BlockStream
end ChatRelay.Anthropic
