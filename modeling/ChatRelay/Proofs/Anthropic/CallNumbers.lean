import ChatRelay.Proofs.Anthropic.StopReason
import Mathlib.Data.List.Induction

/-!
# Calls are numbered as their blocks start

A stream chooses the indices of its blocks, and may use one again.  The calls of its tools are
numbered apart from them: a tool block that starts takes the next number, and input is for the
latest tool block that started under its index, or for none.  Every fragment is signed with the
message that started last.

* `Numbers.step`      what the state behind some events knows of their tool blocks, one event more;
* `lookup_numbering`  the number of the latest tool block under an index;
* `Becomes`           what an event becomes behind others, as far as numbers and signatures go;
* `calls_numbered`    every event of a stream becomes that.
-/

namespace ChatRelay

/-- the fragments of tool calls in a chunk -/
def Response.fragmentCalls (c : Response) : List ToolCall :=
  c.choices.flatMap fun x => (x.delta.map Message.calls).getD []

namespace Anthropic

/-! ## tool blocks and messages that start -/

/-- the index under which an event starts a tool block -/
def Event.toolStart? : Event → Option UInt32
  | .blockStart i (.toolUse ..) => some i
  | _ => none

/-- the message that an event starts -/
def Event.opening? : Event → Option Answer
  | .messageStart m => some m
  | _ => none

/-- the indices under which tool blocks started, in order -/
def toolStarts (es : List Event) : List UInt32 := es.filterMap Event.toolStart?

/-- the message that started last -/
def latestMessage? (es : List Event) : Option Answer := (es.filterMap Event.opening?).getLast?

theorem toolStarts_snoc (es : List Event) (e : Event) :
    toolStarts (es ++ [e]) = toolStarts es ++ e.toolStart?.toList := by
  cases h : e.toolStart? <;> simp [toolStarts, h]

theorem latestMessage?_snoc (es : List Event) (e : Event) :
    latestMessage? (es ++ [e]) = e.opening?.or (latestMessage? es) := by
  cases h : e.opening? <;> simp [latestMessage?, h]

/-- what an event becomes behind others -/
structure Becomes (past : List Event) (e : Event) (out : List Response) : Prop where
  /-- a tool block that starts is one call, and its number says how many started before -/
  started : ∀ i id name input, e = .blockStart i (.toolUse id name input) →
    ∃ c call, out = [c] ∧ c.fragmentCalls = [call] ∧
      call.index.toNat = (toolStarts past).length ∧ call.id = id ∧ call.name = name
  /-- input has the number of the latest tool block under its index -/
  grown : ∀ i more, e = .blockDelta i (.inputJson more) →
    ∀ before behind, toolStarts past = before ++ i :: behind → i ∉ behind →
      ∃ c call, out = [c] ∧ c.fragmentCalls = [call] ∧
        call.index.toNat = before.length ∧ call.arguments = more
  /-- input under an index where no tool block started becomes nothing -/
  stray : ∀ i more, e = .blockDelta i (.inputJson more) → i ∉ toolStarts past → out = []
  /-- all but the end marker names the message that started last -/
  signed : ∀ m, latestMessage? past = some m →
    ∀ c ∈ out, c.isDone = false → c.id = m.id ∧ c.model = m.model

namespace Fragments

/-! ## numbers -/

/-- the tool blocks under their indices, each with its place, the latest first -/
def numbering (starts : List UInt32) : List (UInt32 × UInt32) :=
  (starts.zipIdx.map fun p => (p.1, UInt32.ofNat p.2)).reverse

theorem numbering_snoc (starts : List UInt32) (i : UInt32) :
    numbering (starts ++ [i]) = (i, .ofNat starts.length) :: numbering starts := by
  simp [numbering, List.zipIdx_append]

theorem lookup_numbered_of_not_mem {i : UInt32} {starts : List UInt32} (h : i ∉ starts) (n : Nat) :
    ((starts.zipIdx n).map fun p => (p.1, UInt32.ofNat p.2)).reverse.lookup i = none := by
  rw [List.lookup_eq_none_iff]
  intro p hp
  obtain ⟨q, hq, rfl⟩ := List.mem_map.mp (List.mem_reverse.mp hp)
  have hne : i ≠ q.1 := fun heq => h (heq ▸ List.fst_mem_of_mem_zipIdx hq)
  simpa using hne

theorem lookup_numbering {i : UInt32} (before : List UInt32) {behind : List UInt32}
    (h : i ∉ behind) :
    (numbering (before ++ i :: behind)).lookup i = some (.ofNat before.length) := by
  rw [numbering, List.zipIdx_append, List.zipIdx_cons, List.map_append, List.map_cons,
    List.reverse_append, List.reverse_cons, List.append_assoc, List.lookup_append,
    lookup_numbered_of_not_mem h, Option.none_or, List.singleton_append, List.lookup_cons_self]
  simp

/-- the state behind some events knows their tool blocks and the latest message -/
structure Numbers (past : List Event) (s : Fragments) : Prop where
  next : s.nextCall = .ofNat (toolStarts past).length
  calls : s.calls = numbering (toolStarts past)
  id : s.id = ((latestMessage? past).map (·.id)).getD ""
  model : s.model = ((latestMessage? past).map (·.model)).getD ""

variable {s t : Fragments} {past : List Event} {e : Event} {out : List Response}

/-- tool blocks that start take a number, messages that start leave a signature -/
theorem state_of_step (h : s.step e = .ok (out, t)) :
    t.nextCall = e.toolStart?.elim s.nextCall (fun _ => s.nextCall + 1) ∧
    t.calls = e.toolStart?.elim s.calls (fun i => (i, s.nextCall) :: s.calls) ∧
    t.id = e.opening?.elim s.id (·.id) ∧ t.model = e.opening?.elim s.model (·.model) := by
  cases e with
  | error _ => exact nomatch h
  | blockStart i b =>
    obtain ⟨-, rfl⟩ := Prod.mk.inj (Except.ok.inj h)
    cases b <;> exact ⟨rfl, rfl, rfl, rfl⟩
  | messageDelta ending u =>
    obtain ⟨usage, hnext⟩ : ∃ usage, (s.endMessage ending u).2 = { s with usage } := by
      unfold endMessage
      dsimp only
      split <;> exact ⟨_, rfl⟩
    obtain rfl : (s.endMessage ending u).2 = t := congrArg Prod.snd (Except.ok.inj h)
    rw [hnext]
    exact ⟨rfl, rfl, rfl, rfl⟩
  | messageStop =>
    obtain ⟨done, hnext⟩ : ∃ done, s.close.2 = { s with done } := by
      unfold close
      split <;> exact ⟨_, rfl⟩
    obtain rfl : s.close.2 = t := congrArg Prod.snd (Except.ok.inj h)
    rw [hnext]
    exact ⟨rfl, rfl, rfl, rfl⟩
  | messageStart _ | blockDelta _ _ | blockStop _ | ping =>
    obtain ⟨-, rfl⟩ := Prod.mk.inj (Except.ok.inj h)
    exact ⟨rfl, rfl, rfl, rfl⟩

/-- what a step gives is the end marker or has the signature of the state -/
theorem chunk_of_step (h : s.step e = .ok (out, t)) :
    ∀ c ∈ out, c = .done ∨ ∃ choices usage, c = s.chunk choices usage := by
  cases e with
  | error _ => exact nomatch h
  | messageStart _ | blockStop _ | ping =>
    obtain ⟨rfl, -⟩ := Prod.mk.inj (Except.ok.inj h)
    exact List.forall_mem_nil _
  | blockStart i b =>
    obtain rfl : (s.startBlock i b).1 = out := congrArg Prod.fst (Except.ok.inj h)
    cases b with
    | toolUse _ _ _ => exact List.forall_mem_singleton.mpr (.inr ⟨_, _, rfl⟩)
    | text _ | thinking _ _ =>
      rw [startBlock]
      split
      · exact List.forall_mem_nil _
      · exact List.forall_mem_singleton.mpr (.inr ⟨_, _, rfl⟩)
    | image _ | toolResult _ _ _ | redacted _ => exact List.forall_mem_nil _
  | blockDelta i d =>
    obtain rfl : s.growBlock i d = out := congrArg Prod.fst (Except.ok.inj h)
    cases d with
    | text _ | thinking _ => exact List.forall_mem_singleton.mpr (.inr ⟨_, _, rfl⟩)
    | signature _ => exact List.forall_mem_nil _
    | inputJson _ =>
      rw [growBlock]
      split
      · exact List.forall_mem_singleton.mpr (.inr ⟨_, _, rfl⟩)
      · exact List.forall_mem_nil _
  | messageDelta ending u =>
    obtain rfl : (s.endMessage ending u).1 = out := congrArg Prod.fst (Except.ok.inj h)
    rw [endMessage]
    dsimp only
    split
    · exact List.forall_mem_nil _
    · exact List.forall_mem_singleton.mpr (.inr ⟨_, _, rfl⟩)
  | messageStop =>
    obtain rfl : s.close.1 = out := congrArg Prod.fst (Except.ok.inj h)
    rw [close]
    split
    · exact List.forall_mem_nil _
    · exact List.forall_mem_singleton.mpr (.inl rfl)

namespace Numbers

theorem start (now : UInt64) : Numbers [] (Fragments.start now) := ⟨rfl, rfl, rfl, rfl⟩

theorem step (h : Numbers past s) (hstep : s.step e = .ok (out, t)) : Numbers (past ++ [e]) t := by
  obtain ⟨hnext, hcalls, hid, hmodel⟩ := state_of_step hstep
  refine ⟨?_, ?_, ?_, ?_⟩
  · rw [hnext, toolStarts_snoc, h.next]
    cases e.toolStart? with
    | none => simp
    | some i => simp [UInt32.ofNat_add]
  · rw [hcalls, toolStarts_snoc, h.next, h.calls]
    cases e.toolStart? with
    | none => simp
    | some i => exact (numbering_snoc _ i).symm
  · rw [hid, latestMessage?_snoc, h.id]
    cases e.opening? <;> rfl
  · rw [hmodel, latestMessage?_snoc, h.model]
    cases e.opening? <;> rfl

theorem run (now : UInt64) {es : List Event} (h : ∀ e ∈ es, e.name ≠ "error") :
    ∃ out s, (Fragments.start now).run es = .ok (out, s) ∧ Numbers es s := by
  -- by induction on the events, the last one first, so that the state is the one behind them all
  induction es using List.reverseRecOn with
  | nil => exact ⟨[], _, rfl, start now⟩
  | append_singleton es e ih =>
    obtain ⟨hes, he⟩ := List.forall_mem_append.mp h
    obtain ⟨out, s, hrun, hs⟩ := ih hes
    obtain ⟨last, t, hstep⟩ := s.step_ok (he e (List.mem_singleton_self e))
    exact ⟨_, t, run_append_ok hrun (run_cons_ok hstep rfl), hs.step hstep⟩

theorem becomes (h : Numbers past s) (hfew : (toolStarts past).length < 4294967296)
    (hstep : s.step e = .ok (out, t)) : Becomes past e out where
  started := by
    rintro i id name input rfl
    obtain ⟨rfl, -⟩ := Prod.mk.inj (Except.ok.inj hstep)
    refine ⟨_, _, rfl, rfl, ?_, rfl, rfl⟩
    show s.nextCall.toNat = _
    rw [h.next, UInt32.toNat_ofNat_of_lt' hfew]
  grown := by
    rintro i more rfl before behind hsplit hbehind
    have hlookup : s.calls.lookup i = some (.ofNat before.length) := by
      rw [h.calls, hsplit, lookup_numbering before hbehind]
    have hlt : before.length < 4294967296 := by
      rw [hsplit, List.length_append, List.length_cons] at hfew
      omega
    obtain rfl : s.growBlock i (.inputJson more) = out := congrArg Prod.fst (Except.ok.inj hstep)
    rw [growBlock, hlookup]
    exact ⟨_, _, rfl, rfl, UInt32.toNat_ofNat_of_lt' hlt, rfl⟩
  stray := by
    rintro i more rfl hi
    have hlookup : s.calls.lookup i = none := by
      rw [h.calls]
      exact lookup_numbered_of_not_mem hi 0
    obtain rfl : s.growBlock i (.inputJson more) = out := congrArg Prod.fst (Except.ok.inj hstep)
    rw [growBlock, hlookup]
  signed := by
    intro m hm c hc hdone
    rcases chunk_of_step hstep c hc with rfl | ⟨choices, usage, rfl⟩
    · exact absurd hdone (by decide)
    · constructor
      · show s.id = m.id
        rw [h.id, hm]
        rfl
      · show s.model = m.model
        rw [h.model, hm]
        rfl

end Numbers

/-- **Numbers and signatures along a stream.**  A stream that reports no fault is lifted as a whole,
one event after the other, and every event becomes what the events before it say: tool blocks that
start are calls 0, 1, 2, …, input goes to the call of the latest tool block under its index or
nowhere, and everything but the end marker names the latest message. -/
theorem calls_numbered (now : UInt64) {es : List Event} (herror : ∀ e ∈ es, e.name ≠ "error")
    (hfew : (toolStarts es).length < 4294967296) :
    ∃ all last, (start now).run es = .ok (all, last) ∧
      ∀ past e rest, es = past ++ e :: rest → ∃ before s out t after,
        (start now).run past = .ok (before, s) ∧ s.step e = .ok (out, t) ∧
        t.run rest = .ok (after, last) ∧ all = before ++ (out ++ after) ∧ Becomes past e out := by
  obtain ⟨all, last, hall⟩ := run_ok (start now) herror
  refine ⟨all, last, hall, ?_⟩
  rintro past e rest rfl
  obtain ⟨hpast, hrest⟩ := List.forall_mem_append.mp herror
  obtain ⟨he, hrest⟩ := List.forall_mem_cons.mp hrest
  have hfew' : (toolStarts past).length < 4294967296 := by
    rw [toolStarts, List.filterMap_append, List.length_append] at hfew
    exact Nat.lt_of_le_of_lt (Nat.le_add_right _ _) hfew
  obtain ⟨before, s, hbefore, hs⟩ := Numbers.run now hpast
  obtain ⟨out, t, hstep⟩ := s.step_ok he
  obtain ⟨after, u, hafter⟩ := run_ok t hrest
  have hparts := run_append_ok hbefore (run_cons_ok hstep hafter)
  rw [hall] at hparts
  obtain ⟨rfl, rfl⟩ := Prod.mk.inj (Except.ok.inj hparts)
  exact ⟨before, s, out, t, after, hbefore, hstep, hafter, rfl, hs.becomes hfew' hstep⟩

/-- a block index that is used again, and input where there is no block -/
theorem calls_numbered_again :
    let past : List Event := [
      .messageStart { id := "m" }, .blockStart 0 (.text "so"), .blockDelta 3 (.inputJson "0"),
      .blockStart 1 (.toolUse "a" "look" .null), .blockDelta 1 (.inputJson "1"), .blockStop 1,
      .blockStart 1 (.toolUse "b" "find" .null), .blockStart 2 (.toolUse "c" "look" .null)]
    let e : Event := .blockDelta 1 (.inputJson "2")
    let es := past ++ e :: [.messageStop]
    (∀ e ∈ es, e.name ≠ "error") ∧ toolStarts past = [1] ++ 1 :: [2] ∧
    ∃ all last, (start 0).run es = .ok (all, last) ∧
      all.map (fun c => (c.id, c.fragmentCalls.map (·.index)))
        = [("m", []), ("m", [0]), ("m", [0]), ("m", [1]), ("m", [2]), ("m", [1]), ("", [])] ∧
      ∃ c call, c ∈ all ∧ c.fragmentCalls = [call] ∧ call.index.toNat = 1 ∧
        call.arguments = "2" := by
  intro past e es
  have herror : ∀ e ∈ es, e.name ≠ "error" := by decide
  have hfew : (toolStarts es).length < 4294967296 := by decide
  obtain ⟨all, last, hall, hevery⟩ := calls_numbered 0 herror hfew
  obtain ⟨before, s, out, t, after, -, -, -, hparts, hout⟩ := hevery past e [.messageStop] rfl
  obtain ⟨c, call, hc, hcall, hindex, harguments⟩ :=
    hout.grown 1 "2" rfl [1] [2] rfl (by decide)
  have hmem : c ∈ all := by
    rw [hparts, hc]
    simp
  refine ⟨herror, rfl, all, last, hall, ?_, c, call, hmem, hcall, hindex, harguments⟩
  obtain ⟨rfl, -⟩ := Prod.mk.inj (Except.ok.inj hall)
  decide

end Fragments
end Anthropic
end ChatRelay
