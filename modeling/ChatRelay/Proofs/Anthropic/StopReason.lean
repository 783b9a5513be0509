import ChatRelay.Proofs.Anthropic.Ending
import ChatRelay.Proofs.Anthropic.FragmentTurn

/-!
# Stop reasons on their way back

The stop reason of a backend's turn becomes a finish reason and is written as a stop reason again.
In a stream the reason waits for usage or for the end marker, while whatever else comes is written
on; the stream then ends with it, once.

* `Fragments.run_decided`     the finish reasons of the fragments are those of the events;
* `BlockStream.run_ending`    fragments that agree on a finish reason end with it;
* `relayed`                   the stop reason that a caller is told;
* `stopReason_relayed`        what is told of a turn, whole or in events.
-/

namespace ChatRelay.Anthropic

/-! ## from events to fragments -/

namespace Fragments

open BlockStream (decided?)

theorem startBlock_decided (s : Fragments) (i : UInt32) (b : Block) :
    (s.startBlock i b).1.filterMap decided? = [] := by
  cases b with
  | toolUse id name input => rfl
  | text t | thinking t sign =>
    by_cases ht : t = ""
    · simp only [startBlock, if_pos ht]
      rfl
    · simp only [startBlock, if_neg ht]
      rfl
  | image _ | toolResult _ _ _ | redacted _ => rfl

theorem growBlock_decided (s : Fragments) (i : UInt32) (d : Delta) :
    (s.growBlock i d).filterMap decided? = [] := by
  cases d with
  | text t | thinking t | signature t => rfl
  | inputJson t =>
    simp only [growBlock]
    cases s.calls.lookup i <;> rfl

theorem endMessage_decided (s : Fragments) (ending : Ending) (u : Option Usage) :
    (s.endMessage ending u).1.filterMap decided?
      = (ending.stopReason.map finishOfStop).toList := by
  unfold endMessage
  cases ending.stopReason with
  | none => cases u <;> rfl
  | some w => rfl

/-- an event that neither ends the stream nor reports a fault is lifted to chunks that bring the
finish reason of its stop reason, and no end marker -/
theorem step_decided (s : Fragments) {e : Event} (herror : e.name ≠ "error")
    (hstop : e ≠ .messageStop) :
    ∃ out t, s.step e = .ok (out, t) ∧ (∀ c ∈ out, c.isDone = false) ∧
      out.filterMap decided? = ((stopped? e).map finishOfStop).toList ∧ t.done = s.done := by
  obtain ⟨out, t, hstep, hdecided⟩ : ∃ out t, s.step e = .ok (out, t) ∧
      out.filterMap decided? = ((stopped? e).map finishOfStop).toList := by
    cases e with
    | messageStart _ | blockStop _ | ping => exact ⟨[], _, rfl, rfl⟩
    | messageStop => exact absurd rfl hstop
    | error _ => exact absurd rfl herror
    | blockStart i b => exact ⟨_, _, rfl, s.startBlock_decided i b⟩
    | blockDelta i d => exact ⟨_, s, rfl, s.growBlock_decided i d⟩
    | messageDelta ending u => exact ⟨_, _, rfl, s.endMessage_decided ending u⟩
  obtain ⟨hpieces, hdone⟩ := pieces_of_step hstep hstop
  exact ⟨out, t, hstep, fun c hc => (hpieces c hc).unmarked, hdecided, hdone⟩

theorem run_decided (s : Fragments) {es : List Event} (herror : ∀ e ∈ es, e.name ≠ "error")
    (hstop : ∀ e ∈ es, e ≠ .messageStop) :
    ∃ out t, s.run es = .ok (out, t) ∧ (∀ c ∈ out, c.isDone = false) ∧
      out.filterMap decided? = (es.filterMap stopped?).map finishOfStop ∧ t.done = s.done := by
  induction es generalizing s with
  | nil => exact ⟨[], s, rfl, List.forall_mem_nil _, rfl, rfl⟩
  | cons e es ih =>
    obtain ⟨he, hes⟩ := List.forall_mem_cons.mp herror
    obtain ⟨hne, hnes⟩ := List.forall_mem_cons.mp hstop
    obtain ⟨out, t, hstep, hdone, hout, ht⟩ := s.step_decided he hne
    obtain ⟨rest, u, hrun, hdone', hrest, hu⟩ := ih t hes hnes
    refine ⟨out ++ rest, u, run_cons_ok hstep hrun, ?_, ?_, hu.trans ht⟩
    · exact List.forall_mem_append.mpr ⟨hdone, hdone'⟩
    · rw [List.filterMap_append, hout, hrest, List.filterMap_cons]
      cases stopped? e with
      | none => rfl
      | some w => rfl

theorem step_ok (s : Fragments) {e : Event} (he : e.name ≠ "error") :
    ∃ out t, s.step e = .ok (out, t) := by
  cases e with
  | error _ => exact absurd rfl he
  | messageStart _ | blockStart _ _ | blockDelta _ _ | blockStop _ | messageDelta _ _
  | messageStop | ping => exact ⟨_, _, rfl⟩

/-- without a reported fault every event is lifted, behind an end as well -/
theorem run_ok (s : Fragments) {es : List Event} (herror : ∀ e ∈ es, e.name ≠ "error") :
    ∃ out t, s.run es = .ok (out, t) := by
  induction es generalizing s with
  | nil => exact ⟨[], s, rfl⟩
  | cons e es ih =>
    obtain ⟨he, hes⟩ := List.forall_mem_cons.mp herror
    obtain ⟨out, t, hout⟩ := s.step_ok he
    obtain ⟨rest, u, hrest⟩ := ih t hes
    exact ⟨out ++ rest, u, run_cons_ok hout hrest⟩

end Fragments

/-! ## from fragments to events -/

namespace BlockStream

/-- fragments that agree on a finish reason, up to an end marker and whatever is behind it, are
written as events that end with it and do not end before -/
theorem run_ending (a : Ambient) {r : FinishReason} {body : List Response} {last : Response}
    (tail : List Response) (hbody : ∀ c ∈ body, c.isDone = false) (hlast : last.isDone = true)
    (hr : ∀ x ∈ body.filterMap decided?, x = r) (hsome : body.filterMap decided? ≠ []) :
    ∃ pre u, (run a {} (body ++ last :: tail)).1 = pre ++ endingOf r u ∧
      ∀ e ∈ pre, e.isEnding = false := by
  by_cases h : Over body
  · obtain ⟨front, c, back, rfl, hfront, hc⟩ := h.first
    obtain ⟨hfirst, hrest⟩ := List.forall_mem_append.mp hbody
    obtain ⟨hd, -⟩ := List.forall_mem_cons.mp hrest
    have hunmarked : ∀ x ∈ front ++ [c], x.isDone = false :=
      List.forall_mem_append.mpr ⟨hfirst, List.forall_mem_singleton.mpr hd⟩
    have hreason : reasonOf (front ++ [c]) = r := by
      refine reasonOf_eq (fun x hx => hr x ?_) ?_
      · rw [List.append_cons, List.filterMap_append]
        exact List.mem_append_left _ hx
      · exact (exists_decided_iff hunmarked).mp (hc.of_unmarked hd).2
    obtain ⟨pre, hrun, hpre⟩ := run_ends a (back ++ last :: tail) hfront hc
    rw [heard_of_unmarked hunmarked, hreason] at hrun
    have hlist : front ++ c :: back ++ last :: tail = front ++ c :: (back ++ last :: tail) := by
      simp
    rw [hlist]
    exact ⟨pre, _, hrun, hpre⟩
  · obtain ⟨pre, hrun, hpre⟩ := run_ends a tail h (.marked hlast)
    have hreason : reasonOf body = r := by
      refine reasonOf_eq hr ?_
      rwa [lastReason?, Ne, List.getLast?_eq_none_iff]
    rw [heard_snoc_marked hlast, heard_of_unmarked hbody, hreason] at hrun
    exact ⟨pre, _, hrun, hpre⟩

end BlockStream

/-! ## there and back -/

open BlockStream (stopWords finishOfStop_of_not_mem)
open Fragments (stopped?)

/-- the stop reason that a caller is told of a turn that ended with `s` -/
def relayed (s : String) : String := stopOfFinish (finishOfStop s)

theorem relayed_eq_self_iff (s : String) :
    relayed s = s ↔ s ≠ "stop_sequence" ∧ s ≠ "pause_turn" := by
  by_cases hs : s ∈ stopWords
  · simp only [stopWords, List.mem_cons, List.not_mem_nil, or_false] at hs
    obtain rfl | rfl | rfl | rfl | rfl | rfl := hs <;> decide
  · have hself : relayed s = s := by
      rw [relayed, finishOfStop_of_not_mem hs]
      rfl
    refine ⟨fun _ => ⟨?_, ?_⟩, fun _ => hself⟩
    · rintro rfl
      exact hs (by decide)
    · rintro rfl
      exact hs (by decide)

/-- the events of a turn that ended with the stop reason `s`, in front of the first `message_stop`
and behind it: the reason is said and no other one, and no fault is reported -/
structure StoppedBy (s : String) (front rest : List Event) : Prop where
  silent : ∀ e ∈ front ++ rest, e.name ≠ "error"
  unstopped : ∀ e ∈ front, e ≠ .messageStop
  told : front.filterMap stopped? ≠ []
  agreed : ∀ w ∈ front.filterMap stopped?, w = s

/-- the fragments of a turn that ended with a stop reason: they agree on its finish reason up to the
end marker -/
theorem StoppedBy.run {s : String} {front rest : List Event} (h : StoppedBy s front rest)
    (now : UInt64) :
    ∃ body tail t, (Fragments.start now).run (front ++ .messageStop :: rest)
        = .ok (body ++ .done :: tail, t) ∧
      (∀ c ∈ body, c.isDone = false) ∧ body.filterMap BlockStream.decided? ≠ [] ∧
      ∀ x ∈ body.filterMap BlockStream.decided?, x = finishOfStop s := by
  obtain ⟨hfront, hrest⟩ := List.forall_mem_append.mp h.silent
  obtain ⟨body, t, hbody, hdone, hdecided, hundone⟩ :=
    (Fragments.start now).run_decided hfront h.unstopped
  have hclose : t.step .messageStop = .ok ([.done], { t with done := true }) := by
    have hfalse : t.done = false := hundone
    simp [Fragments.step, Fragments.close, hfalse]
  obtain ⟨tail, u, htail⟩ := Fragments.run_ok { t with done := true } hrest
  refine ⟨body, tail, u, ?_, hdone, ?_, ?_⟩
  · exact Fragments.run_append_ok hbody (Fragments.run_cons_ok hclose htail)
  · rw [hdecided]
    exact fun hnil => h.told (List.map_eq_nil_iff.mp hnil)
  · intro x hx
    rw [hdecided] at hx
    obtain ⟨w, hw, rfl⟩ := List.mem_map.mp hx
    rw [h.agreed w hw]

/-- **Stop reasons on their way back.**  A turn that ended with the stop reason `s` is told with
`relayed s`, a complete answer and any stream of events alike; the stream says so once, at its end.
This is `s` again for every reason but `stop_sequence` and `pause_turn`. -/
theorem stopReason_relayed (a : Ambient) (now : UInt64) (s : String) :
    (∀ p : Answer, p.stopReason = some s →
      (renderResponse a (p.lift now)).stopReason = some (relayed s)) ∧
    (∀ front rest, StoppedBy s front rest →
      ∃ chunks t pre u,
        (Fragments.start now).run (front ++ .messageStop :: rest) = .ok (chunks, t) ∧
        (BlockStream.run a {} chunks).1
          = pre ++ [.messageDelta { stopReason := some (relayed s) } (some u), .messageStop] ∧
        ∀ e ∈ pre, e.isEnding = false) ∧
    (relayed s = s ↔ s ≠ "stop_sequence" ∧ s ≠ "pause_turn") := by
  refine ⟨fun p hp => ?_, fun front rest h => ?_, relayed_eq_self_iff s⟩
  · have hfinish : (p.lift now).choices.head?.bind (·.finish) = some (finishOfStop s) := by
      show p.stopReason.map finishOfStop = _
      rw [hp]
      rfl
    simp only [renderResponse, hfinish]
    rfl
  · obtain ⟨body, tail, t, hrun, hdone, hsome, hagreed⟩ := h.run now
    obtain ⟨pre, u, hes, hpre⟩ :=
      BlockStream.run_ending a tail hdone Response.isDone_done hagreed hsome
    exact ⟨body ++ .done :: tail, t, pre, _, hrun, hes, hpre⟩

/-- a turn with a stop reason that has no finish reason of its own, its usage in three reports and
a block that goes on behind the reason -/
def resting (s : String) : List Event :=
  [ .messageStart { id := "m", usage := { input := 3 } },
    .blockStart 0 (.text ""),
    .messageDelta {} (some { output := 2 }),
    .messageDelta { stopReason := some s } none,
    .blockDelta 0 (.text "a"),
    .messageDelta { stopReason := some s } (some { output := 4 }) ]

theorem stopReason_relayed_resting :
    ∃ chunks t pre u,
      (Fragments.start 0).run (resting "model_context_window_exceeded" ++ [.messageStop, .ping])
        = .ok (chunks, t) ∧
      (BlockStream.run ⟨0, fun _ => "0"⟩ {} chunks).1 = pre ++
        [.messageDelta { stopReason := some "model_context_window_exceeded" } (some u),
          .messageStop] := by
  have hstopped : StoppedBy "model_context_window_exceeded"
      (resting "model_context_window_exceeded") [.ping] := {
    silent := by decide
    unstopped := by decide
    told := by decide
    agreed := by decide }
  obtain ⟨-, hstream, hself⟩ :=
    stopReason_relayed ⟨0, fun _ => "0"⟩ 0 "model_context_window_exceeded"
  obtain ⟨chunks, t, pre, u, hrun, hes, -⟩ := hstream _ _ hstopped
  rw [hself.mpr (by decide)] at hes
  exact ⟨chunks, t, pre, u, hrun, hes⟩

/-- a turn that pauses is told as one that ended, as a whole and in events -/
theorem pause_relayed_as_end :
    "pause_turn" ∉ ["end_turn", "stop_sequence", "max_tokens", "tool_use", "refusal"] ∧
    (renderResponse ⟨0, fun _ => "0"⟩ (Answer.lift 0 { id := "m", stopReason := some "pause_turn" })
      ).stopReason = some "end_turn" ∧
    ∃ out, (Fragments.start 0).run (resting "pause_turn" ++ [.messageStop]) = .ok out ∧
      (BlockStream.run ⟨0, fun _ => "0"⟩ {} out.1).1.filterMap stopped? = ["end_turn"] := by
  refine ⟨by decide, by decide, ?_⟩
  decide +kernel

end ChatRelay.Anthropic
