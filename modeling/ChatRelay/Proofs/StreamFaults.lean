import ChatRelay.Proofs.OpenAi.Recorded

/-!
# Faults that a stream reports

A backend may report a fault in the middle of its stream.  Read event by event, the stream ends with
the first fault that one of its events reports.  Read at once, as a recorded stream, block events
end with that fault too; chunks do not, because there an error envelope is read as a chunk without
content.

* `Backend.faultOf?`              the fault that one event reports;
* `Backend.fault?_liftFeed`       a stream ends with the first of them;
* `aggregate_fails_iff`           when a recorded stream fails where the stream does.
-/

namespace ChatRelay

/-! ## chunks -/

namespace OpenAi

/-- the fault that an event reports, none where it reports none -/
def faultOf? (e : ServerEvent) : Option Fault :=
  if e.isDoneFromBackend then none
  else
    match Json.parse ErrorDetail.ofEnvelope e.data with
    | .ok detail => some detail.fault
    | .error _ => none

theorem liftEvent_eq_error_iff (e : ServerEvent) (f : Fault) :
    liftEvent e = .error f ↔ faultOf? e = some f := by
  unfold liftEvent faultOf?
  by_cases hdone : e.isDoneFromBackend = true
  · rw [if_pos hdone, if_pos hdone]
    exact ⟨nofun, nofun⟩
  · rw [if_neg hdone, if_neg hdone]
    cases Json.parse ErrorDetail.ofEnvelope e.data with
    | ok detail => simp only [Except.error.injEq, Option.some.injEq]
    | error p => cases Json.parse Chunk.ofJson e.data <;> exact ⟨nofun, nofun⟩

theorem liftStep_eq_error_iff (seen : Bool) (e : ServerEvent) (f : Fault) :
    liftStep seen e = .error f ↔ faultOf? e = some f := by
  rw [← liftEvent_eq_error_iff, liftStep]
  cases liftEvent e with
  | ok chunks => exact ⟨nofun, nofun⟩
  | error g => simp only [Except.error.injEq]

theorem liftTrailer_ne_error (seen : Bool) (f : Fault) : liftTrailer seen ≠ .error f := by
  unfold liftTrailer
  exact nofun

theorem fault?_liftFeed (events : List ServerEvent) :
    (liftFeed (.ofSource (events.map .ok))).fault? = events.findSome? faultOf? := by
  rw [liftFeed, Feed.fault?_scan, Feed.items_ofSource_ok, Feed.fault?_ofSource_ok]
  exact Feed.scanItems_snd liftStep_eq_error_iff liftTrailer_ne_error false events

end OpenAi

/-! ## block events -/

namespace Anthropic

/-- the fault that a block event reports -/
def Event.fault? : Event → Option Fault
  | .error detail => some detail.fault
  | _ => none

/-- the fault that an event reports, none where it reports none -/
def faultOf? (e : ServerEvent) : Option Fault :=
  if e.isDoneFromBackend then none else (eventOf? e).bind Event.fault?

theorem Fragments.step_eq_error_iff (s : Fragments) (e : Event) (f : Fault) :
    s.step e = .error f ↔ e.fault? = some f := by
  cases e with
  | error detail =>
    rw [Fragments.step, Event.fault?]
    simp only [Except.error.injEq, Option.some.injEq]
  | _ => exact ⟨nofun, nofun⟩

theorem liftStep_eq_error_iff (s : Fragments) (e : ServerEvent) (f : Fault) :
    liftStep s e = .error f ↔ faultOf? e = some f := by
  unfold liftStep faultOf?
  by_cases hdone : e.isDoneFromBackend = true
  · rw [if_pos hdone, if_pos hdone]
    exact ⟨nofun, nofun⟩
  · rw [if_neg hdone, if_neg hdone]
    cases eventOf? e with
    | none => exact ⟨nofun, nofun⟩
    | some event => exact s.step_eq_error_iff event f

theorem liftTrailer_ne_error (s : Fragments) (f : Fault) : liftTrailer s ≠ .error f := by
  unfold liftTrailer
  exact nofun

theorem fault?_liftFeed (now : UInt64) (events : List ServerEvent) :
    (liftFeed now (.ofSource (events.map .ok))).fault? = events.findSome? faultOf? := by
  rw [liftFeed, Feed.fault?_scan, Feed.items_ofSource_ok, Feed.fault?_ofSource_ok]
  exact Feed.scanItems_snd liftStep_eq_error_iff liftTrailer_ne_error (.start now) events

theorem Collected.push_fst (s : Collected) (e : Event) : (s.push e).1 = e.fault? := by
  cases e <;> rfl

theorem Collected.pushAll_of_fault {es : List Event} {f : Fault}
    (h : es.findSome? Event.fault? = some f) (s : Collected) : s.pushAll es = .error f := by
  induction es generalizing s with
  | nil => exact nomatch h
  | cons e es ih =>
    have hpush := s.push_fst e
    rw [pushAll]
    cases he : e.fault? with
    | some g =>
      rw [List.findSome?_cons, he] at h
      obtain rfl : g = f := Option.some.inj h
      split
      · next fault _ heq =>
        rw [heq, he] at hpush
        rw [Option.some.inj hpush]
      · next _ heq =>
        rw [heq, he] at hpush
        exact nomatch hpush
    | none =>
      rw [List.findSome?_cons, he] at h
      split
      · next fault _ heq =>
        rw [heq, he] at hpush
        exact nomatch hpush
      · next next _ => exact ih h next

/-- the first fault of a recorded stream is the first fault of the block events in it -/
theorem findSome?_faultOf? (events : List ServerEvent) :
    events.findSome? faultOf?
      = ((events.filter (!·.isDoneFromBackend)).filterMap eventOf?).findSome? Event.fault? := by
  have hreport : faultOf?
      = fun e => if !e.isDoneFromBackend then (eventOf? e).bind Event.fault? else none := by
    funext e
    unfold faultOf?
    cases e.isDoneFromBackend <;> rfl
  rw [← List.head?_filterMap, ← List.head?_filterMap, List.filterMap_filterMap,
    List.filterMap_filter, hreport]

/-- a recorded stream of block events fails with the first fault in it -/
theorem aggregate_of_fault {now : UInt64} {events : List ServerEvent} {f : Fault}
    (h : events.findSome? faultOf? = some f) : aggregate now events = .error f := by
  rw [findSome?_faultOf?] at h
  rw [aggregate, collect, Collected.pushAll_of_fault h]
  rfl

end Anthropic

/-! ## backends -/

namespace Backend

/-- the fault that an event of a backend reports, none where it reports none -/
def faultOf? (b : Backend) (e : ServerEvent) : Option Fault :=
  match b.dialect with
  | .anthropic => Anthropic.faultOf? e
  | .openAi | .openRouter => OpenAi.faultOf? e

theorem fault?_liftFeed (b : Backend) (now : UInt64) (events : List ServerEvent) :
    (b.liftFeed now (.ofSource (events.map .ok))).fault? = events.findSome? b.faultOf? := by
  unfold liftFeed faultOf?
  cases b.dialect with
  | anthropic => exact Anthropic.fault?_liftFeed now events
  | openAi | openRouter => exact OpenAi.fault?_liftFeed events

theorem aggregate_of_fault {b : Backend} (hb : b.dialect = .anthropic) {now : UInt64}
    {events : List ServerEvent} {f : Fault}
    (h : (b.liftFeed now (.ofSource (events.map .ok))).fault? = some f) :
    b.aggregate now events = .error f := by
  unfold liftFeed at h
  unfold aggregate
  rw [hb] at h ⊢
  rw [Anthropic.fault?_liftFeed] at h
  rw [Anthropic.aggregate_of_fault h]
  rfl

/-- **Faults in recorded streams.**  A stream fails with the first fault that one of its events
reports.  The recorded stream fails whenever the stream does exactly where it is one of block events,
and then with the same fault, or where none of its events reports a fault. -/
theorem aggregate_fails_iff (b : Backend) (now : UInt64) (events : List ServerEvent) :
    (b.liftFeed now (.ofSource (events.map .ok))).fault? = events.findSome? b.faultOf? ∧
    ((∀ f, (b.liftFeed now (.ofSource (events.map .ok))).fault? = some f →
        ∃ g, b.aggregate now events = .error g) ↔
      b.dialect = .anthropic ∨ ∀ e ∈ events, b.faultOf? e = none) ∧
    (b.dialect = .anthropic → ∀ f,
      (b.liftFeed now (.ofSource (events.map .ok))).fault? = some f →
        b.aggregate now events = .error f) := by
  have hfault := b.fault?_liftFeed now events
  have hblocks : b.dialect = .anthropic → ∀ f,
      (b.liftFeed now (.ofSource (events.map .ok))).fault? = some f →
        b.aggregate now events = .error f := fun hb f h => aggregate_of_fault hb h
  refine ⟨hfault, ⟨fun h => ?_, ?_⟩, hblocks⟩
  · by_cases hb : b.dialect = .anthropic
    · exact .inl hb
    · -- chunks always add up to a response, so the stream may not fail
      refine .inr (List.findSome?_eq_none_iff.mp ?_)
      rw [← hfault]
      refine Option.eq_none_iff_forall_ne_some.mpr fun f hf => ?_
      obtain ⟨g, hg⟩ := h f hf
      rw [aggregate_of_chunks hb] at hg
      exact nomatch hg
  · rintro (hb | hnone) f hf
    · exact ⟨f, hblocks hb f hf⟩
    · rw [hfault, List.findSome?_eq_none_iff.mpr hnone] at hf
      exact nomatch hf

/-- a chunk and then the report of a fault -/
def broken : List ServerEvent :=
  ["\x7b\"choices\":[\x7b\"delta\":\x7b\"content\":\"Hel\"\x7d\x7d]\x7d",
    "\x7b\"error\":\x7b\"message\":\"overloaded\",\"type\":\"server_error\"\x7d\x7d"].map
      fun data => { data }

/-- the stream fails, and the recorded stream is a response of what came before -/
theorem aggregate_broken :
    (chunking.liftFeed 0 (.ofSource (broken.map .ok))).fault?
      = some (.streaming "server_error: overloaded") ∧
    (∀ g, chunking.aggregate 0 broken ≠ .error g) ∧
    (OpenAi.aggregate broken).choices.map
      (fun c => (c.message?.map Message.plainText).getD "") = ["Hel"] := by
  refine ⟨by decide +kernel, fun g hg => ?_, by decide +kernel⟩
  rw [aggregate_of_chunks (show chunking.dialect ≠ .anthropic from nofun)] at hg
  exact nomatch hg

end Backend
end ChatRelay
