import ChatRelay.Backend.Reply
import ChatRelay.Proofs.Assembly

/-!
# Recorded chunk streams

A recorded stream adds up to one response, whether its events are brought into the shared form and
the fragments assembled, or the response is read off the events at once.  The two ways differ in how
they treat end markers: the first keeps the first of them and adds one that is missing, the second
looks at no terminator.  But end markers say nothing.

* `Response.said`, `assemble_said`   the fragments that say something: no others count;
* `said_liftStep`, `said_scanItems_map`  what one event, and a stream of events, says in the shared
  form;
* `assemble_liftFeed`                both ways give one response.
-/

namespace ChatRelay

namespace Response

/-- the fragments that say something: all but the end markers -/
def said (chunks : List Response) : List Response := chunks.filter (!·.isDone)

theorem said_append (xs ys : List Response) : said (xs ++ ys) = said xs ++ said ys :=
  List.filter_append xs ys

theorem said_said (chunks : List Response) : said (said chunks) = said chunks := by
  unfold said
  rw [List.filter_filter]
  simp only [Bool.and_self]

theorem said_done : said [.done] = [] := rfl

theorem foldl_add_said (chunks : List Response) (a : Assembly) :
    (said chunks).foldl Assembly.add a = chunks.foldl Assembly.add a := by
  induction chunks generalizing a with
  | nil => rfl
  | cons c chunks ih =>
    cases hc : c.isDone with
    | true =>
      have hsaid : said (c :: chunks) = said chunks := by simp [said, hc]
      rw [hsaid, List.foldl_cons, Assembly.add_of_isDone a hc]
      exact ih a
    | false =>
      have hsaid : said (c :: chunks) = c :: said chunks := by simp [said, hc]
      rw [hsaid, List.foldl_cons, List.foldl_cons]
      exact ih (a.add c)

theorem assemble_said (chunks : List Response) : assemble (said chunks) = assemble chunks := by
  rw [assemble, assemble, foldl_add_said]

theorem assemble_congr {xs ys : List Response} (h : said xs = said ys) :
    assemble xs = assemble ys := by
  rw [← assemble_said xs, h, assemble_said]

end Response

namespace OpenAi

open Response (said)

/-! ## one event -/

/-- an event whose data are no error envelope -/
def Plain (e : ServerEvent) : Prop :=
  ∀ detail, Json.parse ErrorDetail.ofEnvelope e.data ≠ .ok detail

/-- the fragments that a plain event carries -/
def fragments (e : ServerEvent) : List Response :=
  if e.isDoneFromBackend then [.done] else (chunkOf? e).toList

theorem liftEvent_of_plain {e : ServerEvent} (h : Plain e) : liftEvent e = .ok (fragments e) := by
  unfold liftEvent fragments chunkOf?
  by_cases hdone : e.isDoneFromBackend = true
  · rw [if_pos hdone, if_pos hdone]
  · rw [if_neg hdone, if_neg hdone]
    cases henvelope : Json.parse ErrorDetail.ofEnvelope e.data with
    | ok detail => exact absurd henvelope (h detail)
    | error p => cases Json.parse Chunk.ofJson e.data <;> rfl

/-- whether the end marker has come or not, an event says what it is lifted to -/
theorem said_liftStep {e : ServerEvent} {chunks : List Response} (h : liftEvent e = .ok chunks)
    (seen : Bool) :
    ∃ kept next, liftStep seen e = .ok (kept, next) ∧ said kept = said chunks := by
  unfold liftStep
  rw [h]
  refine ⟨_, _, rfl, ?_⟩
  cases seen with
  | false => rfl
  | true => exact Response.said_said chunks

/-! ## a stream of events -/

/-- a stream of events that are all lifted has no fault and says what its events say -/
theorem said_scanItems_map {α : Type} {write : α → ServerEvent} {read : α → List Response}
    {xs : List α} (h : ∀ x ∈ xs, liftEvent (write x) = .ok (read x)) (seen : Bool) :
    ∃ chunks, Feed.scanItems liftStep liftTrailer seen (xs.map write) none = (chunks, none) ∧
      said chunks = said (xs.flatMap read) := by
  induction xs generalizing seen with
  | nil =>
    refine ⟨if seen then [] else [.done], rfl, ?_⟩
    cases seen <;> rfl
  | cons x xs ih =>
    obtain ⟨kept, next, hstep, hkept⟩ := said_liftStep (h x List.mem_cons_self) seen
    obtain ⟨rest, hrest, hsaid⟩ := ih (fun y hy => h y (List.mem_cons_of_mem x hy)) next
    refine ⟨kept ++ rest, ?_, ?_⟩
    · rw [List.map_cons, Feed.scanItems, hstep]
      show ((kept ++ (Feed.scanItems liftStep liftTrailer next (xs.map write) none).1,
        (Feed.scanItems liftStep liftTrailer next (xs.map write) none).2) : _ × _) = _
      rw [hrest]
    · rw [Response.said_append, hkept, hsaid, List.flatMap_cons, Response.said_append]

/-- a stream of plain events has no fault and says what its events say -/
theorem said_scanItems {events : List ServerEvent} (h : ∀ e ∈ events, Plain e) (seen : Bool) :
    ∃ chunks, Feed.scanItems liftStep liftTrailer seen events none = (chunks, none) ∧
      said chunks = said (events.flatMap fragments) := by
  have hlift : ∀ e ∈ events, liftEvent (id e) = .ok (fragments e) :=
    fun e he => liftEvent_of_plain (h e he)
  have hsaid := said_scanItems_map hlift seen
  rwa [List.map_id] at hsaid

/-- the terminators that the response of a recorded stream leaves out say nothing -/
theorem said_chunks (events : List ServerEvent) :
    said ((events.filter (!·.isDoneFromBackend)).filterMap chunkOf?)
      = said (events.flatMap fragments) := by
  induction events with
  | nil => rfl
  | cons e events ih =>
    rw [List.flatMap_cons, Response.said_append, ← ih, fragments]
    by_cases hdone : e.isDoneFromBackend = true
    · rw [if_pos hdone, Response.said_done, List.nil_append, List.filter_cons_of_neg (by simpa)]
    · rw [if_neg hdone, List.filter_cons_of_pos (by simpa using hdone), ← Response.said_append]
      cases hc : chunkOf? e with
      | none => rw [List.filterMap_cons_none hc, Option.toList_none, List.nil_append]
      | some c => rw [List.filterMap_cons_some hc]; rfl

theorem aggregate_eq_assemble (events : List ServerEvent) :
    aggregate events = .assemble (events.flatMap fragments) :=
  Response.assemble_congr (said_chunks events)

end OpenAi

namespace Backend

theorem liftFeed_of_chunks {b : Backend} (h : b.dialect ≠ .anthropic) (now : UInt64)
    (x : Feed ServerEvent) : b.liftFeed now x = OpenAi.liftFeed x := by
  unfold liftFeed
  cases hd : b.dialect with
  | anthropic => exact absurd hd h
  | openAi | openRouter => rfl

theorem aggregate_of_chunks {b : Backend} (h : b.dialect ≠ .anthropic) (now : UInt64)
    (events : List ServerEvent) :
    b.aggregate now events = .ok (.ofResponse (OpenAi.aggregate events)) := by
  unfold aggregate
  cases hd : b.dialect with
  | anthropic => exact absurd hd h
  | openAi | openRouter => rfl

/-- **Recorded and streamed chunks.**  Where no event is an error envelope, a stream of chunks is
lifted without a fault, and its fragments assemble to the response that the recorded stream adds up
to, with the same usage. -/
theorem assemble_liftFeed (b : Backend) (now : UInt64) (events : List ServerEvent)
    (hb : b.dialect ≠ .anthropic)
    (h : ∀ e ∈ events, ∀ detail,
      Json.parse OpenAi.ErrorDetail.ofEnvelope e.data ≠ .ok detail) :
    (b.liftFeed now (.ofSource (events.map .ok))).fault? = none ∧
    OpenAi.aggregate events
      = .assemble (b.liftFeed now (.ofSource (events.map .ok))).items ∧
    b.aggregate now events = .ok {
      body := (Response.assemble
        (b.liftFeed now (.ofSource (events.map .ok))).items).toJson.render
      usage := (Response.assemble
        (b.liftFeed now (.ofSource (events.map .ok))).items).usage } := by
  obtain ⟨chunks, hscan, hsaid⟩ := OpenAi.said_scanItems h false
  have hitems : (b.liftFeed now (.ofSource (events.map .ok))).items = chunks := by
    rw [liftFeed_of_chunks hb, OpenAi.liftFeed, Feed.items_scan, Feed.items_ofSource_ok,
      Feed.fault?_ofSource_ok, hscan]
  have hfault : (b.liftFeed now (.ofSource (events.map .ok))).fault? = none := by
    rw [liftFeed_of_chunks hb, OpenAi.liftFeed, Feed.fault?_scan, Feed.items_ofSource_ok,
      Feed.fault?_ofSource_ok, hscan]
  have hagg : OpenAi.aggregate events = .assemble chunks := by
    rw [OpenAi.aggregate_eq_assemble]
    exact Response.assemble_congr hsaid.symm
  rw [hitems]
  refine ⟨hfault, hagg, ?_⟩
  rw [aggregate_of_chunks hb, hagg]
  rfl

/-- a stream with garbage, two terminators with chunks behind the first, and a chunk that calls
itself the end -/
def littered : List ServerEvent :=
  ["garbage",
    "\x7b\"id\":\"a\",\"choices\":[\x7b\"delta\":\x7b\"content\":\"Hel\"\x7d\x7d]\x7d",
    "\x7b\"object\":\"[DONE]\",\"choices\":[\x7b\"delta\":\x7b\"content\":\"no\"\x7d\x7d]\x7d",
    "[DONE]",
    "\x7b\"choices\":[\x7b\"delta\":\x7b\"content\":\"lo\"\x7d\x7d]\x7d",
    " [DONE]\n"].map fun data => { data }

/-- a backend that streams chunks -/
def chunking : Backend := { dialect := .openRouter, channels := [] }

theorem assemble_liftFeed_littered :
    (∀ e ∈ littered, ∀ detail, Json.parse OpenAi.ErrorDetail.ofEnvelope e.data ≠ .ok detail) ∧
    (chunking.liftFeed 0 (.ofSource (littered.map .ok))).fault? = none ∧
    (Response.assemble (chunking.liftFeed 0 (.ofSource (littered.map .ok))).items).choices.map
      (fun c => (c.message?.map Message.plainText).getD "") = ["Hello"] := by
  have hunread : ∀ e ∈ littered,
      (Json.parse OpenAi.ErrorDetail.ofEnvelope e.data).isOk = false := by decide +kernel
  have hplain : ∀ e ∈ littered, ∀ detail,
      Json.parse OpenAi.ErrorDetail.ofEnvelope e.data ≠ .ok detail := by
    intro e he detail hd
    have hno := hunread e he
    rw [hd] at hno
    exact nomatch hno
  obtain ⟨hfault, hagg, -⟩ := assemble_liftFeed chunking 0 littered nofun hplain
  refine ⟨hplain, hfault, ?_⟩
  rw [← hagg]
  decide +kernel

end Backend
end ChatRelay
