import ChatRelay.Proofs.Anthropic.Standing
import ChatRelay.Proofs.StreamFaults

/-!
# Arguments from pieces of a tool's input

A tool block is announced with an empty input, and its input comes in pieces.  The arguments of the
call are the pieces joined, so a tool that takes no input, for which no piece comes or only empty
ones, is called with an empty text, which is no JSON.  In an answer that comes at once the same call
has the empty object as its arguments.

* `ToolBlock`             the pieces that count for the tool block under an index;
* `arguments_iff`         the arguments of a gathered turn are these pieces joined;
* `arguments_parse_iff`   the arguments parse where some piece says something.
-/

namespace ChatRelay

/-- the tool calls in the messages of a response -/
def Response.calls (p : Response) : List ToolCall :=
  p.choices.flatMap fun x => (x.message.map Message.calls).getD []

/-- the calls of fragments that all belong to choice 0 -/
theorem Response.calls_assemble {chunks : List Response}
    (hdone : ∀ c ∈ chunks, c.isDone → c.choices = [])
    (hzero : ∀ x ∈ chunks.flatMap (·.choices), x.index = 0) :
    (assemble chunks).calls
      = ((chunks.flatMap (·.choices)).foldl Draft.addChoice {}).calls.values := by
  have hdrafts : (chunks.foldl Assembly.add {}).drafts
      = (chunks.flatMap (·.choices)).foldl Assembly.draftChoice [] :=
    Assembly.foldl_add_drafts hdone {}
  rw [calls, assemble, Assembly.response, hdrafts]
  by_cases hne : chunks.flatMap (·.choices) = []
  · rw [hne]
    rfl
  · rw [Assembly.foldl_draftChoice hzero hne]
    show (Option.map Message.calls _).getD [] ++ [] = _
    rw [List.append_nil, Draft.calls_choice]

theorem concat_eq_empty_iff {xs : List String} : concat xs = "" ↔ ∀ x ∈ xs, x = "" := by
  refine ⟨fun h => ?_, concat_eq_empty⟩
  induction xs with
  | nil => exact nofun
  | cons x xs ih =>
    rw [concat_cons, String.append_eq_empty_iff] at h
    exact List.forall_mem_cons.mpr ⟨h.1, ih h.2⟩

namespace Anthropic

/-- the pieces of a tool's input that come under an index -/
def inputs (i : UInt32) (es : List Event) : List String := (growth i es).filterMap Delta.input?

theorem inputs_snoc (i : UInt32) (es : List Event) (e : Event) :
    inputs i (es ++ [e]) = inputs i es ++ ((e.growth? i).bind Delta.input?).toList := by
  rw [inputs, growth, List.filterMap_append, List.filterMap_append]
  cases h : e.growth? i with
  | none => simp [h, inputs, growth]
  | some d => cases hd : d.input? <;> simp [h, hd, inputs, growth]

/-- the tool block that stands under an index, with the pieces of input that count for it: those
after its start, or all where its pieces came first and it never started -/
inductive ToolBlock (i : UInt32) : List Event → List String → Prop
  | started {past later : List Event} {id name : String} {input : Json.Value}
      (last : ∀ e ∈ later, e.starts i = false) :
      ToolBlock i (past ++ .blockStart i (.toolUse id name input) :: later) (inputs i later)
  | implied {es : List Event} {s : String} {ds : List Delta}
      (never : ∀ e ∈ es, e.starts i = false) (first : growth i es = .inputJson s :: ds) :
      ToolBlock i es (inputs i es)

/-- events in which every tool block starts with an empty input, and in which the pieces that come
for it are all empty or make a JSON text -/
structure ToolInputs (es : List Event) : Prop where
  empty : ∀ i id name input, .blockStart i (.toolUse id name input) ∈ es → input = .empty
  whole : ∀ i pieces, ToolBlock i es pieces →
    (∀ s ∈ pieces, s = "") ∨ (Json.Value.parse? (concat pieces)).isSome

/-! ## the block of a tool -/

theorem ToolBlock.standing {i : UInt32} {es : List Event} {pieces : List String}
    (h : ToolBlock i es pieces)
    (hempty : ∀ id name input, .blockStart i (.toolUse id name input) ∈ es → input = .empty) :
    ∃ id name, standing (about i es) = some (.toolUse id name (concat pieces)) := by
  cases h with
  | @started past later id name input last =>
    have hinput : input = .empty := hempty id name input (by simp)
    have hstart : Growing.ofBlock? (.toolUse id name input) = some (.toolUse id name "") := by
      rw [hinput]
      rfl
    refine ⟨id, name, ?_⟩
    rw [standing_of_last hstart last, Growing.foldl_grow_toolUse, String.empty_append, inputs]
  | @implied _ s ds never first =>
    refine ⟨"", "", ?_⟩
    rw [standing_of_never never first, Growing.ofDelta, Growing.foldl_grow_toolUse,
      String.empty_append, inputs]

theorem exists_toolBlock {i : UInt32} {es : List Event} {id name arguments : String}
    (h : standing (about i es) = some (.toolUse id name arguments)) :
    ∃ pieces, ToolBlock i es pieces := by
  rcases last_start i es with ⟨past, b, g, later, rfl, hb, hlater⟩ | hnever
  · -- growth does not change the kind of a block, so the one that started is a tool's
    rw [standing_of_last hb hlater] at h
    have hcall : g.isCall = true := by
      rw [← Growing.isCall_foldl_grow (growth i later), Option.some.inj h]
      rfl
    cases b with
    | toolUse id name input => exact ⟨_, .started hlater⟩
    | text _ | thinking _ _ | redacted _ =>
      rw [← Option.some.inj hb] at hcall
      exact nomatch hcall
    | image _ | toolResult _ _ _ => exact nomatch hb
  · cases hgrowth : growth i es with
    | nil =>
      rw [standing_of_nothing hnever hgrowth] at h
      exact nomatch h
    | cons d ds =>
      rw [standing_of_never hnever hgrowth] at h
      have hcall : (Growing.ofDelta d).isCall = true := by
        rw [← Growing.isCall_foldl_grow (growth i es), Option.some.inj h]
        rfl
      cases d with
      | inputJson s => exact ⟨_, .implied hnever hgrowth⟩
      | text _ | thinking _ | signature _ => exact nomatch hcall

/-! ## the calls of a turn -/

variable {now : UInt64} {es : List Event} {p : Response}

theorem silent_of_collect (h : collect now es = .ok p) : ∀ e ∈ es, e.name ≠ "error" := by
  intro e he hname
  cases hfault : es.findSome? Event.fault? with
  | some f =>
    have herror : collect now es = .error f := by
      rw [collect, Collected.pushAll_of_fault hfault]
      rfl
    cases h.symm.trans herror
  | none =>
    have hnone := List.findSome?_eq_none_iff.mp hfault e he
    cases e with
    | error detail => exact absurd hnone (Option.some_ne_none _)
    | messageStart _ | blockStart _ _ | blockDelta _ _ | blockStop _ | messageDelta _ _
    | messageStop | ping => simp [Event.name] at hname

theorem calls_of_collect (h : collect now es = .ok p) :
    p.calls = ((gathered es).blocks.values.filterMap Growing.call?).zipIdx.map
      ToolCall.ofWords := by
  have hne : es ≠ [] := by
    rintro rfl
    exact nomatch h
  rw [collect_eq (silent_of_collect h) hne] at h
  have hcalls : p.calls = (told es).calls := by
    rw [← Except.ok.inj h]
    show (told es).message.calls ++ [] = _
    rw [List.append_nil, Turn.calls_message]
  rw [hcalls, told, foldl_addTo_calls]
  rfl

theorem words_of_collect (h : collect now es = .ok p) :
    p.calls.map ToolCall.words = (gathered es).blocks.values.filterMap Growing.call? := by
  rw [calls_of_collect h]
  exact map_words_ofWords _ _

theorem Growing.call?_eq_some_iff {g : Growing} {w : String × String × String} :
    g.call? = some w ↔ g = .toolUse w.1 w.2.1 w.2.2 := by
  cases g <;> simp [call?, Prod.ext_iff]

/-- the calls of a gathered turn are the tool blocks that stand -/
theorem exists_call_iff (h : collect now es = .ok p) (arguments : String) :
    (∃ c ∈ p.calls, c.arguments = arguments)
      ↔ ∃ i id name, standing (about i es) = some (.toolUse id name arguments) := by
  have hwords := words_of_collect h
  have hsorted := sorted_gathered es
  constructor
  · rintro ⟨c, hc, rfl⟩
    have hmem : c.words ∈ (gathered es).blocks.values.filterMap Growing.call? := by
      rw [← hwords]
      exact List.mem_map_of_mem hc
    obtain ⟨g, hg, hcall⟩ := List.mem_filterMap.mp hmem
    obtain ⟨⟨i, b⟩, hi, rfl⟩ := List.mem_map.mp hg
    refine ⟨i, c.id, c.name, ?_⟩
    rw [← find?_gathered, Slots.find?_of_mem hsorted hi]
    exact congrArg some (Growing.call?_eq_some_iff.mp hcall)
  · rintro ⟨i, id, name, hi⟩
    rw [← find?_gathered] at hi
    have hmem : (id, name, arguments) ∈ p.calls.map ToolCall.words := by
      rw [hwords]
      refine List.mem_filterMap.mpr ⟨.toolUse id name arguments, ?_, rfl⟩
      exact List.mem_map_of_mem (Slots.mem_of_find? hi)
    obtain ⟨c, hc, hcw⟩ := List.mem_map.mp hmem
    exact ⟨c, hc, (Prod.mk.inj (Prod.mk.inj hcw).2).2⟩

theorem arguments_iff (hes : ToolInputs es) (h : collect now es = .ok p) (arguments : String) :
    (∃ c ∈ p.calls, c.arguments = arguments)
      ↔ ∃ i pieces, ToolBlock i es pieces ∧ concat pieces = arguments := by
  rw [exists_call_iff h]
  constructor
  · rintro ⟨i, id, name, hi⟩
    obtain ⟨pieces, hb⟩ := exists_toolBlock hi
    obtain ⟨id', name', hstand⟩ := hb.standing (hes.empty i)
    rw [hi] at hstand
    exact ⟨i, pieces, hb, (Growing.toolUse.inj (Option.some.inj hstand)).2.2.symm⟩
  · rintro ⟨i, pieces, hb, rfl⟩
    obtain ⟨id, name, hstand⟩ := hb.standing (hes.empty i)
    exact ⟨i, id, name, hstand⟩

/-! ## arguments that parse -/

theorem parse?_empty : Json.Value.parse? "" = none := by decide +kernel

/-- **Arguments of streamed calls.**  Where tool blocks start empty and their pieces of input are
all empty or make a JSON text, the arguments of a call parse unless they are empty; all of them
parse where for every tool block some piece is not empty. -/
theorem arguments_parse_iff (hes : ToolInputs es) (h : collect now es = .ok p) :
    (∀ c ∈ p.calls, (Json.Value.parse? c.arguments).isSome ↔ c.arguments ≠ "") ∧
    ((∀ c ∈ p.calls, (Json.Value.parse? c.arguments).isSome) ↔
      ∀ i pieces, ToolBlock i es pieces → ∃ s ∈ pieces, s ≠ "") := by
  have hblocks := arguments_iff hes h
  have hone : ∀ c ∈ p.calls, (Json.Value.parse? c.arguments).isSome ↔ c.arguments ≠ "" := by
    intro c hc
    obtain ⟨i, pieces, hb, hpieces⟩ := (hblocks c.arguments).mp ⟨c, hc, rfl⟩
    rw [← hpieces]
    -- the empty text is no JSON, so of the two cases only the second parses
    rcases hes.whole i pieces hb with hnone | hsome
    · rw [concat_eq_empty hnone, parse?_empty]
      exact ⟨nofun, fun hne => absurd rfl hne⟩
    · refine ⟨fun _ hempty => ?_, fun _ => hsome⟩
      rw [hempty, parse?_empty] at hsome
      exact nomatch hsome
  refine ⟨hone, fun hall i pieces hb => ?_, fun hall c hc => ?_⟩
  · obtain ⟨c, hc, hcp⟩ := (hblocks (concat pieces)).mpr ⟨i, pieces, hb, rfl⟩
    have hne := (hone c hc).mp (hall c hc)
    rw [hcp] at hne
    by_contra hno
    push Not at hno
    exact hne (concat_eq_empty hno)
  · obtain ⟨i, pieces, hb, hpieces⟩ := (hblocks c.arguments).mp ⟨c, hc, rfl⟩
    obtain ⟨s, hs, hne⟩ := hall i pieces hb
    refine (hone c hc).mpr fun hempty => ?_
    rw [← hpieces] at hempty
    exact hne (concat_eq_empty_iff.mp hempty s hs)

/-- two tool uses, the second of which takes no input -/
def waiting : List Event :=
  [ .blockStart 0 (.toolUse "t" "look" .empty),
    .blockDelta 0 (.inputJson "\x7b\"for\":"),
    .blockStart 1 (.toolUse "u" "wait" .empty),
    .blockDelta 1 (.inputJson ""),
    .blockDelta 0 (.inputJson "\"rain\"\x7d"),
    .blockStop 0,
    .blockStop 1 ]

/-- the same turn as an answer -/
def waited : Answer :=
  { id := "m"
    content := [
      .toolUse "t" "look" ⟨.object [("for", .text "rain")], by decide⟩,
      .toolUse "u" "wait" .empty] }

theorem toolInputs_waiting : ToolInputs waiting := by
  have hempty : ∀ i id name input,
      .blockStart i (.toolUse id name input) ∈ waiting → input = .empty := by
    intro i id name input h
    simp only [waiting, List.mem_cons, Event.blockStart.injEq, Block.toolUse.injEq, reduceCtorEq,
      List.not_mem_nil, false_or, or_false] at h
    rcases h with ⟨-, -, -, h⟩ | ⟨-, -, -, h⟩ <;> exact h
  refine ⟨hempty, fun i pieces hb => ?_⟩
  obtain ⟨id, name, hstand⟩ := hb.standing (hempty i)
  by_cases hzero : i = 0
  · have hlook : standing (about 0 waiting)
        = some (.toolUse "t" "look" "\x7b\"for\":\"rain\"\x7d") := by decide +kernel
    rw [hzero, hlook] at hstand
    rw [← (Growing.toolUse.inj (Option.some.inj hstand)).2.2]
    exact .inr (by decide +kernel)
  · by_cases hone : i = 1
    · have hwait : standing (about 1 waiting) = some (.toolUse "u" "wait" "") := by
        decide +kernel
      rw [hone, hwait] at hstand
      exact .inl (concat_eq_empty_iff.mp
        (Growing.toolUse.inj (Option.some.inj hstand)).2.2.symm)
    · have hnone : about i waiting = [] := by
        simp [about, waiting, Event.block?, Ne.symm hzero, Ne.symm hone]
      rw [hnone, standing_nil] at hstand
      exact absurd hstand.symm (Option.some_ne_none _)

theorem collect_waiting : ∃ p, collect 0 waiting = .ok p :=
  ⟨_, collect_eq (by decide) (by simp [waiting]) 0⟩

theorem arguments_parse_iff_waiting :
    ∃ p, collect 0 waiting = .ok p ∧
      (∀ c ∈ p.calls, (Json.Value.parse? c.arguments).isSome ↔ c.arguments ≠ "") ∧
      ¬ ∀ c ∈ p.calls, (Json.Value.parse? c.arguments).isSome := by
  obtain ⟨p, hp⟩ := collect_waiting
  obtain ⟨hone, hall⟩ := arguments_parse_iff toolInputs_waiting hp
  refine ⟨p, hp, hone, fun h => ?_⟩
  have hwait : ToolBlock 1 waiting [""] :=
    @ToolBlock.started 1 (waiting.take 2) (waiting.drop 3) "u" "wait" .empty (by decide)
  obtain ⟨s, hs, hne⟩ := hall.mp h 1 [""] hwait
  exact hne (List.mem_singleton.mp hs)

/-- the second call of the gathered turn does not parse, and every call of the answer does -/
theorem call_without_input :
    ToolInputs waiting ∧
    (∃ p, collect 0 waiting = .ok p ∧ ∃ c ∈ p.calls, Json.Value.parse? c.arguments = none) ∧
    ∀ c ∈ (waited.lift 0).calls, (Json.Value.parse? c.arguments).isSome := by
  obtain ⟨p, hp⟩ := collect_waiting
  have hwait : ∃ i id name, standing (about i waiting) = some (.toolUse id name "") :=
    ⟨1, "u", "wait", by decide +kernel⟩
  obtain ⟨c, hc, hempty⟩ := (exists_call_iff hp "").mpr hwait
  refine ⟨toolInputs_waiting, ⟨p, hp, c, hc, ?_⟩, by decide +kernel⟩
  rw [hempty, parse?_empty]

end Anthropic
end ChatRelay
