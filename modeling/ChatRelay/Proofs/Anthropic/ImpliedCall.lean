import ChatRelay.Proofs.Anthropic.Patchy
import Mathlib.Data.List.Basic

/-!
# Calls that input implies

A response that is collected takes the first growth under an index for the start of a block.  Where
the start of a block is missing, input for it implies a tool call that has neither identifier nor
name.

* `toolBlocks`                the tool blocks that are gathered;
* `Patchy.filter_isStarted`   of these, the ones that have started;
* `mem_impliedTools_iff`      the others, which input implies;
* `collected_calls_perm`      the calls that are collected, beside those that fragments tell.
-/

namespace ChatRelay.Anthropic

/-- under an index no block starts, and what comes there first is input -/
def Implied (es : List Event) (i : UInt32) : Prop :=
  (∀ b, (i, b) ∉ blockStarts es) ∧ ∃ s ds, growth i es = .inputJson s :: ds

/-- what the call says that input implies -/
def impliedCall (es : List Event) (i : UInt32) : String × String × String :=
  ("", "", concat (inputs i es))

/-- the tool blocks that are gathered -/
def toolBlocks (es : List Event) : Slots Growing := (gathered es).blocks.filter (·.2.isCall)

/-- whether a gathered block has started -/
def isStarted (es : List Event) (p : UInt32 × Growing) : Bool := (blockStarts es).any (·.1 = p.1)

/-- the gathered tool blocks that have not started -/
def impliedTools (es : List Event) : Slots Growing :=
  (toolBlocks es).filter fun p => !isStarted es p

variable {es : List Event} {i : UInt32} {g : Growing}

theorem isStarted_iff : isStarted es (i, g) = true ↔ ∃ b, (i, b) ∈ blockStarts es := by
  rw [isStarted, List.any_eq_true]
  constructor
  · rintro ⟨⟨j, b⟩, hb, hj⟩
    obtain rfl := of_decide_eq_true hj
    exact ⟨b, hb⟩
  · rintro ⟨b, hb⟩
    exact ⟨(i, b), hb, decide_eq_true rfl⟩

theorem sorted_toolBlocks (es : List Event) : Slots.Sorted (toolBlocks es) :=
  List.Pairwise.filter _ (sorted_gathered es)

theorem mem_toolBlocks_iff :
    (i, g) ∈ toolBlocks es ↔ standing (about i es) = some g ∧ g.isCall = true := by
  rw [toolBlocks, List.mem_filter, ← find?_gathered]
  constructor
  · rintro ⟨hmem, hcall⟩
    exact ⟨Slots.find?_of_mem (sorted_gathered es) hmem, hcall⟩
  · rintro ⟨hfind, hcall⟩
    exact ⟨Slots.mem_of_find? hfind, hcall⟩

namespace Patchy

/-- what stands under the index of a block that starts is this block, with all that it grows by -/
theorem standing_start (h : Patchy es) {b : Block} (hmem : (i, b) ∈ blockStarts es)
    (hb : Growing.ofBlock? b = some g) :
    standing (about i es) = some ((growth i es).foldl Growing.grow g) := by
  obtain ⟨past, later, hes⟩ := List.append_of_mem (mem_blockStarts_iff.mp hmem)
  obtain ⟨hpast, hlater⟩ := h.split hes
  have hgrowth : growth i es = growth i later := by
    have happend : growth i es = growth i past ++ growth i later := by
      rw [hes, growth, List.filterMap_append]
      rfl
    rw [happend, hpast, List.nil_append]
  rw [hgrowth, hes]
  exact standing_of_last hb hlater

/-- a block that is not gathered does not grow, so nothing stands under its index -/
theorem standing_foreign (h : Patchy es) {b : Block} (hmem : (i, b) ∈ blockStarts es)
    (hb : Growing.ofBlock? b = none) : standing (about i es) = none := by
  refine standing_of_nothing (fun e he => ?_) (List.eq_nil_iff_forall_not_mem.mpr fun d hd => ?_)
  · cases e with
    | blockStart j c =>
      by_cases hj : j = i
      · have hc : (i, c) ∈ blockStarts es := mem_blockStarts_iff.mpr (hj ▸ he)
        rw [← h.unique hmem hc] at he ⊢
        simp [Event.starts, hb]
      · simp [Event.starts, hj]
    | messageStart _ | blockDelta _ _ | blockStop _ | messageDelta _ _ | messageStop | ping
    | error _ => rfl
  · obtain ⟨past, rest, hes⟩ := List.append_of_mem (mem_growth_iff.mp hd)
    have hfits : d.fits b = true := (h.behind past i d rest hes b hmem).2
    cases b <;> cases d <;> simp [Delta.fits, Growing.ofBlock?] at hfits hb

/-- of the tool blocks that are gathered, those that have started are the ones that start -/
theorem filter_isStarted (h : Patchy es) :
    (toolBlocks es).filter (isStarted es) = startedTools es := by
  have hsorted : Slots.Sorted ((toolBlocks es).filter (isStarted es)) :=
    List.Pairwise.filter _ (sorted_toolBlocks es)
  refine Slots.eq_of_mem_iff hsorted h.sorted_startedTools ?_
  rintro ⟨i, g⟩
  rw [List.mem_filter, mem_toolBlocks_iff, isStarted_iff, mem_startedTools_iff]
  constructor
  · rintro ⟨⟨hstanding, hcall⟩, b, hb⟩
    cases hblock : Growing.ofBlock? b with
    | none =>
      rw [h.standing_foreign hb hblock] at hstanding
      exact nomatch hstanding
    | some g' =>
      rw [h.standing_start hb hblock] at hstanding
      obtain rfl := Option.some.inj hstanding
      rw [Growing.isCall_foldl_grow] at hcall
      cases b with
      | toolUse id name input =>
        obtain rfl := Option.some.inj hblock
        exact ⟨id, name, input, hb, Growing.foldl_grow_toolUse id name _ _⟩
      | text _ | thinking _ _ | redacted _ =>
        obtain rfl := Option.some.inj hblock
        exact nomatch hcall
      | image _ | toolResult _ _ _ => exact nomatch hblock
  · rintro ⟨id, name, input, hb, rfl⟩
    have hstanding := h.standing_start hb rfl
    rw [Growing.foldl_grow_toolUse] at hstanding
    exact ⟨⟨hstanding, rfl⟩, _, hb⟩

end Patchy

theorem mem_impliedTools_iff : (i, g) ∈ impliedTools es ↔
    Implied es i ∧ g = .toolUse "" "" (concat (inputs i es)) := by
  have hnever : (∀ b, (i, b) ∉ blockStarts es) → ∀ e ∈ es, e.starts i = false := by
    intro hno e he
    cases e with
    | blockStart j b =>
      have hj : j ≠ i := by
        rintro rfl
        exact hno b (mem_blockStarts_iff.mpr he)
      simp [Event.starts, hj]
    | messageStart _ | blockDelta _ _ | blockStop _ | messageDelta _ _ | messageStop | ping
    | error _ => rfl
  rw [impliedTools, List.mem_filter, mem_toolBlocks_iff, Bool.not_eq_true', Bool.eq_false_iff,
    ne_eq, isStarted_iff, not_exists]
  constructor
  · rintro ⟨⟨hstanding, hcall⟩, hno⟩
    cases hgrowth : growth i es with
    | nil =>
      rw [standing_of_nothing (hnever hno) hgrowth] at hstanding
      cases hstanding
    | cons d ds =>
      rw [standing_of_never (hnever hno) hgrowth] at hstanding
      obtain rfl := Option.some.inj hstanding
      rw [Growing.isCall_foldl_grow] at hcall
      cases d with
      | inputJson s =>
        refine ⟨⟨hno, s, ds, hgrowth⟩, ?_⟩
        rw [Growing.ofDelta, Growing.foldl_grow_toolUse, String.empty_append, inputs]
      | text _ | thinking _ | signature _ => simp [Growing.ofDelta, Growing.isCall] at hcall
  · rintro ⟨⟨hno, s, ds, hgrowth⟩, rfl⟩
    have hstanding := standing_of_never (hnever hno) hgrowth
    rw [Growing.ofDelta, Growing.foldl_grow_toolUse, String.empty_append] at hstanding
    exact ⟨⟨hstanding, rfl⟩, hno⟩

theorem mem_keys_impliedTools_iff : i ∈ (impliedTools es).map (·.1) ↔ Implied es i := by
  constructor
  · intro hi
    obtain ⟨⟨j, g⟩, hmem, rfl⟩ := List.mem_map.mp hi
    exact (mem_impliedTools_iff.mp hmem).1
  · intro hi
    exact List.mem_map.mpr ⟨_, mem_impliedTools_iff.mpr ⟨hi, rfl⟩, rfl⟩

theorem nodup_keys_impliedTools (es : List Event) : ((impliedTools es).map (·.1)).Nodup := by
  have hsorted : (impliedTools es).Pairwise (·.1 < ·.1) :=
    List.Pairwise.filter _ (sorted_toolBlocks es)
  exact List.pairwise_map.mpr (hsorted.imp UInt32.ne_of_lt)

theorem words_impliedTools (es : List Event) : (impliedTools es).values.filterMap Growing.call?
    = ((impliedTools es).map (·.1)).map (impliedCall es) := by
  have hcall : ∀ p ∈ impliedTools es, p.2.call? = some (impliedCall es p.1) := by
    rintro ⟨i, g⟩ hmem
    obtain ⟨-, rfl⟩ := mem_impliedTools_iff.mp hmem
    rfl
  rw [Slots.values, List.filterMap_map, List.map_map, ← List.filterMap_eq_map]
  exact List.filterMap_congr hcall

section

variable {later : UInt64} {p : Response}

theorem words_toolBlocks (hp : collect later es = .ok p) :
    p.calls.map ToolCall.words = (toolBlocks es).values.filterMap Growing.call? := by
  rw [words_of_collect hp, Growing.filterMap_call?_values]
  rfl

theorem Patchy.sublist_calls (h : Patchy es) (hp : collect later es = .ok p) :
    (startedCalls es).Sublist (p.calls.map ToolCall.words) := by
  have hsub : (startedTools es).Sublist (toolBlocks es) := by
    rw [← h.filter_isStarted]
    exact List.filter_sublist
  rw [words_toolBlocks hp]
  exact (hsub.map _).filterMap _

theorem Patchy.perm_calls (h : Patchy es) (hp : collect later es = .ok p) :
    (p.calls.map ToolCall.words).Perm
      (startedCalls es ++ ((impliedTools es).map (·.1)).map (impliedCall es)) := by
  have hperm : (startedTools es ++ impliedTools es).Perm (toolBlocks es) := by
    rw [← h.filter_isStarted]
    exact List.filter_append_perm _ _
  have hwords := (hperm.map (·.2)).filterMap Growing.call?
  rw [List.map_append, List.filterMap_append] at hwords
  rw [words_toolBlocks hp, ← words_impliedTools]
  exact hwords.symm

end

/-- **Calls of a stream in which starts are missing.**  The fragments of the stream are assembled to
the calls of the tool blocks that start, in their order.  The response that is collected has these
calls as well, and one without identifier and name for every index under which input comes and no
block starts; the two agree if there is no such index. -/
theorem collected_calls_perm (h : Patchy es) (hne : es ≠ []) (now later : UInt64) :
    ∃ chunks s p, ∃ gaps : List UInt32,
      (Fragments.start now).run es = .ok (chunks, s) ∧ collect later es = .ok p ∧
      (Response.assemble chunks).calls.map ToolCall.words = startedCalls es ∧
      (startedCalls es).Sublist (p.calls.map ToolCall.words) ∧
      (p.calls.map ToolCall.words).Perm (startedCalls es ++ gaps.map (impliedCall es)) ∧
      gaps.Nodup ∧ (∀ i, i ∈ gaps ↔ Implied es i) ∧
      (p.calls = (Response.assemble chunks).calls ↔ ∀ i, ¬ Implied es i) := by
  obtain ⟨chunks, ts, s, hrun, hlifted, hplain⟩ := Fragments.Lifted.run now h
  obtain ⟨p, hp⟩ : ∃ p, collect later es = .ok p := ⟨_, collect_eq h.silent hne later⟩
  have hcalls := hlifted.calls_assemble hplain
  have hstarted : (Response.assemble chunks).calls.map ToolCall.words = startedCalls es := by
    rw [hcalls, Track.map_words_slot, startedCalls, hlifted.started]
    simp [Slots.values, Track.entry, Growing.call?, Track.words, Function.comp_def]
  have hsub := h.sublist_calls hp
  have hperm := h.perm_calls hp
  refine ⟨chunks, s, p, (impliedTools es).map (·.1), hrun, hp, hstarted, hsub, hperm,
    nodup_keys_impliedTools es, fun i => mem_keys_impliedTools_iff, ?_⟩
  have hlength := hperm.length_eq
  rw [List.length_append, List.length_map, List.length_map, List.length_map] at hlength
  constructor
  · intro heq i hi
    have hmem := List.length_pos_of_mem (mem_keys_impliedTools_iff.mpr hi)
    have hsame := congrArg List.length hstarted
    rw [← heq, List.length_map] at hsame
    rw [List.length_map] at hmem
    omega
  · intro hno
    have hnone : impliedTools es = [] := List.eq_nil_iff_forall_not_mem.mpr fun q hq =>
      hno q.1 (mem_impliedTools_iff.mp hq).1
    have hsame : startedCalls es = p.calls.map ToolCall.words := by
      refine hsub.eq_of_length ?_
      rw [List.length_map, hlength, hnone]
      rfl
    -- calls that say the same, numbered from 0 on both sides
    rw [calls_of_collect hp, ← words_of_collect hp, ← hsame, ← hstarted, hcalls]
    exact Fragments.renumbered hlifted.numbers

/-- a tool use between growth of blocks that do not start -/
def looking : List Event :=
  [ .messageStart { id := "m" },
    .blockDelta 0 (.inputJson "\x7b\x7d"),
    .blockStart 1 (.toolUse "t" "look" .empty),
    .blockDelta 1 (.inputJson "\x7b"),
    .blockDelta 3 (.text "x"),
    .blockDelta 1 (.inputJson "\x7d"),
    .messageStop ]

theorem collected_calls_perm_looking :
    ∃ chunks s p, (Fragments.start 0).run looking = .ok (chunks, s) ∧ collect 0 looking = .ok p ∧
      (Response.assemble chunks).calls.map ToolCall.words = [("t", "look", "\x7b\x7d")] ∧
      p.calls ≠ (Response.assemble chunks).calls := by
  have hpatchy : Patchy looking := by
    refine Patchy.nil.append ⟨trivial, ?_, ⟨?_, rfl⟩, ?_, ?_, ?_, trivial, trivial⟩
    all_goals simp [Continues, blockStarts, Event.start?, Delta.fits]
  have himplied : Implied looking 0 := by
    refine ⟨fun b hb => ?_, _, [], rfl⟩
    simp [looking, blockStarts, Event.start?] at hb
  have hstarted : startedCalls looking = [("t", "look", "\x7b\x7d")] := by decide +kernel
  obtain ⟨chunks, s, p, -, hrun, hp, hcalls, -, -, -, -, hagree⟩ :=
    collected_calls_perm hpatchy (List.cons_ne_nil _ _) 0 0
  exact ⟨chunks, s, p, hrun, hp, hcalls.trans hstarted, fun heq => hagree.mp heq 0 himplied⟩

/-- an answer in front of which a tool of the backend has been used, in a block whose start cannot
be read -/
def searched : List Event :=
  [ .messageStart { id := "m", usage := { input := 3, output := 1 } },
    .blockDelta 0 (.inputJson "\x7b\"query\":\"x\"\x7d"),
    .blockStop 0,
    .blockStart 1 (.text ""),
    .blockDelta 1 (.text "Hi"),
    .blockStop 1,
    .messageDelta { stopReason := some "end_turn" } (some { output := 5 }),
    .messageStop ]

/-- no tool block starts and no call is lifted, but one is collected -/
theorem nameless_call_collected :
    Patchy searched ∧ startedCalls searched = [] ∧
    (∃ chunks s, (Fragments.start 0).run searched = .ok (chunks, s) ∧
      (Response.assemble chunks).calls = []) ∧
    ∃ p, collect 0 searched = .ok p ∧
      p.calls.map ToolCall.words = [("", "", "\x7b\"query\":\"x\"\x7d")] := by
  have hpatchy : Patchy searched := by
    refine Patchy.nil.append ⟨trivial, ?_, trivial, ⟨?_, rfl⟩, ?_, trivial, trivial, trivial,
      trivial⟩
    all_goals simp [Continues, blockStarts, Event.start?, Delta.fits]
  obtain ⟨p, hp⟩ : ∃ p, collect 0 searched = .ok p :=
    ⟨_, collect_eq hpatchy.silent (List.cons_ne_nil _ _) 0⟩
  refine ⟨hpatchy, rfl, ⟨_, _, rfl, by decide +kernel⟩, p, hp, ?_⟩
  rw [words_of_collect hp]
  decide +kernel

end ChatRelay.Anthropic
