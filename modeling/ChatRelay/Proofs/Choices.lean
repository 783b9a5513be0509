import ChatRelay.Proofs.OpenAi.Recorded
import ChatRelay.Proofs.SlotOrder

/-!
# The choices of an assembled response

Fragments of several choices, and within a choice of several tool calls, arrive mixed.  Each is
gathered under its number, so what becomes of a number depends on the fragments of that number
alone, in their order.

* `joined`, `find?_gather_joinCall`   a tool call of its fragments;
* `foldl_add`, `foldl_addChoice`      a draft of the fragments of its choice;
* `drafts_assemble`                   the drafts of a list of chunks;
* `choices_assemble`                  which choices a response has, and what each of them says.
-/

namespace ChatRelay

open Slots (gather)

/-- the first text that is not empty -/
def firstSaid (texts : List String) : String := (texts.find? (· ≠ "")).getD ""

theorem firstText_firstSaid (texts : List String) (s : String) :
    firstText (firstSaid texts) s = firstSaid (texts ++ [s]) := by
  unfold firstText firstSaid
  rw [List.find?_append]
  cases h : texts.find? (· ≠ "") with
  | some t =>
    have ht : t ≠ "" := by simpa using List.find?_some h
    rw [Option.getD_some, if_neg ht]
    rfl
  | none =>
    rw [Option.getD_none, if_pos rfl, Option.none_or]
    by_cases hs : s = ""
    · subst hs
      rfl
    · rw [List.find?_cons_of_pos (by simpa using hs)]
      rfl

theorem concat_singleton_append (texts : List String) (s : String) :
    concat texts ++ s = concat (texts ++ [s]) := by
  rw [concat_append, concat_cons, concat_nil, String.append_empty]

/-! ## tool calls -/

namespace ToolCall

/-- the call that fragments of one number make -/
def joined (k : UInt32) (fragments : List ToolCall) : ToolCall :=
  { index := k
    id := firstSaid (fragments.map (·.id))
    name := firstSaid (fragments.map (·.name))
    arguments := concat (fragments.map (·.arguments)) }

theorem joinCall_joined {fragment : ToolCall} {present : Option ToolCall} {k : UInt32}
    {fragments : List ToolCall} (hk : fragment.index = k)
    (h : present.getD { index := k } = joined k fragments) :
    Draft.joinCall fragment present = joined k (fragments ++ [fragment]) := by
  rw [Draft.joinCall, hk, h]
  simp only [joined, firstText_firstSaid, concat_singleton_append, List.map_append, List.map_cons,
    List.map_nil]

/-- fragments of one number, joined one after the other -/
theorem foldl_joinCall {k : UInt32} {fragments : List ToolCall} (h : ∀ f ∈ fragments, f.index = k) :
    fragments.foldl (fun o f => some (Draft.joinCall f o)) none
      = if fragments = [] then none else some (joined k fragments) := by
  induction fragments using List.reverseRecOn with
  | nil => rfl
  | append_singleton fragments f ih =>
    have hpresent := ih fun g hg => h g (List.mem_append_left _ hg)
    have hne : fragments ++ [f] ≠ [] := List.append_ne_nil_of_right_ne_nil _ (List.cons_ne_nil _ _)
    rw [List.foldl_append, hpresent, List.foldl_cons, List.foldl_nil, if_neg hne]
    refine congrArg some (joinCall_joined (h f (by simp)) ?_)
    split
    · next hnil =>
      rw [hnil]
      rfl
    · rfl

theorem find?_gather_joinCall (fragments : List ToolCall) (k : UInt32) :
    Slots.find? k (gather (·.index) Draft.joinCall [] fragments)
      = if fragments.filter (·.index = k) = [] then none
        else some (joined k (fragments.filter (·.index = k))) := by
  have hfind : Slots.find? k (gather (·.index) Draft.joinCall [] fragments)
      = (fragments.filter (·.index = k)).foldl (fun o f => some (Draft.joinCall f o)) none :=
    Slots.find?_gather List.Pairwise.nil fragments k
  rw [hfind]
  exact foldl_joinCall fun f hf => of_decide_eq_true (List.mem_filter.mp hf).2

/-- the calls that fragments make: one for each number, in ascending order, each of the fragments of
its own number -/
structure Gathered (fragments calls : List ToolCall) : Prop where
  ascending : calls.Pairwise (·.index < ·.index)
  indices : ∀ k, (∃ c ∈ calls, c.index = k) ↔ ∃ f ∈ fragments, f.index = k
  joins : ∀ c ∈ calls, c = joined c.index (fragments.filter (·.index = c.index))

theorem gathered_values (fragments : List ToolCall) :
    Gathered fragments (gather (·.index) Draft.joinCall [] fragments).values := by
  have hsorted : Slots.Sorted (gather (·.index) Draft.joinCall [] fragments) :=
    Slots.sorted_gather List.Pairwise.nil fragments
  have hjoined : ∀ p ∈ gather (·.index) Draft.joinCall [] fragments,
      p.2 = joined p.1 (fragments.filter (·.index = p.1)) := by
    intro p hp
    have hfind := Slots.find?_of_mem hsorted hp
    rw [find?_gather_joinCall] at hfind
    split at hfind
    · exact nomatch hfind
    · exact (Option.some.inj hfind).symm
  have hindex : ∀ p ∈ gather (·.index) Draft.joinCall [] fragments, p.2.index = p.1 := by
    intro p hp
    rw [hjoined p hp]
    rfl
  refine ⟨?_, fun k => ?_, ?_⟩
  · refine List.pairwise_map.mpr (hsorted.imp_of_mem fun hp hq hlt => ?_)
    rwa [hindex _ hp, hindex _ hq]
  · refine Iff.trans ?_ (Slots.exists_mem_gather_iff Draft.joinCall fragments k)
    constructor
    · rintro ⟨c, hc, hk⟩
      obtain ⟨p, hp, rfl⟩ := List.mem_map.mp hc
      exact ⟨p, hp, (hindex p hp).symm.trans hk⟩
    · rintro ⟨p, hp, hk⟩
      exact ⟨p.2, List.mem_map_of_mem hp, (hindex p hp).trans hk⟩
  · intro c hc
    obtain ⟨p, hp, rfl⟩ := List.mem_map.mp hc
    rw [hindex p hp]
    exact hjoined p hp

end ToolCall

/-! ## fragments of one choice -/

namespace Message

/-- the text of fragments -/
def textOf (ms : List Message) : String := concat (ms.map (·.plainText))

/-- the reasoning of fragments, none where none has some -/
def reasoningOf (ms : List Message) : Option String :=
  if ms.filterMap (·.reasoning) = [] then none else some (concat (ms.filterMap (·.reasoning)))

/-- the last signature that is not empty -/
def signatureOf (ms : List Message) : Option String :=
  ((ms.filterMap (·.signature)).filter (· ≠ "")).getLast?

/-- the fragments of tool calls, in order -/
def callFragments (ms : List Message) : List ToolCall := ms.flatMap (·.calls)

theorem reasoningOf_concat (ms : List Message) (m : Message) :
    reasoningOf (ms ++ [m]) = Draft.joinReasoning (reasoningOf ms) m.reasoning := by
  rw [reasoningOf, List.filterMap_append]
  cases hm : m.reasoning with
  | none =>
    rw [List.filterMap_cons_none hm, List.filterMap_nil, List.append_nil]
    rfl
  | some s =>
    have hne : ms.filterMap (·.reasoning) ++ [s] ≠ [] :=
      List.append_ne_nil_of_right_ne_nil _ (List.cons_ne_nil _ _)
    rw [List.filterMap_cons_some hm, List.filterMap_nil, if_neg hne, ← concat_singleton_append,
      Draft.joinReasoning, reasoningOf]
    split
    · next hnil =>
      rw [hnil]
      rfl
    · rfl

theorem signatureOf_concat (ms : List Message) (m : Message) :
    signatureOf (ms ++ [m]) = Draft.joinSignature (signatureOf ms) m.signature := by
  unfold signatureOf Draft.joinSignature
  rw [List.filterMap_append, List.filter_append]
  cases hm : m.signature with
  | none => rw [List.filterMap_cons_none hm, List.filterMap_nil, List.filter_nil, List.append_nil]
  | some s =>
    rw [List.filterMap_cons_some hm, List.filterMap_nil]
    by_cases hs : s = ""
    · rw [List.filter_cons_of_neg (by simpa using hs), List.filter_nil, List.append_nil]
      exact (if_pos hs).symm
    · rw [List.filter_cons_of_pos (by simpa using hs), List.filter_nil, List.getLast?_concat]
      exact (if_neg hs).symm

end Message

open Message in
theorem Draft.foldl_add (ms : List Message) : ms.foldl Draft.add {} = {
    text := textOf ms
    reasoning := reasoningOf ms
    signature := signatureOf ms
    calls := gather (·.index) joinCall [] (callFragments ms) } := by
  induction ms using List.reverseRecOn with
  | nil => rfl
  | append_singleton ms m ih =>
    have htext : textOf (ms ++ [m]) = textOf ms ++ m.plainText := by
      rw [textOf, List.map_append, List.map_singleton, ← concat_singleton_append, textOf]
    have hcalls : callFragments (ms ++ [m]) = callFragments ms ++ m.calls := by
      rw [callFragments, List.flatMap_append, List.flatMap_singleton, callFragments]
    rw [List.foldl_append, ih, reasoningOf_concat, signatureOf_concat, htext, hcalls,
      Slots.gather_append]
    rfl

namespace Choice

/-- the last finish reason that is not empty -/
def finishOf (xs : List Choice) : Option FinishReason :=
  ((xs.filterMap (·.finish)).filter (·.word ≠ "")).getLast?

/-- the fragments that entries of a choice bring -/
def fragmentsOf (xs : List Choice) : List Message := xs.filterMap Choice.fragment?

theorem finishOf_concat (xs : List Choice) (x : Choice) (d : Draft) :
    { d with finish := finishOf (xs ++ [x]) }
      = ({ d with finish := finishOf xs } : Draft).finishWith x.finish := by
  unfold finishOf Draft.finishWith
  rw [List.filterMap_append, List.filter_append]
  cases hx : x.finish with
  | none => rw [List.filterMap_cons_none hx, List.filterMap_nil, List.filter_nil, List.append_nil]
  | some r =>
    rw [List.filterMap_cons_some hx, List.filterMap_nil]
    by_cases hr : r.word = ""
    · rw [List.filter_cons_of_neg (by simpa using hr), List.filter_nil, List.append_nil]
      exact (if_pos hr).symm
    · rw [List.filter_cons_of_pos (by simpa using hr), List.filter_nil, List.getLast?_concat]
      exact (if_neg hr).symm

end Choice

open Choice in
/-- fragments and finish reasons do not meet in a draft -/
theorem Draft.foldl_addChoice (xs : List Choice) : xs.foldl Draft.addChoice {}
    = { (fragmentsOf xs).foldl Draft.add {} with finish := finishOf xs } := by
  induction xs using List.reverseRecOn with
  | nil => rfl
  | append_singleton xs x ih =>
    have hfragments : fragmentsOf (xs ++ [x]) = fragmentsOf xs ++ x.fragment?.toList := by
      rw [fragmentsOf, List.filterMap_append, fragmentsOf]
      cases hx : x.fragment? with
      | none => rw [List.filterMap_cons_none hx]; rfl
      | some m => rw [List.filterMap_cons_some hx]; rfl
    rw [List.foldl_append, ih, List.foldl_cons, List.foldl_nil, finishOf_concat, hfragments,
      List.foldl_append]
    unfold addChoice
    cases x.fragment? <;> rfl

/-! ## choices -/

/-- the message that fragments add up to -/
structure Message.JoinedFrom (ms : List Message) (m : Message) : Prop where
  role : m.role = .assistant
  content : m.content =
    if textOf ms = "" ∧ callFragments ms ≠ [] then none else some (.text (textOf ms))
  reasoning : m.reasoning = reasoningOf ms
  signature : m.signature = signatureOf ms
  calls : ToolCall.Gathered (callFragments ms) m.calls
  toolCalls : m.toolCalls = none ↔ callFragments ms = []
  rest : m.name = none ∧ m.toolCallId = none ∧ m.toolFailed = none

/-- the choice that what is said about it adds up to -/
structure Choice.JoinedFrom (xs : List Choice) (c : Choice) : Prop where
  message : ∃ m, c.message = some m ∧ m.JoinedFrom (fragmentsOf xs)
  finish : c.finish = some ((finishOf xs).getD
    (if Message.callFragments (fragmentsOf xs) = [] then .stop else .toolCalls))
  rest : c.delta = none ∧ c.logprobs = none

open Choice in
theorem Draft.choice_joined (xs : List Choice) (index : UInt32) :
    Choice.JoinedFrom xs ((xs.foldl Draft.addChoice {}).choice index) := by
  have hempty : ∀ fragments : List ToolCall,
      (gather (·.index) joinCall [] fragments).values.isEmpty = true ↔ fragments = [] := by
    intro fragments
    rw [Slots.values, List.isEmpty_map, List.isEmpty_iff]
    exact Slots.gather_eq_nil_iff fragments
  have hlist : ∀ calls : List ToolCall,
      (if calls.isEmpty then none else some calls).getD [] = calls := by
    intro calls
    cases calls <;> rfl
  rw [foldl_addChoice, foldl_add]
  refine ⟨⟨_, rfl, ⟨rfl, ?_, rfl, rfl, ?_, ?_, rfl, rfl, rfl⟩⟩, ?_, rfl, rfl⟩
  · show (if Message.textOf (fragmentsOf xs) ≠ "" ∨ _ = true then _ else _) = _
    simp only [hempty]
    by_cases ht : Message.textOf (fragmentsOf xs) = "" <;>
      by_cases hc : Message.callFragments (fragmentsOf xs) = [] <;> simp [ht, hc]
  · show ToolCall.Gathered _ (Option.getD (if _ = true then none else some _) [])
    rw [hlist]
    exact ToolCall.gathered_values (Message.callFragments (fragmentsOf xs))
  · show (if _ = true then none else some _) = none ↔ _
    simp only [hempty]
    simp
  · show some (Option.getD _ (if _ = true then _ else _)) = _
    simp only [hempty]

namespace Response

/-- a chunk without the choices of other indices -/
def only (i : UInt32) (c : Response) : Response :=
  { c with choices := c.choices.filter (·.index = i) }

/-- a draft with one more entry of its choice -/
def joinEntry (x : Choice) (present : Option Draft) : Draft := (present.getD {}).addChoice x

theorem foldl_joinEntry (xs : List Choice) (present : Option Draft) :
    (xs.foldl (fun o x => some (joinEntry x o)) present).getD {}
      = xs.foldl Draft.addChoice (present.getD {}) := by
  induction xs generalizing present with
  | nil => rfl
  | cons x xs ih => exact ih _

/-- what chunks say about choices, in order -/
def told (chunks : List Response) : List Choice := (said chunks).flatMap (·.choices)

theorem drafts_assemble (chunks : List Response) : (chunks.foldl Assembly.add {}).drafts
    = gather (·.index) joinEntry [] (told chunks) := by
  have hlive : ∀ c ∈ said chunks, c.isDone → c.choices = [] := by
    intro c hc hdone
    have hnot := (List.mem_filter.mp hc).2
    rw [hdone] at hnot
    exact nomatch hnot
  rw [← foldl_add_said, Assembly.foldl_add_drafts hlive]
  rfl

theorem told_only (i : UInt32) (chunks : List Response) :
    told (chunks.map (only i)) = (told chunks).filter (·.index = i) := by
  have hsaid : said (chunks.map (only i)) = (said chunks).map (only i) := by
    unfold said
    rw [List.filter_map]
    rfl
  rw [told, hsaid, List.flatMap_map, told, List.filter_flatMap]
  rfl

theorem mem_drafts_assemble {chunks : List Response} {p : UInt32 × Draft}
    (h : p ∈ (chunks.foldl Assembly.add {}).drafts) :
    p.2 = ((told chunks).filter (·.index = p.1)).foldl Draft.addChoice {} := by
  rw [drafts_assemble] at h
  have hnil : Slots.Sorted ([] : Slots Draft) := List.Pairwise.nil
  have hfind := Slots.find?_of_mem (Slots.sorted_gather hnil _) h
  rw [Slots.find?_gather hnil] at hfind
  have hown := foldl_joinEntry ((told chunks).filter (·.index = p.1)) none
  rw [show List.foldl _ none _ = some p.2 from hfind] at hown
  exact hown

/-- **Choices do not influence each other.**  An assembled response has one choice for each index
that a chunk before or behind end markers speaks of, in ascending order.  It is the choice of the
chunks without the choices of other indices, and says what its own fragments add up to. -/
theorem choices_assemble (chunks : List Response) :
    (assemble chunks).choices.Pairwise (·.index < ·.index) ∧
    (∀ i, (∃ c ∈ (assemble chunks).choices, c.index = i) ↔ ∃ x ∈ told chunks, x.index = i) ∧
    (∀ i, (assemble (chunks.map (only i))).choices
      = (assemble chunks).choices.filter (·.index = i)) ∧
    ∀ c ∈ (assemble chunks).choices, c.JoinedFrom ((told chunks).filter (·.index = c.index)) := by
  have hchoices : ∀ cs : List Response, (assemble cs).choices
      = (cs.foldl Assembly.add {}).drafts.map fun p => p.2.choice p.1 := fun _ => rfl
  refine ⟨?_, fun i => ?_, fun i => ?_, ?_⟩
  · rw [hchoices, drafts_assemble]
    exact List.pairwise_map.mpr (Slots.sorted_gather List.Pairwise.nil _)
  · rw [hchoices, drafts_assemble]
    refine Iff.trans ?_ (Slots.exists_mem_gather_iff joinEntry (told chunks) i)
    constructor
    · rintro ⟨c, hc, rfl⟩
      obtain ⟨p, hp, rfl⟩ := List.mem_map.mp hc
      exact ⟨p, hp, rfl⟩
    · rintro ⟨p, hp, rfl⟩
      exact ⟨_, List.mem_map_of_mem hp, rfl⟩
  · rw [hchoices, hchoices, drafts_assemble, drafts_assemble, told_only, List.filter_map]
    exact congrArg _ (Slots.filter_gather (fun k => decide (k = i)) (told chunks)).symm
  · intro c hc
    rw [hchoices] at hc
    obtain ⟨p, hp, rfl⟩ := List.mem_map.mp hc
    rw [mem_drafts_assemble hp]
    exact Draft.choice_joined _ p.1

end Response
end ChatRelay
