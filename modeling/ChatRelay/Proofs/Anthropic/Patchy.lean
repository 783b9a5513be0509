import ChatRelay.Proofs.Anthropic.FragmentTurn
import ChatRelay.Proofs.Anthropic.ToolInput

/-!
# Streams in which starts are missing

The start of a block of an unknown kind cannot be read, and the growth of the block comes all the
same.  Fragments pass over input for a tool that has not started, so the calls they tell are those
of the tool blocks that start.

* `Patchy`                  streams in which the start of any block may be missing;
* `Continues`               which event may stand behind such a stream;
* `startedTools`            the tool blocks that start, each with its input;
* `Fragments.Toolless`      what is lifted from an event that is about no tool;
* `Fragments.Lifted.run`    fragments tell the calls of the tool blocks, in their order.
-/

namespace ChatRelay.Anthropic

/-! ## streams with gaps -/

/-- a stream in which the start of any block may be missing: blocks start in the order of their
indices, and what a block that starts grows by is of its kind and comes behind its start -/
structure Patchy (es : List Event) : Prop where
  silent : ∀ e ∈ es, e.name ≠ "error"
  ascending : (blockStarts es).Pairwise (·.1 < ·.1)
  behind : ∀ past i d rest, es = past ++ .blockDelta i d :: rest →
    ∀ b, (i, b) ∈ blockStarts es → (i, b) ∈ blockStarts past ∧ d.fits b

/-- whether an event may stand behind the events of a stream with gaps -/
def Continues (past : List Event) : Event → Prop
  | .blockStart i _ => (∀ p ∈ blockStarts past, p.1 < i) ∧ growth i past = []
  | .blockDelta i d => ∀ p ∈ blockStarts past, p.1 = i → d.fits p.2
  | .error _ => False
  | .messageStart _ | .blockStop _ | .messageDelta .. | .messageStop | .ping => True

/-- events of which each may stand behind those before it -/
def Continued (past : List Event) : List Event → Prop
  | [] => True
  | e :: es => Continues past e ∧ Continued (past ++ [e]) es

/-- a tool block, if it is one, with the input that comes under its index -/
def startedTool? (es : List Event) : UInt32 × Block → Option (UInt32 × Growing)
  | (i, .toolUse id name input) =>
    some (i, .toolUse id name (initialArguments input ++ concat (inputs i es)))
  | _ => none

/-- the tool blocks that start -/
def startedTools (es : List Event) : Slots Growing := (blockStarts es).filterMap (startedTool? es)

/-- what the calls of the tool blocks that start say -/
def startedCalls (es : List Event) : List (String × String × String) :=
  (startedTools es).values.filterMap Growing.call?

namespace Patchy

variable {es : List Event}

theorem nil : Patchy [] where
  silent := nofun
  ascending := .nil
  behind := by
    intro past i d rest hes
    simp at hes

theorem of_snoc {e : Event} (h : Patchy (es ++ [e])) : Patchy es where
  silent := fun x hx => h.silent x (List.mem_append_left _ hx)
  ascending := by
    have hasc := h.ascending
    rw [blockStarts_snoc] at hasc
    exact (List.pairwise_append.mp hasc).1
  behind := by
    intro past i d rest hes b hb
    have hmem : (i, b) ∈ blockStarts (es ++ [e]) := by
      rw [blockStarts_snoc]
      exact List.mem_append_left _ hb
    refine h.behind past i d (rest ++ [e]) ?_ b hmem
    rw [hes, List.append_assoc, List.cons_append]

/-- before a block starts there is nothing under its index, and no block starts there again -/
theorem split (h : Patchy es) {past later : List Event} {i : UInt32} {b : Block}
    (hes : es = past ++ .blockStart i b :: later) :
    growth i past = [] ∧ ∀ e ∈ later, e.starts i = false := by
  have hstarts : blockStarts es = blockStarts past ++ (i, b) :: blockStarts later := by
    rw [hes, blockStarts, List.filterMap_append]
    rfl
  have hasc := h.ascending
  rw [hstarts] at hasc
  obtain ⟨-, hlater, hpast⟩ := List.pairwise_append.mp hasc
  constructor
  · refine List.eq_nil_iff_forall_not_mem.mpr fun d hd => ?_
    obtain ⟨front, rest, hfront⟩ := List.append_of_mem (mem_growth_iff.mp hd)
    have hsplit : es = front ++ .blockDelta i d :: (rest ++ .blockStart i b :: later) := by
      rw [hes, hfront, List.append_assoc, List.cons_append]
    -- the start would have to be in front of what grows, and it is behind
    have hmem := (h.behind _ _ _ _ hsplit b (by rw [hstarts]; simp)).1
    have hmem' : (i, b) ∈ blockStarts past := by
      rw [mem_blockStarts_iff] at hmem ⊢
      rw [hfront]
      exact List.mem_append_left _ hmem
    exact UInt32.lt_irrefl i (hpast _ hmem' (i, b) List.mem_cons_self)
  · intro e he
    cases e with
    | blockStart j c =>
      have hmem : (j, c) ∈ blockStarts later := mem_blockStarts_iff.mpr he
      have hlt : i < j := (List.pairwise_cons.mp hlater).1 (j, c) hmem
      simp [Event.starts, (UInt32.ne_of_lt hlt).symm]
    | messageStart _ | blockDelta _ _ | blockStop _ | messageDelta _ _ | messageStop | ping
    | error _ => rfl

theorem continues {e : Event} (h : Patchy (es ++ [e])) : Continues es e := by
  cases e with
  | blockStart i b =>
    have hasc := h.ascending
    rw [blockStarts_snoc] at hasc
    have hlt := (List.pairwise_append.mp hasc).2.2
    exact ⟨fun p hp => hlt p hp (i, b) (List.mem_singleton_self _), (h.split rfl).1⟩
  | blockDelta i d =>
    rintro ⟨j, b⟩ hb rfl
    have hmem : (j, b) ∈ blockStarts (es ++ [.blockDelta j d]) := by
      rw [blockStarts_snoc]
      exact List.mem_append_left _ hb
    exact (h.behind es j d [] rfl b hmem).2
  | error detail => exact h.silent (.error detail) (by simp) rfl
  | messageStart _ | blockStop _ | messageDelta _ _ | messageStop | ping => trivial

theorem snoc (h : Patchy es) {e : Event} (he : Continues es e) : Patchy (es ++ [e]) where
  silent := by
    refine List.forall_mem_append.mpr ⟨h.silent, List.forall_mem_singleton.mpr fun hname => ?_⟩
    cases e with
    | error _ => exact he
    | messageStart _ | blockStart _ _ | blockDelta _ _ | blockStop _ | messageDelta _ _
    | messageStop | ping => simp [Event.name] at hname
  ascending := by
    rw [blockStarts_snoc]
    refine List.pairwise_append.mpr ⟨h.ascending, ?_, ?_⟩
    · cases e.start? <;> simp
    · intro p hp q hq
      cases e with
      | blockStart i b =>
        rw [List.mem_singleton.mp hq]
        exact he.1 p hp
      | messageStart _ | blockDelta _ _ | blockStop _ | messageDelta _ _ | messageStop | ping
      | error _ => simp [Event.start?] at hq
  behind := by
    intro past i d rest hes b hb
    rw [blockStarts_snoc] at hb
    rcases snoc_eq_append_cons hes with ⟨rfl, rfl⟩ | ⟨rest', rfl⟩
    · have hmem : (i, b) ∈ blockStarts past := by simpa [Event.start?] using hb
      exact ⟨hmem, he (i, b) hmem rfl⟩
    · rcases List.mem_append.mp hb with hb | hb
      · exact h.behind past i d rest' rfl b hb
      · -- a block that starts now does not grow before
        cases e with
        | blockStart j c =>
          obtain ⟨rfl, rfl⟩ := Prod.mk.inj (List.mem_singleton.mp hb)
          have hmem : d ∈ growth i (past ++ .blockDelta i d :: rest') :=
            mem_growth_iff.mpr (by simp)
          rw [he.2] at hmem
          exact absurd hmem List.not_mem_nil
        | messageStart _ | blockDelta _ _ | blockStop _ | messageDelta _ _ | messageStop | ping
        | error _ => simp [Event.start?] at hb

theorem append {fs : List Event} (h : Patchy es) (hfs : Continued es fs) : Patchy (es ++ fs) := by
  induction fs generalizing es with
  | nil => rwa [List.append_nil]
  | cons e fs ih =>
    rw [List.append_cons]
    exact ih (h.snoc hfs.1) hfs.2

theorem unique (h : Patchy es) {i : UInt32} {b c : Block} (hb : (i, b) ∈ blockStarts es)
    (hc : (i, c) ∈ blockStarts es) : b = c := by
  have hfind : Slots.find? i (blockStarts es) = some b := Slots.find?_of_mem h.ascending hb
  rw [Slots.find?_of_mem h.ascending hc] at hfind
  exact (Option.some.inj hfind).symm

end Patchy

/-! ## the tool blocks that start, one event more -/

theorem mem_startedTools_iff {es : List Event} {i : UInt32} {g : Growing} :
    (i, g) ∈ startedTools es ↔ ∃ id name input, (i, .toolUse id name input) ∈ blockStarts es ∧
      g = .toolUse id name (initialArguments input ++ concat (inputs i es)) := by
  constructor
  · intro h
    obtain ⟨⟨j, b⟩, hb, htool⟩ := List.mem_filterMap.mp h
    cases b with
    | toolUse id name input =>
      obtain ⟨rfl, rfl⟩ := Prod.mk.inj (Option.some.inj htool)
      exact ⟨id, name, input, hb, rfl⟩
    | text _ | image _ | toolResult _ _ _ | thinking _ _ | redacted _ => exact nomatch htool
  · rintro ⟨id, name, input, hb, rfl⟩
    exact List.mem_filterMap.mpr ⟨_, hb, rfl⟩

theorem Patchy.sorted_startedTools {es : List Event} (h : Patchy es) :
    Slots.Sorted (startedTools es) := by
  refine List.Pairwise.filterMap _ ?_ h.ascending
  rintro ⟨i, b⟩ ⟨j, c⟩ hlt p hp q hq
  cases b <;> cases c <;> simp only [startedTool?, Option.some.injEq, reduceCtorEq] at hp hq
  rw [← hp, ← hq]
  exact hlt

/-- whether an event starts a tool block or brings input -/
def Event.isForTool : Event → Bool
  | .blockStart _ b => b.kind = .tool
  | .blockDelta _ d => d.kind = .tool
  | _ => false

theorem startedTool?_snoc {es : List Event} {e : Event}
    (h : ∀ i, (e.growth? i).bind Delta.input? = none) :
    startedTool? (es ++ [e]) = startedTool? es := by
  funext ⟨i, b⟩
  cases b with
  | toolUse id name input => simp [startedTool?, inputs_snoc, h]
  | text _ | image _ | toolResult _ _ _ | thinking _ _ | redacted _ => rfl

theorem startedTools_keep (es : List Event) {e : Event} (he : e.isForTool = false) :
    startedTools (es ++ [e]) = startedTools es := by
  have hinput : ∀ i, (e.growth? i).bind Delta.input? = none := by
    intro i
    cases e with
    | blockDelta j d =>
      have hd : d.input? = none := by
        cases d with
        | inputJson _ => simp [Event.isForTool, Delta.kind] at he
        | text _ | thinking _ | signature _ => rfl
      by_cases hj : j = i <;> simp [Event.growth?, hj, hd]
    | messageStart _ | blockStart _ _ | blockStop _ | messageDelta _ _ | messageStop | ping
    | error _ => rfl
  have hstart : ∀ p ∈ e.start?, startedTool? es p = none := by
    intro p hp
    cases e with
    | blockStart i b =>
      obtain rfl := Option.some.inj hp
      cases b with
      | toolUse _ _ _ => simp [Event.isForTool, Block.kind] at he
      | text _ | image _ | toolResult _ _ _ | thinking _ _ | redacted _ => rfl
    | messageStart _ | blockDelta _ _ | blockStop _ | messageDelta _ _ | messageStop | ping
    | error _ => simp [Event.start?] at hp
  rw [startedTools, startedTool?_snoc hinput, blockStarts_snoc, List.filterMap_append]
  cases hp : e.start? with
  | none => simp [startedTools]
  | some p => simp [startedTools, hstart p hp]

theorem startedTools_start {es : List Event} {i : UInt32} (id name : String) (input : Json.Value)
    (h : growth i es = []) :
    startedTools (es ++ [.blockStart i (.toolUse id name input)])
      = startedTools es ++ [(i, .toolUse id name (initialArguments input))] := by
  have hinput : ∀ j, ((Event.blockStart i (.toolUse id name input)).growth? j).bind Delta.input?
      = none := fun _ => rfl
  rw [startedTools, startedTool?_snoc hinput, blockStarts_snoc, List.filterMap_append]
  simp [startedTools, Event.start?, startedTool?, inputs, h]

/-- a block with more input, if it is the one under an index -/
def growAt (i : UInt32) (more : String) (p : UInt32 × Growing) : UInt32 × Growing :=
  if p.1 = i then (p.1, p.2.grow (.inputJson more)) else p

theorem startedTools_input (es : List Event) (i : UInt32) (more : String) :
    startedTools (es ++ [.blockDelta i (.inputJson more)])
      = (startedTools es).map (growAt i more) := by
  rw [startedTools, startedTools, blockStarts_snoc, List.map_filterMap]
  show List.filterMap _ (blockStarts es ++ []) = _
  rw [List.append_nil]
  congr 1
  funext ⟨j, b⟩
  cases b with
  | toolUse id name input =>
    by_cases hj : j = i
    · simp [startedTool?, inputs_snoc, growAt, hj, Event.growth?, Delta.input?, concat_append,
        Growing.grow, String.append_assoc]
    · simp [startedTool?, inputs_snoc, growAt, hj, Event.growth?, Ne.symm hj]
  | text _ | image _ | toolResult _ _ _ | thinking _ _ | redacted _ => rfl

/-! ## the calls that fragments tell -/

namespace Fragments

/-- what a fragment may be for its calls to be gathered -/
def Plain (c : Response) : Prop := (c.isDone → c.choices = []) ∧ ∀ x ∈ c.choices, x.index = 0

theorem plain_of_step {s t : Fragments} {e : Event} {out : List Response}
    (h : s.step e = .ok (out, t)) : ∀ c ∈ out, Plain c := by
  intro c hc
  by_cases he : e = .messageStop
  · subst he
    have hclose : s.close.1 = out := congrArg Prod.fst (Except.ok.inj h)
    rw [← hclose, close] at hc
    split at hc
    · exact absurd hc List.not_mem_nil
    · have hnone : Response.done.choices = [] := rfl
      rw [List.mem_singleton.mp hc]
      exact ⟨fun _ => hnone, by simp [hnone]⟩
  · have hpiece := (pieces_of_step h he).1 c hc
    refine ⟨fun hdone => ?_, hpiece.index⟩
    rw [hpiece.unmarked] at hdone
    exact absurd hdone Bool.false_ne_true

/-- fragments that bring no call, given in a step that numbers none -/
structure Toolless (s : Fragments) (out : List Response) (t : Fragments) : Prop where
  told : ∀ d, (drafted d out).calls = d.calls
  calls : t.calls = s.calls
  next : t.nextCall = s.nextCall

theorem Toolless.nil {s t : Fragments} (hcalls : t.calls = s.calls)
    (hnext : t.nextCall = s.nextCall) : Toolless s [] t :=
  ⟨fun _ => rfl, hcalls, hnext⟩

theorem Toolless.delta (s : Fragments) {m : ChatRelay.Message} (hm : m.calls = []) :
    Toolless s [s.delta m] s where
  told := by
    intro d
    show (m.calls.foldl _ d.calls) = d.calls
    rw [hm]
    rfl
  calls := rfl
  next := rfl

theorem startBlock_toolless (s : Fragments) (i : UInt32) {b : Block} (hb : b.kind ≠ .tool) :
    Toolless s (s.startBlock i b).1 (s.startBlock i b).2 := by
  cases b with
  | toolUse _ _ _ => exact absurd rfl hb
  | text text =>
    by_cases ht : text = ""
    · simp only [startBlock, if_pos ht]
      exact .nil rfl rfl
    · simp only [startBlock, if_neg ht]
      exact .delta s rfl
  | thinking thought _ =>
    by_cases ht : thought = ""
    · simp only [startBlock, if_pos ht]
      exact .nil rfl rfl
    · simp only [startBlock, if_neg ht]
      exact .delta s rfl
  | image _ | toolResult _ _ _ | redacted _ => exact .nil rfl rfl

theorem growBlock_toolless (s : Fragments) (i : UInt32) {d : Delta} (hd : d.kind ≠ .tool) :
    Toolless s (s.growBlock i d) s := by
  cases d with
  | text _ | thinking _ => exact .delta s rfl
  | signature _ => exact .nil rfl rfl
  | inputJson _ => exact absurd rfl hd

theorem endMessage_toolless (s : Fragments) (ending : Ending) (u : Option Usage) :
    Toolless s (s.endMessage ending u).1 (s.endMessage ending u).2 := by
  have hfinish : ∀ (d : Draft) (r : FinishReason), (d.finishWith (some r)).calls = d.calls := by
    intro d r
    rw [Draft.finishWith]
    split <;> rfl
  unfold endMessage
  cases ending.stopReason with
  | none =>
    cases u with
    | none => exact .nil rfl rfl
    | some u => exact ⟨fun _ => rfl, rfl, rfl⟩
  | some w => exact ⟨fun _ => hfinish _ _, rfl, rfl⟩

theorem close_toolless (s : Fragments) : Toolless s s.close.1 s.close.2 := by
  by_cases hdone : s.done = true
  · rw [close_of_done hdone]
    exact .nil rfl rfl
  · rw [close, if_neg hdone]
    exact ⟨fun _ => rfl, rfl, rfl⟩

theorem step_toolless (s : Fragments) {e : Event} (herror : e.name ≠ "error")
    (he : e.isForTool = false) : ∃ out t, s.step e = .ok (out, t) ∧ Toolless s out t := by
  cases e with
  | messageStart m => exact ⟨[], _, rfl, .nil rfl rfl⟩
  | blockStart i b => exact ⟨_, _, rfl, s.startBlock_toolless i (of_decide_eq_false he)⟩
  | blockDelta i d => exact ⟨_, s, rfl, s.growBlock_toolless i (of_decide_eq_false he)⟩
  | messageDelta ending u => exact ⟨_, _, rfl, s.endMessage_toolless ending u⟩
  | messageStop => exact ⟨_, _, rfl, s.close_toolless⟩
  | blockStop _ | ping => exact ⟨[], s, rfl, .nil rfl rfl⟩
  | error _ => exact absurd rfl herror

/-- the fragments so far tell the calls of the tool blocks that have started, and their numbers are
known by block -/
structure Lifted (ts : List Track) (d : Draft) (past : List Event) (s : Fragments) : Prop where
  started : startedTools past = ts.map Track.entry
  calls : d.calls = ts.map Track.slot
  numbers : Track.Numbered ts
  next : s.nextCall = UInt32.ofNat ts.length
  known : s.calls = (ts.map fun t => (t.block, t.call)).reverse

namespace Lifted

variable {ts : List Track} {d : Draft} {past : List Event} {s : Fragments}

theorem keep (h : Lifted ts d past s) {e : Event} (he : e.isForTool = false)
    {out : List Response} {t : Fragments} (hout : Toolless s out t) :
    Lifted ts (drafted d out) (past ++ [e]) t where
  started := (startedTools_keep past he).trans h.started
  calls := (hout.told d).trans h.calls
  numbers := h.numbers
  next := hout.next.trans h.next
  known := hout.calls.trans h.known

theorem ascending (h : Lifted ts d past s) (hp : Patchy past) :
    ts.Pairwise (·.block < ·.block) := by
  have hsorted : (startedTools past).Pairwise (·.1 < ·.1) := hp.sorted_startedTools
  rw [h.started] at hsorted
  have hblocks := List.pairwise_map.mp hsorted
  exact hblocks

/-- a tool block starts, and with it the next call; there are numbers enough, since blocks are
numbered with as many -/
theorem start (h : Lifted ts d past s) {i : UInt32} {id name : String} {input : Json.Value}
    (hp : Patchy past) (hi : Continues past (.blockStart i (.toolUse id name input))) {c : ToolCall}
    (hc : c = { index := s.nextCall, id, name, arguments := initialArguments input }) {d' : Draft}
    (hcalls : d'.calls = Slots.update c.index (Draft.joinCall c) d.calls) :
    Lifted (ts ++ [Track.begin c i]) d' (past ++ [.blockStart i (.toolUse id name input)])
      { s with
        nextCall := s.nextCall + 1
        calls := (i, s.nextCall) :: s.calls } := by
  have hblocks : ∀ p ∈ startedTools past, p.1 < i := by
    intro p hpm
    obtain ⟨id', name', input', hb, -⟩ := mem_startedTools_iff.mp hpm
    exact hi.1 _ hb
  have hfew : ts.length ≤ i.toNat := by
    have hle := Slots.length_le_of_lt hp.sorted_startedTools hblocks
    rwa [h.started, List.length_map] at hle
  have hnext : s.nextCall.toNat = ts.length := by
    rw [h.next]
    exact UInt32.toNat_ofNat_of_lt' (Nat.lt_of_le_of_lt hfew i.toNat_lt)
  exact {
    started := by
      rw [startedTools_start id name input hi.2, h.started, List.map_append, hc]
      rfl
    calls := by
      rw [hcalls, h.calls]
      refine Track.update_new (fun t ht => ?_) i
      rw [hc, UInt32.lt_iff_toNat_lt, hnext]
      exact h.numbers.lt t ht
    numbers := h.numbers.snoc (by rw [hc]; exact hnext)
    next := by
      rw [List.length_append, List.length_singleton, UInt32.ofNat_add, ← h.next]
      rfl
    known := by
      rw [h.known, hc]
      simp [Track.begin] }

/-- input that comes for a tool block, which grows, and its call with it -/
theorem grow {us vs : List Track} {t : Track} (h : Lifted (us ++ t :: vs) d past s)
    (hp : Patchy past) (more : String) {d' : Draft}
    (hcalls : d'.calls
      = Slots.update t.call (Draft.joinCall { index := t.call, arguments := more }) d.calls) :
    Lifted (us ++ t.grow more :: vs) d' (past ++ [.blockDelta t.block (.inputJson more)]) s where
  started := by
    have hother : ∀ t' ∈ us ++ vs, growAt t.block more t'.entry = t'.entry := by
      intro t' ht'
      have hne : t'.block ≠ t.block := by
        obtain ⟨-, hvs, hus⟩ := List.pairwise_append.mp (h.ascending hp)
        rcases List.mem_append.mp ht' with hmem | hmem
        · exact UInt32.ne_of_lt (hus t' hmem t List.mem_cons_self)
        · exact (UInt32.ne_of_lt ((List.pairwise_cons.mp hvs).1 t' hmem)).symm
      exact if_neg hne
    have hself : growAt t.block more t.entry = (t.grow more).entry := if_pos rfl
    have hus := fun t' ht' => hother t' (List.mem_append_left vs ht')
    have hvs := fun t' ht' => hother t' (List.mem_append_right us ht')
    rw [startedTools_input, h.started, List.map_map, List.map_append, List.map_append,
      List.map_cons, List.map_cons, ← hself]
    congr 1
    · exact List.map_congr_left hus
    · exact congrArg _ (List.map_congr_left hvs)
  calls := by
    rw [hcalls, h.calls]
    exact Track.update_grow h.numbers.ascending (c := { index := t.call, arguments := more }) rfl
      (.inr rfl) (.inr rfl)
  numbers := h.numbers.grow more
  next := by
    rw [h.next]
    simp
  known := by rw [Track.map_grow rfl, h.known]

/-- input under an index where no tool has started -/
theorem skip (h : Lifted ts d past s) {i : UInt32} (hi : ∀ t ∈ ts, t.block ≠ i) (more : String) :
    s.calls.lookup i = none ∧ Lifted ts d (past ++ [.blockDelta i (.inputJson more)]) s := by
  have hkeep : ∀ p ∈ startedTools past, growAt i more p = p := by
    rw [h.started]
    intro p hp
    obtain ⟨t, ht, rfl⟩ := List.mem_map.mp hp
    exact if_neg (hi t ht)
  constructor
  · rw [h.known]
    refine List.lookup_eq_none_iff.mpr fun p hp => ?_
    obtain ⟨t, ht, rfl⟩ := List.mem_map.mp (List.mem_reverse.mp hp)
    simpa using (hi t ht).symm
  · have hsame : startedTools (past ++ [.blockDelta i (.inputJson more)]) = startedTools past := by
      rw [startedTools_input, List.map_congr_left hkeep, List.map_id']
    exact { h with started := hsame.trans h.started }

theorem input (h : Lifted ts d past s) (hp : Patchy past) (i : UInt32) (more : String) :
    ∃ out ts', s.step (.blockDelta i (.inputJson more)) = .ok (out, s) ∧
      Lifted ts' (drafted d out) (past ++ [.blockDelta i (.inputJson more)]) s := by
  by_cases hi : ∃ t ∈ ts, t.block = i
  · obtain ⟨t, ht, rfl⟩ := hi
    obtain ⟨us, vs, rfl⟩ := List.append_of_mem ht
    have hlookup : s.calls.lookup t.block = some t.call := by
      rw [h.known]
      exact Track.lookup_block (h.ascending hp)
    refine ⟨[s.callDelta { index := t.call, arguments := more }], _, ?_, h.grow hp more rfl⟩
    simp [Fragments.step, growBlock, hlookup]
  · obtain ⟨hlookup, hnext⟩ := h.skip (fun t ht hti => hi ⟨t, ht, hti⟩) more
    refine ⟨[], ts, ?_, hnext⟩
    simp [Fragments.step, growBlock, hlookup]

theorem step (h : Lifted ts d past s) {e : Event} (hp : Patchy past) (he : Continues past e) :
    ∃ out ts' next, s.step e = .ok (out, next) ∧
      Lifted ts' (drafted d out) (past ++ [e]) next := by
  have herror : e.name ≠ "error" := (hp.snoc he).silent e (by simp)
  by_cases htool : e.isForTool = true
  · cases e with
    | blockStart i b =>
      cases b with
      | toolUse id name input => exact ⟨_, _, _, rfl, h.start hp he rfl rfl⟩
      | text _ | image _ | toolResult _ _ _ | thinking _ _ | redacted _ =>
        simp [Event.isForTool, Block.kind] at htool
    | blockDelta i more =>
      cases more with
      | inputJson more =>
        obtain ⟨out, ts', hstep, hnext⟩ := h.input hp i more
        exact ⟨out, ts', s, hstep, hnext⟩
      | text _ | thinking _ | signature _ => simp [Event.isForTool, Delta.kind] at htool
    | messageStart _ | blockStop _ | messageDelta _ _ | messageStop | ping | error _ =>
      simp [Event.isForTool] at htool
  · have hother : e.isForTool = false := Bool.eq_false_iff.mpr htool
    obtain ⟨out, t, hstep, hout⟩ := s.step_toolless herror hother
    exact ⟨out, ts, t, hstep, h.keep hother hout⟩

/-- the fragments of a stream with gaps tell the calls of the tool blocks that start in it -/
theorem run (now : UInt64) {es : List Event} (h : Patchy es) :
    ∃ out ts s, (Fragments.start now).run es = .ok (out, s) ∧
      Lifted ts (drafted {} out) es s ∧ ∀ c ∈ out, Plain c := by
  induction es using List.reverseRecOn with
  | nil =>
    refine ⟨[], [], Fragments.start now, rfl, ?_, by simp⟩
    exact { started := rfl, calls := rfl, numbers := rfl, next := rfl, known := rfl }
  | append_singleton es e ih =>
    obtain ⟨out, ts, s, hrun, hlifted, hout⟩ := ih h.of_snoc
    obtain ⟨more, ts', next, hstep, hnext⟩ := hlifted.step h.of_snoc h.continues
    have hlast : s.run [e] = .ok (more ++ [], next) := run_cons_ok hstep (run_nil next)
    rw [List.append_nil] at hlast
    refine ⟨out ++ more, ts', next, run_append_ok hrun hlast, ?_, ?_⟩
    · rw [drafted_append]
      exact hnext
    · exact List.forall_mem_append.mpr ⟨hout, plain_of_step hstep⟩

theorem calls_assemble {out : List Response} {es : List Event}
    (h : Lifted ts (drafted {} out) es s) (hout : ∀ c ∈ out, Plain c) :
    (Response.assemble out).calls = Slots.values (ts.map Track.slot) := by
  have hzero : ∀ x ∈ out.flatMap (·.choices), x.index = 0 := by
    intro x hx
    obtain ⟨c, hc, hxc⟩ := List.mem_flatMap.mp hx
    exact (hout c hc).2 x hxc
  rw [Response.calls_assemble (fun c hc => (hout c hc).1) hzero, ← h.calls]
  rfl

end Lifted
end Fragments

end ChatRelay.Anthropic
