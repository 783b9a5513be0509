import ChatRelay.Proofs.Anthropic.Gathered
import ChatRelay.Proofs.Anthropic.StreamOrder
import ChatRelay.Proofs.Assembly

/-!
# Lifted fragments tell the turn of their events

The events of a stream can be collected to a response, or lifted to fragments that are assembled to
one.  The events key what they say by block, the fragments by tool index; the fragments report the
usage known so far, which is merged again, while the events are merged once.  `Follows` relates the
blocks of the events so far, the state of the lifter and the draft of its fragments.

* `Accepts`            which event may follow in the body of a stream;
* `Follows.run`        the body of a stream keeps the relation;
* `Ended.run`          the `message_delta` events behind it;
* `assemble_run_eq_collect`   the turn that is assembled is the one that is collected.
-/

namespace ChatRelay.Anthropic

open Assembly (mergeReports mergeReports_append mergeReports_of_none)

/-! ## kinds of blocks -/

/-- the kinds of blocks that an answer has, and all others -/
inductive Kind where
  | text
  | thinking
  | redacted
  | tool
  | other
  deriving DecidableEq, Repr

/-- the kind of a block -/
def Block.kind : Block → Kind
  | .text _ => .text
  | .thinking .. => .thinking
  | .redacted _ => .redacted
  | .toolUse .. => .tool
  | .image _ | .toolResult .. => .other

/-- the kind of a gathered block -/
def Growing.kind : Growing → Kind
  | .text _ => .text
  | .thinking .. => .thinking
  | .redacted _ => .redacted
  | .toolUse .. => .tool

/-- the kind of block that grows -/
def Delta.kind : Delta → Kind
  | .text _ => .text
  | .thinking _ | .signature _ => .thinking
  | .inputJson _ => .tool

/-- whether growth goes to the latest block of its kind -/
def Delta.isInOrder : Delta → Bool
  | .text _ | .thinking _ => true
  | .inputJson _ | .signature _ => false

theorem Growing.kind_grow (g : Growing) (d : Delta) : (g.grow d).kind = g.kind := by
  cases g <;> cases d <;> rfl

theorem Growing.spoken_of_kind {g : Growing} (h : g.kind ≠ .text) : g.spoken = "" := by
  cases g with
  | text _ => exact absurd rfl h
  | thinking _ _ | redacted _ | toolUse _ _ _ => rfl

theorem Growing.thought_of_kind {g : Growing} (h : g.kind ≠ .thinking) : g.thought = "" := by
  cases g with
  | thinking _ _ => exact absurd rfl h
  | text _ | redacted _ | toolUse _ _ _ => rfl

theorem Growing.takes_of_kind {g : Growing} {d : Delta} (h : g.kind = d.kind)
    (hd : d.kind ≠ .tool) : g.takes d = true := by
  cases g <;> cases d <;> simp_all [kind, Delta.kind, takes]

theorem Growing.isCall_iff_kind (g : Growing) : g.isCall = true ↔ g.kind = .tool := by
  cases g <;> simp [isCall, kind]

/-! ## the body of a stream -/

/-- whether an event may stand behind the events of a body: blocks of an answer start in the order
of their indices, growth names a block of its kind that has started, and text and thinking the
latest of theirs -/
def Accepts (past : List Event) : Event → Prop
  | .blockStart i b => (∀ p ∈ blockStarts past, p.1 < i) ∧ b.kind ≠ .other
  | .blockDelta i d => ∃ xs b ys, blockStarts past = xs ++ (i, b) :: ys ∧ b.kind = d.kind ∧
      (d.isInOrder = true → ∀ p ∈ ys, p.2.kind ≠ d.kind)
  | .blockStop _ | .ping => True
  | .messageStart _ | .messageDelta .. | .messageStop | .error _ => False

/-- the events of a body, each behind those before it -/
def Body (past : List Event) : List Event → Prop
  | [] => True
  | e :: es => Accepts past e ∧ Body (past ++ [e]) es

namespace Fragments

theorem run_cons_ok {s t u : Fragments} {e : Event} {es : List Event} {out rest : List Response}
    (h : s.step e = .ok (out, t)) (hr : t.run es = .ok (rest, u)) :
    s.run (e :: es) = .ok (out ++ rest, u) := by
  rw [run, h]
  simp only [hr]

theorem run_append_ok {s t u : Fragments} {es fs : List Event} {out rest : List Response}
    (h : s.run es = .ok (out, t)) (hr : t.run fs = .ok (rest, u)) :
    s.run (es ++ fs) = .ok (out ++ rest, u) := by
  induction es generalizing s out with
  | nil =>
    obtain ⟨rfl, rfl⟩ := Prod.mk.inj (Except.ok.inj h)
    exact hr
  | cons e es ih =>
    rw [run] at h
    split at h
    · simp at h
    · next out' next hstep =>
      split at h
      · simp at h
      · next rest' last hrun =>
        obtain ⟨rfl, rfl⟩ := Prod.mk.inj (Except.ok.inj h)
        rw [List.append_assoc]
        exact run_cons_ok hstep (ih hrun)

/-! ## the fragments of one event -/

/-- a fragment that is no end marker, all of it in choice 0 -/
structure Piece (c : Response) : Prop where
  unmarked : c.isDone = false
  index : ∀ x ∈ c.choices, x.index = 0

theorem piece_delta (s : Fragments) (m : ChatRelay.Message) : ∀ c ∈ [s.delta m], Piece c :=
  List.forall_mem_singleton.mpr ⟨rfl, by simp [delta, chunk]⟩

theorem startBlock_pieces (s : Fragments) (i : UInt32) (b : Block) :
    ∀ c ∈ (s.startBlock i b).1, Piece c := by
  cases b with
  | toolUse id name input => exact s.piece_delta _
  | text t | thinking t _ =>
    by_cases ht : t = ""
    · simp only [startBlock, if_pos ht]
      exact List.forall_mem_nil _
    · simp only [startBlock, if_neg ht]
      exact s.piece_delta _
  | image _ | toolResult _ _ _ | redacted _ => exact List.forall_mem_nil _

theorem growBlock_pieces (s : Fragments) (i : UInt32) (d : Delta) :
    ∀ c ∈ s.growBlock i d, Piece c := by
  cases d with
  | text _ | thinking _ => exact s.piece_delta _
  | signature _ => exact List.forall_mem_nil _
  | inputJson more =>
    simp only [growBlock]
    cases s.calls.lookup i with
    | none => exact List.forall_mem_nil _
    | some call => exact s.piece_delta _

theorem endMessage_pieces (s : Fragments) (ending : Ending) (u : Option Usage) :
    (∀ c ∈ (s.endMessage ending u).1, Piece c) ∧ (s.endMessage ending u).2.done = s.done := by
  unfold endMessage
  cases ending.stopReason with
  | none =>
    cases u with
    | none => exact ⟨List.forall_mem_nil _, rfl⟩
    | some u => exact ⟨List.forall_mem_singleton.mpr ⟨rfl, by simp [chunk]⟩, rfl⟩
  | some w => exact ⟨List.forall_mem_singleton.mpr ⟨rfl, by simp [chunk]⟩, rfl⟩

/-- the end of the message alone gives the end marker -/
theorem pieces_of_step {s t : Fragments} {e : Event} {out : List Response}
    (h : s.step e = .ok (out, t)) (he : e ≠ .messageStop) :
    (∀ c ∈ out, Piece c) ∧ t.done = s.done := by
  cases e with
  | error detail => cases h
  | messageStop => exact absurd rfl he
  | messageStart _ | blockStop _ | ping =>
    obtain ⟨rfl, rfl⟩ := Prod.mk.inj (Except.ok.inj h)
    exact ⟨List.forall_mem_nil _, rfl⟩
  | blockStart i b =>
    obtain ⟨rfl, rfl⟩ := Prod.mk.inj (Except.ok.inj h)
    refine ⟨s.startBlock_pieces i b, ?_⟩
    cases b <;> rfl
  | blockDelta i d =>
    obtain ⟨rfl, rfl⟩ := Prod.mk.inj (Except.ok.inj h)
    exact ⟨s.growBlock_pieces i d, rfl⟩
  | messageDelta ending u =>
    obtain ⟨rfl, rfl⟩ := Prod.mk.inj (Except.ok.inj h)
    exact s.endMessage_pieces ending u

/-- a fragment of the message that `m` started -/
structure Belongs (m : Answer) (c : Response) : Prop where
  id : c.id = m.id
  model : c.model = m.model
  unmarked : c.isDone = false
  index : ∀ x ∈ c.choices, x.index = 0

def drafted (d : Draft) (out : List Response) : Draft :=
  (out.flatMap (·.choices)).foldl Draft.addChoice d

theorem drafted_append (d : Draft) (out rest : List Response) :
    drafted d (out ++ rest) = drafted (drafted d out) rest := by
  rw [drafted, List.flatMap_append, List.foldl_append]
  rfl

/-- the events of a body, the state behind them and the draft of the fragments they give: blocks are
gathered as they start, and calls are numbered as their blocks start -/
structure Follows (m : Answer) (now : UInt64) (ts : List Track) (d : Draft) (past : List Event)
    (s : Fragments) : Prop where
  tells : Tells m ts past d.text (d.reasoning.getD "")
  kinds : (gathered past).blocks.map (fun p => (p.1, p.2.kind))
    = (blockStarts past).map fun p => (p.1, p.2.kind)
  calls : d.calls = ts.map Track.slot
  numbers : ts.map (·.call.toNat) = List.range ts.length
  next : s.nextCall.toNat = ts.length
  known : s.calls = (ts.map fun t => (t.block, t.call)).reverse
  undecided : d.finish = none
  frame : { s with nextCall := 0, calls := [] } =
    { id := m.id
      model := m.model
      created := now
      usage := if 0 < m.usage.lift.total then some m.usage.lift else none : Fragments }

namespace Follows

variable {m : Answer} {now : UInt64} {ts : List Track} {d : Draft} {past : List Event}
  {s : Fragments}

theorem belongs (h : Follows m now ts d past s) (x : ChatRelay.Message) :
    ∀ c ∈ [s.delta x], Belongs m c ∧ c.usage = none := by
  intro c hc
  rw [List.mem_singleton.mp hc]
  refine ⟨?_, rfl⟩
  exact {
    id := congrArg Fragments.id h.frame
    model := congrArg Fragments.model h.frame
    unmarked := rfl
    index := by simp [delta, chunk] }

/-- the block that has started under an index -/
theorem split (h : Follows m now ts d past s) {xs ys : List (UInt32 × Block)} {i : UInt32}
    {b : Block} (hb : blockStarts past = xs ++ (i, b) :: ys) :
    ∃ xs' g ys', (gathered past).blocks = xs' ++ (i, g) :: ys' ∧ g.kind = b.kind ∧
      ys'.map (fun p => (p.1, p.2.kind)) = ys.map fun p => (p.1, p.2.kind) := by
  have hk := h.kinds
  rw [hb, List.map_append, List.map_cons] at hk
  obtain ⟨xs', rest, hblocks, -, hrest⟩ := List.map_eq_append_iff.mp hk
  obtain ⟨⟨j, g⟩, ys', rfl, hg, hys⟩ := List.map_eq_cons_iff.mp hrest
  obtain ⟨rfl, hkind⟩ := Prod.mk.inj hg
  exact ⟨xs', g, ys', hblocks, hkind, hys⟩

theorem lt_of_starts (h : Follows m now ts d past s) {i : UInt32}
    (hi : ∀ p ∈ blockStarts past, p.1 < i) : ∀ p ∈ (gathered past).blocks, p.1 < i := by
  intro p hp
  have hmem := List.mem_map_of_mem (f := fun p : UInt32 × Growing => (p.1, p.2.kind)) hp
  rw [h.kinds] at hmem
  obtain ⟨q, hq, hqp⟩ := List.mem_map.mp hmem
  exact (Prod.mk.inj hqp).1 ▸ hi q hq

/-- an event that changes neither the state nor the calls -/
theorem keep (h : Follows m now ts d past s) {e : Event} {d' : Draft}
    (ht : Tells m ts (past ++ [e]) d'.text (d'.reasoning.getD ""))
    (hk : (gathered (past ++ [e])).blocks.map (fun p => (p.1, p.2.kind))
      = (blockStarts (past ++ [e])).map fun p => (p.1, p.2.kind))
    (hc : d'.calls = d.calls) (hf : d'.finish = d.finish) :
    Follows m now ts d' (past ++ [e]) s where
  tells := ht
  kinds := hk
  calls := hc.trans h.calls
  numbers := h.numbers
  next := h.next
  known := h.known
  undecided := hf.trans h.undecided
  frame := h.frame

theorem pass (h : Follows m now ts d past s) {e : Event} (he : e.isIdle = true) :
    Follows m now ts d (past ++ [e]) s := by
  have hstarts : blockStarts (past ++ [e]) = blockStarts past := by
    rw [blockStarts_snoc]
    cases e <;> simp_all [Event.isIdle, Event.start?]
  refine h.keep (h.tells.pass he) ?_ rfl rfl
  rw [gathered_idle past he, hstarts]
  exact h.kinds

theorem kinds_start (h : Follows m now ts d past s) {i : UInt32} {b : Block} {g : Growing}
    (hi : ∀ p ∈ blockStarts past, p.1 < i) (hg : Growing.ofBlock? b = some g)
    (hkind : g.kind = b.kind) :
    (gathered (past ++ [.blockStart i b])).blocks.map (fun p => (p.1, p.2.kind))
      = (blockStarts (past ++ [.blockStart i b])).map fun p => (p.1, p.2.kind) := by
  rw [blocks_gathered_start hg (h.lt_of_starts hi), blockStarts_snoc, List.map_append, h.kinds,
    List.map_append]
  simp [Event.start?, hkind]

theorem kinds_grow (h : Follows m now ts d past s) {xs ys : Slots Growing} {i : UInt32}
    {g : Growing} (hb : (gathered past).blocks = xs ++ (i, g) :: ys) (more : Delta) :
    (gathered (past ++ [.blockDelta i more])).blocks.map (fun p => (p.1, p.2.kind))
      = (blockStarts (past ++ [.blockDelta i more])).map fun p => (p.1, p.2.kind) := by
  have hk := h.kinds
  rw [hb] at hk
  rw [blocks_gathered_delta h.tells.sorted hb, blockStarts_snoc]
  simpa [Event.start?, Growing.kind_grow] using hk

/-- a block that is no tool's starts, with the text or the thought it has -/
theorem startSpoken (h : Follows m now ts d past s) {i : UInt32} {b : Block} {g : Growing}
    (hi : ∀ p ∈ blockStarts past, p.1 < i) (hg : Growing.ofBlock? b = some g)
    (hkind : g.kind = b.kind) (hcall : g.isCall = false) {d' : Draft}
    (htext : d'.text = d.text ++ g.spoken)
    (hthought : d'.reasoning.getD "" = d.reasoning.getD "" ++ g.thought)
    (hc : d'.calls = d.calls) (hf : d'.finish = d.finish) :
    Follows m now ts d' (past ++ [.blockStart i b]) s := by
  have htells : Tells m (ts ++ []) _ _ _ :=
    h.tells.start hg (h.lt_of_starts hi) (by simp [hcall])
  rw [List.append_nil] at htells
  exact h.keep (by rw [htext, hthought]; exact htells) (h.kinds_start hi hg hkind) hc hf

theorem grow (h : Follows m now ts d past s) {i : UInt32} {more : Delta}
    (ha : Accepts past (.blockDelta i more)) (hkind : more.kind ≠ .tool) {d' : Draft}
    (htext : d'.text = d.text ++ more.spoken)
    (hthought : d'.reasoning.getD "" = d.reasoning.getD "" ++ more.thought)
    (hc : d'.calls = d.calls) (hf : d'.finish = d.finish) :
    Follows m now ts d' (past ++ [.blockDelta i more]) s := by
  obtain ⟨xs, b, ys, hstarts, hb, hlatest⟩ := ha
  obtain ⟨xs', g, ys', hblocks, hg, hys⟩ := h.split hstarts
  -- blocks of the kind that grows in order do not stand behind the one that grows
  have hbehind : more.isInOrder = true → ∀ p ∈ ys', p.2.kind ≠ more.kind := by
    intro ho p hp hpk
    have hmem := List.mem_map_of_mem (f := fun p : UInt32 × Growing => (p.1, p.2.kind)) hp
    rw [hys] at hmem
    obtain ⟨q, hq, hqp⟩ := List.mem_map.mp hmem
    exact hlatest ho q hq ((Prod.mk.inj hqp).2.trans hpk)
  refine h.keep ?_ (h.kinds_grow hblocks more) hc hf
  rw [htext, hthought]
  refine h.tells.grow hblocks (Growing.takes_of_kind (hg.trans hb) hkind) ?_ ?_
  · cases more with
    | text _ => exact .inl fun p hp => Growing.spoken_of_kind (hbehind rfl p hp)
    | thinking _ | signature _ | inputJson _ => exact .inr rfl
  · cases more with
    | thinking _ => exact .inl fun p hp => Growing.thought_of_kind (hbehind rfl p hp)
    | text _ | signature _ | inputJson _ => exact .inr rfl

theorem calls_lt_next (h : Follows m now ts d past s) : ∀ t ∈ ts, t.call < s.nextCall := by
  intro t ht
  have hlt := Track.Numbered.lt h.numbers t ht
  rw [← h.next] at hlt
  exact UInt32.lt_iff_toNat_lt.mpr hlt

theorem length_le (h : Follows m now ts d past s) : ts.length ≤ (blockStarts past).length := by
  -- every call has a gathered block, and every gathered block has started
  have hk := congrArg List.length h.kinds
  have hc := congrArg List.length h.tells.calls
  have hle := List.length_filter_le (·.2.isCall) (gathered past).blocks
  simp only [List.length_map] at hk hc
  omega

/-- a tool block starts, and with it the next call -/
theorem startCall (h : Follows m now ts d past s) {i : UInt32} {id name : String}
    {input : Json.Value} (hi : ∀ p ∈ blockStarts past, p.1 < i)
    (hfew : (blockStarts past).length + 1 < UInt32.size) {c : ToolCall}
    (hc : c = { index := s.nextCall, id, name, arguments := initialArguments input }) {d' : Draft}
    (htext : d'.text = d.text) (hthought : d'.reasoning = d.reasoning)
    (hcalls : d'.calls = Slots.update c.index (Draft.joinCall c) d.calls)
    (hf : d'.finish = d.finish) :
    Follows m now (ts ++ [Track.begin c i]) d' (past ++ [.blockStart i (.toolUse id name input)])
      { s with
        nextCall := s.nextCall + 1
        calls := (i, s.nextCall) :: s.calls } := by
  have hg : Growing.ofBlock? (.toolUse id name input)
    = some (.toolUse id name (initialArguments input)) := rfl
  have htells : Tells m (ts ++ [Track.begin c i]) _ _ _ :=
    h.tells.start hg (h.lt_of_starts hi) (by rw [hc]; rfl)
  exact {
    tells := by
      rw [htext, hthought]
      simpa [Growing.spoken, Growing.thought] using htells
    kinds := h.kinds_start hi hg rfl
    calls := by
      rw [hcalls, h.calls]
      exact Track.update_new (by rw [hc]; exact h.calls_lt_next) i
    numbers := Track.Numbered.snoc h.numbers (by rw [hc]; exact h.next)
    next := by
      rw [UInt32.toNat_add, h.next, List.length_append]
      exact Nat.mod_eq_of_lt (Nat.lt_of_le_of_lt (Nat.succ_le_succ h.length_le) hfew)
    known := by
      rw [h.known, hc]
      simp [Track.begin]
    undecided := hf.trans h.undecided
    frame := h.frame }

/-- a tool block grows, and with it its call -/
theorem growCall (h : Follows m now ts d past s) {i : UInt32} {more : String}
    (ha : Accepts past (.blockDelta i (.inputJson more))) :
    ∃ us t vs, ts = us ++ t :: vs ∧ s.calls.lookup i = some t.call ∧
      ∀ d' : Draft, d'.text = d.text → d'.reasoning = d.reasoning →
        d'.calls
          = Slots.update t.call (Draft.joinCall { index := t.call, arguments := more }) d.calls →
        d'.finish = d.finish →
        Follows m now (us ++ t.grow more :: vs) d' (past ++ [.blockDelta i (.inputJson more)])
          s := by
  obtain ⟨xs, b, ys, hstarts, hb, -⟩ := ha
  obtain ⟨xs', g, ys', hblocks, hg, -⟩ := h.split hstarts
  have hcall : g.isCall = true := g.isCall_iff_kind.mpr (hg.trans hb)
  have hmem : (i, g) ∈ ts.map Track.entry := by
    rw [← h.tells.calls]
    exact List.mem_filter.mpr ⟨by simp [hblocks], hcall⟩
  obtain ⟨t, ht, hentry⟩ := List.mem_map.mp hmem
  obtain ⟨rfl, -⟩ := Prod.mk.inj hentry
  obtain ⟨us, vs, rfl⟩ := List.append_of_mem ht
  refine ⟨us, t, vs, rfl, ?_, fun d' htext hthought hcalls hf => ?_⟩
  · rw [h.known]
    exact Track.lookup_block h.tells.ascending
  · exact {
      tells := by
        rw [htext, hthought]
        exact h.tells.growCall rfl more
      kinds := h.kinds_grow hblocks _
      calls := by
        rw [hcalls, h.calls]
        have hascending := Track.Numbered.ascending h.numbers
        exact Track.update_grow hascending (c := { index := t.call, arguments := more }) rfl
          (.inr rfl) (.inr rfl)
      numbers := Track.Numbered.grow h.numbers more
      next := by
        rw [h.next]
        simp
      known := by rw [Track.map_grow rfl, h.known]
      undecided := hf.trans h.undecided
      frame := h.frame }

theorem step (h : Follows m now ts d past s) {e : Event} (ha : Accepts past e)
    (hfew : (blockStarts (past ++ [e])).length < UInt32.size) :
    ∃ out ts' next, s.step e = .ok (out, next) ∧
      Follows m now ts' (drafted d out) (past ++ [e]) next ∧
      ∀ c ∈ out, Belongs m c ∧ c.usage = none := by
  cases e with
  | blockStart i b =>
    obtain ⟨hi, hkind⟩ := ha
    rw [blockStarts_snoc, List.length_append] at hfew
    -- a block that starts without text or thought gives no fragment
    cases b with
    | text t =>
      by_cases ht : t = ""
      · refine ⟨[], ts, s, by simp [Fragments.step, startBlock, ht], ?_, by simp⟩
        exact h.startSpoken hi rfl rfl rfl (by rw [ht]; exact String.append_empty.symm)
          String.append_empty.symm rfl rfl
      · refine ⟨[s.textDelta t], ts, s, by simp [Fragments.step, startBlock, ht], ?_, h.belongs _⟩
        exact h.startSpoken hi rfl rfl rfl rfl String.append_empty.symm rfl rfl
    | thinking t sign =>
      by_cases ht : t = ""
      · refine ⟨[], ts, s, by simp [Fragments.step, startBlock, ht], ?_, by simp⟩
        exact h.startSpoken hi rfl rfl rfl String.append_empty.symm
          (by rw [ht]; exact String.append_empty.symm) rfl rfl
      · refine ⟨[s.thoughtDelta t], ts, s, by simp [Fragments.step, startBlock, ht], ?_,
          h.belongs _⟩
        exact h.startSpoken hi rfl rfl rfl rfl rfl rfl rfl
    | redacted data =>
      exact ⟨[], ts, s, rfl, h.startSpoken hi rfl rfl rfl String.append_empty.symm
        String.append_empty.symm rfl rfl, by simp⟩
    | toolUse id name input =>
      exact ⟨_, _, _, rfl, h.startCall hi (by simpa [Event.start?] using hfew) rfl
        String.append_empty rfl rfl rfl, h.belongs _⟩
    | image _ | toolResult _ _ _ => exact absurd rfl hkind
  | blockDelta i more =>
    -- a signature goes to the block that has it and gives no fragment
    cases more with
    | text t =>
      have hkind : (Delta.text t).kind ≠ .tool := by simp [Delta.kind]
      exact ⟨_, ts, s, rfl, h.grow ha hkind rfl String.append_empty.symm rfl rfl, h.belongs _⟩
    | thinking t =>
      have hkind : (Delta.thinking t).kind ≠ .tool := by simp [Delta.kind]
      exact ⟨_, ts, s, rfl, h.grow ha hkind rfl rfl rfl rfl, h.belongs _⟩
    | signature sign =>
      have hkind : (Delta.signature sign).kind ≠ .tool := by simp [Delta.kind]
      exact ⟨[], ts, s, rfl, h.grow ha hkind String.append_empty.symm String.append_empty.symm
        rfl rfl, by simp⟩
    | inputJson t =>
      obtain ⟨us, call, vs, -, hlookup, hgrow⟩ := h.growCall ha
      refine ⟨[s.callDelta { index := call.call, arguments := t }], _, s, ?_,
        hgrow _ String.append_empty rfl rfl rfl, h.belongs _⟩
      simp [Fragments.step, growBlock, hlookup]
  | blockStop i => exact ⟨[], ts, s, rfl, h.pass rfl, by simp⟩
  | ping => exact ⟨[], ts, s, rfl, h.pass rfl, by simp⟩
  | messageStart _ | messageDelta _ _ | messageStop | error _ => exact ha.elim

theorem run (h : Follows m now ts d past s) {es : List Event} (hes : Body past es)
    (hfew : (blockStarts (past ++ es)).length < UInt32.size) :
    ∃ out ts' next, s.run es = .ok (out, next) ∧
      Follows m now ts' (drafted d out) (past ++ es) next ∧
      ∀ c ∈ out, Belongs m c ∧ c.usage = none := by
  induction es generalizing past s ts d with
  | nil => exact ⟨[], ts, s, rfl, by simpa [drafted] using h, by simp⟩
  | cons e es ih =>
    rw [List.append_cons] at hfew
    have hfirst : (blockStarts (past ++ [e])).length < UInt32.size := by
      rw [blockStarts, List.filterMap_append, List.length_append] at hfew
      exact Nat.lt_of_le_of_lt (Nat.le_add_right _ _) hfew
    obtain ⟨out, ts₁, next, hstep, h₁, hout⟩ := h.step hes.1 hfirst
    obtain ⟨rest, ts₂, last, hrun, h₂, hrest⟩ := ih h₁ hes.2 hfew
    refine ⟨out ++ rest, ts₂, last, run_cons_ok hstep hrun, ?_, ?_⟩
    · rw [drafted_append, List.append_cons]
      exact h₂
    · intro c hc
      rcases List.mem_append.mp hc with hc | hc
      · exact hout c hc
      · exact hrest c hc

end Follows

/-! ## the end of the message -/

/-- whether an event may stand behind the body: a `message_delta` whose stop reason, if there is
one, is not empty -/
def Ends : Event → Prop
  | .messageDelta ending _ => ending.stopReason ≠ some ""
  | .blockStop _ | .ping => True
  | .messageStart _ | .blockStart .. | .blockDelta .. | .messageStop | .error _ => False

theorem word_finishOfStop {w : String} (h : w ≠ "") : (finishOfStop w).word ≠ "" := by
  unfold finishOfStop
  split
  · decide
  · split
    · decide
    · split
      · decide
      · split
        · decide
        · exact h

theorem sums_lift (u : Usage) : u.lift.Sums := rfl

/-- a fragment that brings nothing but a finish reason -/
theorem drafted_finish (d : Draft) {w : String} (hw : w ≠ "") (s : Fragments)
    (known : Option ChatRelay.Usage) :
    drafted d [s.chunk [{ delta := some {}, finish := some (finishOfStop w) }] known]
      = { d with finish := some (finishOfStop w) } := by
  show Draft.finishWith (d.add {}) (some (finishOfStop w)) = _
  rw [Draft.finishWith, if_neg (word_finishOfStop hw)]
  simp [Draft.add, Message.plainText, Draft.joinReasoning, Draft.joinSignature, Message.calls]

/-- behind the body: the blocks `bs` stay, the lifter's usage is that of the events, a usage that is
none but zeros aside, and all that has been reported, if anything has -/
structure Ended (m : Answer) (bs : Slots Growing) (d₀ d : Draft) (reported : Option ChatRelay.Usage)
    (past : List Event) (s : Fragments) : Prop where
  silent : ∀ e ∈ past, e.name ≠ "error"
  speaker : (gathered past).id = m.id ∧ (gathered past).model = m.model
  blocks : (gathered past).blocks = bs
  usage : (gathered past).usage = some (s.usage.getD {})
  sums : ∀ u, s.usage = some u → u.Sums
  reported : reported = s.usage ∨ reported = none ∧ d.finish = none
  finish : d.finish = (gathered past).stopReason.map finishOfStop
  said : { d with finish := none } = d₀
  id : s.id = m.id
  model : s.model = m.model
  undone : s.done = false

namespace Ended

variable {m : Answer} {bs : Slots Growing} {d₀ d : Draft} {reported : Option ChatRelay.Usage}
  {past : List Event} {s : Fragments}

/-- a report merged with the usage of the events, and with that of the lifter -/
theorem usage_merge (h : Ended m bs d₀ d reported past s) (u : Option Usage) :
    ChatRelay.Usage.merge? (gathered past).usage (u.map Usage.lift)
        = some ((ChatRelay.Usage.merge? s.usage (u.map Usage.lift)).getD {}) ∧
      ∀ x, ChatRelay.Usage.merge? s.usage (u.map Usage.lift) = some x → x.Sums := by
  rw [h.usage]
  cases u with
  | none =>
    rw [Option.map_none, ChatRelay.Usage.merge?_none_right, ChatRelay.Usage.merge?_none_right]
    exact ⟨rfl, h.sums⟩
  | some u =>
    cases hs : s.usage with
    | none =>
      refine ⟨congrArg some (ChatRelay.Usage.empty_merge (sums_lift u)), fun x hx => ?_⟩
      obtain rfl := Option.some.inj hx
      exact sums_lift u
    | some v =>
      refine ⟨rfl, fun x hx => ?_⟩
      obtain rfl := Option.some.inj hx
      exact ChatRelay.Usage.sums_merge v u.lift

/-- what is reported, reported again with more -/
theorem reported_merge (h : Ended m bs d₀ d reported past s) (u : Option Usage) :
    ChatRelay.Usage.merge? reported (ChatRelay.Usage.merge? s.usage (u.map Usage.lift))
      = ChatRelay.Usage.merge? s.usage (u.map Usage.lift) := by
  rcases h.reported with hr | ⟨hr, -⟩
  · rw [hr]
    cases hs : s.usage with
    | none => rfl
    | some v =>
      cases u with
      | none => exact congrArg some (ChatRelay.Usage.merge_self (h.sums v hs))
      | some u => exact congrArg some (ChatRelay.Usage.merge_merge v u.lift)
  · rw [hr, ChatRelay.Usage.merge?_none_left]

theorem pass (h : Ended m bs d₀ d reported past s) {e : Event} (he : e.isIdle = true) :
    Ended m bs d₀ d reported (past ++ [e]) s := by
  have hsame := gathered_idle past he
  exact {
    silent := silent_snoc h.silent (Event.name_ne_of_isIdle he)
    speaker := by rw [hsame]; exact h.speaker
    blocks := by rw [hsame]; exact h.blocks
    usage := by rw [hsame]; exact h.usage
    sums := h.sums
    reported := h.reported
    finish := by rw [hsame]; exact h.finish
    said := h.said
    id := h.id
    model := h.model
    undone := h.undone }

/-- stop reason and usage that an event brings -/
theorem bring (h : Ended m bs d₀ d reported past s) {ending : Ending} {u : Option Usage}
    {d' : Draft} {reported' : Option ChatRelay.Usage}
    (hfinish : d'.finish = (ending.stopReason.or (gathered past).stopReason).map finishOfStop)
    (hsaid : { d' with finish := none } = d₀)
    (hreported : reported' = ChatRelay.Usage.merge? s.usage (u.map Usage.lift) ∨
      reported' = none ∧ d'.finish = none) :
    Ended m bs d₀ d' reported' (past ++ [.messageDelta ending u])
      { s with usage := ChatRelay.Usage.merge? s.usage (u.map Usage.lift) } := by
  have hgathered : gathered (past ++ [.messageDelta ending u]) = { gathered past with
      stopReason := ending.stopReason.or (gathered past).stopReason
      usage := ChatRelay.Usage.merge? (gathered past).usage (u.map Usage.lift)
      count := (gathered past).count + 1 } := gathered_snoc past _
  obtain ⟨husage, hsums⟩ := h.usage_merge u
  exact {
    silent := silent_snoc h.silent (by simp [Event.name])
    speaker := by rw [hgathered]; exact h.speaker
    blocks := by rw [hgathered]; exact h.blocks
    usage := by rw [hgathered]; exact husage
    sums := hsums
    reported := hreported
    finish := by rw [hgathered]; exact hfinish
    said := hsaid
    id := h.id
    model := h.model
    undone := h.undone }

theorem belongs (h : Ended m bs d₀ d reported past s) (known : Option ChatRelay.Usage)
    {choices : List ChatRelay.Choice} (hindex : ∀ x ∈ choices, x.index = 0) :
    ∀ c ∈ [{ s with usage := known }.chunk choices known], Belongs m c := by
  intro c hc
  rw [List.mem_singleton.mp hc]
  exact { id := h.id, model := h.model, unmarked := rfl, index := hindex }

/-- how the message ends: a fragment with all usage known, unless there is nothing to say -/
theorem endMessage (h : Ended m bs d₀ d reported past s) {ending : Ending} {u : Option Usage}
    (he : Ends (.messageDelta ending u)) :
    Ended m bs d₀ (drafted d (s.endMessage ending u).1)
        (mergeReports reported (s.endMessage ending u).1) (past ++ [.messageDelta ending u])
        (s.endMessage ending u).2 ∧
      ∀ c ∈ (s.endMessage ending u).1, Belongs m c := by
  have hreported := h.reported_merge u
  cases hstop : ending.stopReason with
  | none =>
    have hfinish : d.finish
        = (ending.stopReason.or (gathered past).stopReason).map finishOfStop := by
      rw [hstop]
      exact h.finish
    cases u with
    | none =>
      have heq : s.endMessage ending none
          = ([], { s with usage := ChatRelay.Usage.merge? s.usage none }) := by
        simp [Fragments.endMessage, hstop]
      rw [heq]
      refine ⟨h.bring hfinish h.said ?_, by simp⟩
      rw [Option.map_none, ChatRelay.Usage.merge?_none_right]
      exact h.reported
    | some u =>
      have heq : s.endMessage ending (some u)
          = ([{ s with usage := ChatRelay.Usage.merge? s.usage (some u.lift) }.chunk []
              (ChatRelay.Usage.merge? s.usage (some u.lift))],
            { s with usage := ChatRelay.Usage.merge? s.usage (some u.lift) }) := by
        simp [Fragments.endMessage, hstop]
      rw [heq]
      exact ⟨h.bring hfinish h.said (.inl hreported), h.belongs _ (by simp)⟩
  | some w =>
    have hw : w ≠ "" := fun hempty => he (by rw [hstop, hempty])
    have heq : s.endMessage ending u
        = ([{ s with usage := ChatRelay.Usage.merge? s.usage (u.map Usage.lift) }.chunk
              [{ delta := some {}, finish := some (finishOfStop w) }]
              (ChatRelay.Usage.merge? s.usage (u.map Usage.lift))],
          { s with usage := ChatRelay.Usage.merge? s.usage (u.map Usage.lift) }) := by
      simp [Fragments.endMessage, hstop]
    rw [heq]
    refine ⟨h.bring ?_ ?_ (.inl hreported), h.belongs _ (by simp)⟩
    · rw [drafted_finish _ hw, hstop]
      rfl
    · rw [drafted_finish _ hw]
      exact h.said

theorem run (h : Ended m bs d₀ d reported past s) {es : List Event} (hes : ∀ e ∈ es, Ends e) :
    ∃ out next, s.run es = .ok (out, next) ∧
      Ended m bs d₀ (drafted d out) (mergeReports reported out) (past ++ es) next ∧
      ∀ c ∈ out, Belongs m c := by
  induction es generalizing past s d reported with
  | nil => exact ⟨[], s, rfl, by simpa [drafted, mergeReports] using h, by simp⟩
  | cons e es ih =>
    have he := hes e List.mem_cons_self
    obtain ⟨out, next, hstep, h₁, hout⟩ : ∃ out next, s.step e = .ok (out, next) ∧
        Ended m bs d₀ (drafted d out) (mergeReports reported out) (past ++ [e]) next ∧
        ∀ c ∈ out, Belongs m c := by
      cases e with
      | messageDelta ending u => exact ⟨_, _, rfl, h.endMessage he⟩
      | blockStop _ | ping => exact ⟨[], s, rfl, h.pass rfl, by simp⟩
      | messageStart _ | blockStart _ _ | blockDelta _ _ | messageStop | error _ => exact he.elim
    obtain ⟨rest, last, hrun, h₂, hrest⟩ := ih h₁ fun x hx => hes x (List.mem_cons_of_mem _ hx)
    refine ⟨out ++ rest, last, run_cons_ok hstep hrun, ?_, ?_⟩
    · rw [drafted_append, mergeReports, List.foldl_append, List.append_cons]
      exact h₂
    · intro c hc
      rcases List.mem_append.mp hc with hc | hc
      · exact hout c hc
      · exact hrest c hc

end Ended

/-! ## the whole stream -/

theorem lift_eq_empty {u : Usage} (h : ¬ 0 < u.lift.total) : u.lift = {} := by
  have htotal : u.lift.total.toNat = 0 := by
    rw [UInt32.lt_iff_toNat_lt, UInt32.toNat_zero] at h
    omega
  change (TokenCount.plus (TokenCount.plus (u.input.plus (u.cacheRead.getD 0))
    (u.cacheWritten.getD 0)) u.output).toNat = 0 at htotal
  rw [TokenCount.toNat_plus, TokenCount.toNat_plus, TokenCount.toNat_plus] at htotal
  have hzero : ∀ x : TokenCount, x.toNat = 0 → x = 0 := fun x hx => UInt32.toNat_inj.mp hx
  have hinput := hzero u.input (by omega)
  have hread := hzero (u.cacheRead.getD 0) (by omega)
  have hwritten := hzero (u.cacheWritten.getD 0) (by omega)
  have houtput := hzero u.output (by omega)
  unfold Usage.lift
  simp only [hinput, hread, hwritten, houtput]
  rfl

/-- the stop reason that an event brings -/
def stopped? : Event → Option String
  | .messageDelta ending _ => ending.stopReason
  | _ => none

theorem stopReason_push (s : Collected) (e : Event) :
    (s.push e).2.stopReason = (stopped? e).or s.stopReason := by
  cases e with
  | blockStart i b =>
    show (Collected.note _ (.blockStart i b)).stopReason = _
    rw [Collected.note]
    split <;> rfl
  | messageStart _ | blockDelta _ _ | blockStop _ | messageDelta _ _ | messageStop | ping
  | error _ => rfl

theorem stopReason_gathered {es past : List Event}
    (h : (gathered past).stopReason ≠ none ∨ ∃ e ∈ es, stopped? e ≠ none) :
    (gathered (past ++ es)).stopReason ≠ none := by
  induction es generalizing past with
  | nil => simpa using h
  | cons e es ih =>
    rw [List.append_cons]
    refine ih ?_
    rw [gathered_snoc, stopReason_push]
    rcases h with h | ⟨x, hx, hs⟩
    · exact .inl fun hnone => h (Option.or_eq_none_iff.mp hnone).2
    · rcases List.mem_cons.mp hx with rfl | hx
      · exact .inl fun hnone => hs (Option.or_eq_none_iff.mp hnone).1
      · exact .inr ⟨x, hx, hs⟩

/-- a stream is whole: a body, how the message ends with at least one stop reason, `message_stop`,
and nothing behind it but ends of blocks and pings -/
structure Whole (m : Answer) (body closing rest : List Event) : Prop where
  ordered : Body [.messageStart m] body
  few : (blockStarts body).length < UInt32.size
  ends : ∀ e ∈ closing, Ends e
  stops : ∃ e ∈ closing, stopped? e ≠ none
  idle : ∀ e ∈ rest, e = .ping ∨ ∃ i, e = .blockStop i

namespace Whole

variable {m : Answer} {body closing rest : List Event}

theorem stopReason (h : Whole m body closing rest) :
    ∃ w, (gathered (.messageStart m :: (body ++ closing))).stopReason = some w := by
  have hstop : (gathered (.messageStart m :: body ++ closing)).stopReason ≠ none :=
    stopReason_gathered (.inr h.stops)
  rw [List.cons_append] at hstop
  exact Option.ne_none_iff_exists'.mp hstop

theorem idles (h : Whole m body closing rest) :
    ∀ e ∈ Event.messageStop :: rest, e.isIdle = true := by
  intro e he
  rcases List.mem_cons.mp he with rfl | he
  · rfl
  · rcases h.idle e he with rfl | ⟨i, rfl⟩ <;> rfl

end Whole

theorem Follows.opening (m : Answer) (now : UInt64) :
    ∃ s, (start now).step (.messageStart m) = .ok ([], s) ∧
      Follows m now [] {} [.messageStart m] s :=
  ⟨_, rfl, {
    tells := .opening m
    kinds := rfl
    calls := rfl
    numbers := rfl
    next := rfl
    known := rfl
    undecided := rfl
    frame := rfl }⟩

/-- behind the body nothing has been reported -/
theorem Follows.ended {m : Answer} {now : UInt64} {ts : List Track} {d : Draft} {past : List Event}
    {s : Fragments} (h : Follows m now ts d past s) :
    Ended m (gathered past).blocks d d none past s := by
  have husage : s.usage = if 0 < m.usage.lift.total then some m.usage.lift else none :=
    congrArg Fragments.usage h.frame
  have hstop : (gathered past).stopReason = none := congrArg Collected.stopReason h.tells.shell
  have hcollected : (gathered past).usage = some m.usage.lift :=
    congrArg Collected.usage h.tells.shell
  exact {
    silent := h.tells.silent
    speaker := ⟨congrArg Collected.id h.tells.shell, congrArg Collected.model h.tells.shell⟩
    blocks := rfl
    usage := by
      rw [hcollected, husage]
      split
      · rfl
      · next hzero => rw [lift_eq_empty hzero]; rfl
    sums := by
      intro u hu
      rw [husage] at hu
      split at hu
      · obtain rfl := Option.some.inj hu
        exact sums_lift _
      · simp at hu
    reported := .inr ⟨rfl, h.undecided⟩
    finish := by rw [hstop, h.undecided]; rfl
    said := by rw [← h.undecided]
    id := congrArg Fragments.id h.frame
    model := congrArg Fragments.model h.frame
    undone := congrArg Fragments.done h.frame }

theorem run_idle {es : List Event} (h : ∀ e ∈ es, e = .ping ∨ ∃ i, e = .blockStop i)
    (s : Fragments) : s.run es = .ok ([], s) := by
  induction es with
  | nil => rfl
  | cons e es ih =>
    have hstep : s.step e = .ok ([], s) := by
      rcases h e List.mem_cons_self with rfl | ⟨i, rfl⟩ <;> rfl
    exact run_cons_ok hstep (ih fun x hx => h x (List.mem_cons_of_mem _ hx))

/-- what is lifted from a whole stream: fragments that follow its events, and the end marker -/
theorem Whole.run {m : Answer} {body closing rest : List Event} (h : Whole m body closing rest)
    (now : UInt64) :
    ∃ out s t u ts d, (start now).run (.messageStart m :: (body ++ closing ++ .messageStop :: rest))
        = .ok (out ++ [.done], s) ∧
      Follows m now ts d (.messageStart m :: body) t ∧
      Ended m (gathered (.messageStart m :: body)).blocks d (drafted {} out) (mergeReports none out)
        (.messageStart m :: (body ++ closing)) u ∧
      ∀ c ∈ out, Belongs m c := by
  obtain ⟨s₀, hstart, h₀⟩ := Follows.opening m now
  have hfew : (blockStarts ([.messageStart m] ++ body)).length < UInt32.size := h.few
  obtain ⟨out₁, ts, s₁, hrun₁, h₁, hout₁⟩ := h₀.run h.ordered hfew
  obtain ⟨out₂, s₂, hrun₂, h₂, hout₂⟩ := h₁.ended.run h.ends
  have hclose : s₂.run (.messageStop :: rest) = .ok ([.done] ++ [], { s₂ with done := true }) := by
    refine run_cons_ok ?_ (run_idle h.idle _)
    simp [Fragments.step, close, h₂.undone]
  have hrun := run_cons_ok hstart (run_append_ok (run_append_ok hrun₁ hrun₂) hclose)
  have hnone : mergeReports none (out₁ ++ out₂) = mergeReports none out₂ := by
    rw [mergeReports_append, mergeReports_of_none fun c hc => (hout₁ c hc).2]
  refine ⟨out₁ ++ out₂, { s₂ with done := true }, s₁, s₂, ts, drafted {} out₁, hrun, h₁, ?_, ?_⟩
  · rw [drafted_append, hnone]
    exact h₂
  · intro c hc
    rcases List.mem_append.mp hc with hc | hc
    · exact (hout₁ c hc).1
    · exact hout₂ c hc

/-- calls that are numbered as they come are numbered so again -/
theorem renumbered {ts : List Track} (h : ts.map (·.call.toNat) = List.range ts.length) :
    ((Slots.values (ts.map Track.slot)).map ToolCall.words).zipIdx.map ToolCall.ofWords
      = Slots.values (ts.map Track.slot) := by
  refine List.ext_getElem (by simp [Slots.values]) fun i hi hi' => ?_
  have hts : i < ts.length := by simpa [Slots.values] using hi'
  have hcall : ts[i].call.toNat = i := by
    have hget := List.getElem_of_eq h (i := i) (by simpa using hts)
    simpa using hget
  have hindex : UInt32.ofNat i = ts[i].call := by
    have hword : UInt32.ofNat ts[i].call.toNat = ts[i].call := UInt32.ofNat_toNat
    rw [hcall] at hword
    exact hword
  simp [Slots.values, Track.slot, ToolCall.words, ToolCall.ofWords, hindex]

/-- **What a stream is lifted to is assembled to what is collected from it**: the same speaker,
content, reasoning, tool calls, finish reason and usage, where no report stands for none but
zeros. -/
theorem assemble_run_eq_collect (now later : UInt64) {m : Answer}
    {body closing rest es : List Event} (h : Whole m body closing rest)
    (hes : es = .messageStart m :: (body ++ closing ++ .messageStop :: rest)) :
    ∃ chunks s p x y r, (start now).run es = .ok (chunks, s) ∧ collect later es = .ok p ∧
      p.id = (Response.assemble chunks).id ∧
      p.model = (Response.assemble chunks).model ∧
      p.usage = some ((Response.assemble chunks).usage.getD {}) ∧
      p.choices = [{ message := some x, finish := some r }] ∧
      (Response.assemble chunks).choices = [{ message := some y, finish := some r }] ∧
      x.content = y.content ∧
      x.calls = y.calls ∧
      x.reasoning.getD "" = y.reasoning.getD "" := by
  subst hes
  obtain ⟨out, s, t, u, ts, d, hrun, hfollows, hended, hout⟩ := h.run now
  have hlast : Response.done.isDone = true := Response.isDone_done
  have hdone : ∀ c ∈ out, c.isDone = false := fun c hc => (hout c hc).unmarked
  -- a stop reason has come, so a choice has
  obtain ⟨w, hw⟩ := h.stopReason
  have hfinish : (drafted {} out).finish = some (finishOfStop w) := by
    rw [hended.finish, hw]
    rfl
  have hne : out.flatMap (·.choices) ≠ [] := by
    intro hnil
    rw [drafted, hnil] at hfinish
    simp at hfinish
  have hchoices := Response.assemble_choices hlast hdone (fun x hx => by
    obtain ⟨c, hc, hxc⟩ := List.mem_flatMap.mp hx
    exact (hout c hc).index x hxc) hne
  have husage := Response.assemble_usage hlast hdone
  have hreported : mergeReports none out = u.usage := by
    rcases hended.reported with hr | ⟨-, hr⟩
    · exact hr
    · simp [hfinish] at hr
  obtain ⟨hid, hmodel⟩ := Response.assemble_speaker hlast hdone (by rintro rfl; simp at hne)
    fun c hc => ⟨(hout c hc).id, (hout c hc).model⟩
  have hsplit : .messageStart m :: (body ++ closing ++ .messageStop :: rest)
      = (.messageStart m :: (body ++ closing)) ++ .messageStop :: rest := rfl
  have hsilent := silent_idles hended.silent h.idles
  have hgathered := gathered_idles (.messageStart m :: (body ++ closing)) h.idles
  rw [← hsplit] at hsilent hgathered
  obtain ⟨y, hy, hcontent, hreasoning, hcalls, hdrafted, -⟩ :=
    hfollows.tells.message hfollows.calls (by rw [hgathered]; exact hended.blocks)
  have hmessage : (drafted {} out).choice 0
      = { message := (d.choice 0).message, finish := some (finishOfStop w) } := by
    rw [← hended.said, Draft.choice, hfinish]
    rfl
  refine ⟨out ++ [.done], s, _, _, y, finishOfStop w, hrun, collect_eq hsilent (by simp) later, ?_,
    ?_, ?_, ?_, ?_, hcontent, ?_, hreasoning⟩
  · rw [hid, hgathered]
    exact hended.speaker.1
  · rw [hmodel, hgathered]
    exact hended.speaker.2
  · rw [husage, hreported, hgathered]
    exact hended.usage
  · simp only [hgathered, hw]
  · rw [hchoices]
    show [(drafted {} out).choice 0] = _
    rw [hmessage, hy]
  · rw [hcalls, hdrafted, hfollows.calls, renumbered hfollows.numbers]

/-- thinking, a tool use and text that interleave -/
def woven : List Event :=
  [ .ping,
    .blockStart 0 (.thinking "" none),
    .blockDelta 0 (.thinking "a"),
    .blockStart 2 (.toolUse "t" "f" .empty),
    .blockDelta 0 (.signature "s"),
    .blockStart 5 (.text "b"),
    .blockDelta 2 (.inputJson "x"),
    .blockDelta 5 (.text "c"),
    .blockStop 0 ]

/-- usage and a stop reason that come apart -/
def parting : List Event :=
  [ .messageDelta {} (some { input := 3, output := 5 }),
    .messageDelta { stopReason := some "tool_use" } none ]

theorem assemble_run_woven :
    ∃ chunks s p x y r, (start 0).run (.messageStart { id := "m" } ::
        (woven ++ parting ++ .messageStop :: [.ping])) = .ok (chunks, s) ∧
      collect 0 (.messageStart { id := "m" } :: (woven ++ parting ++ .messageStop :: [.ping]))
        = .ok p ∧
      p.choices = [{ message := some x, finish := some r }] ∧
      (Response.assemble chunks).choices = [{ message := some y, finish := some r }] ∧
      x.content = y.content ∧ x.calls = y.calls := by
  have hwhole : Whole { id := "m" } woven parting [.ping] := {
    ordered := by
      refine ⟨trivial, ⟨by decide, nofun⟩, ⟨[], .thinking "" none, [], rfl, rfl, by simp⟩,
        ⟨by decide, nofun⟩, ⟨[], .thinking "" none, _, rfl, rfl, nofun⟩, ⟨by decide, nofun⟩,
        ⟨[_], .toolUse "t" "f" .empty, _, rfl, rfl, nofun⟩,
        ⟨[_, _], .text "b", [], rfl, rfl, by simp⟩, trivial, trivial⟩
    few := by decide
    ends := by simp [parting, Ends]
    stops := ⟨.messageDelta { stopReason := some "tool_use" } none, by simp [parting], nofun⟩
    idle := by simp }
  obtain ⟨chunks, s, p, x, y, r, hrun, hcollect, -, -, -, hp, hq, hcontent, hcalls, -⟩ :=
    assemble_run_eq_collect 0 0 hwhole rfl
  exact ⟨chunks, s, p, x, y, r, hrun, hcollect, hp, hq, hcontent, hcalls⟩

end Fragments
end ChatRelay.Anthropic
