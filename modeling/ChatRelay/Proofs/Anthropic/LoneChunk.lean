import ChatRelay.Proofs.Anthropic.BlockTurn
import Mathlib

/-!
# A fragment on its own and a fragment for a fresh writer

A fragment can be written on its own, by its tool indices alone, or by a writer that opens and ends
blocks in the order in which it needs them.  What the two say of thinking, text and arguments is the
same, piece by piece; and though they number the blocks of tool calls differently, they put the same
pieces of arguments into one block.

* `grown`             the thinking, text and arguments that events tell, each with its block;
* `Placed`            which block a fresh writer has for a call, after some fragments of calls;
* `Placed.addCall`    one fragment of a call more;
* `Alike`             the same growth, arguments grouped alike;
* `chunkEvents_alike` the two ways to write a fragment.
-/

namespace ChatRelay.Anthropic

/-! ## growth -/

/-- the block and what it grows by, signatures apart -/
def Event.grown? : Event → Option (UInt32 × Delta)
  | .blockDelta _ (.signature _) => none
  | .blockDelta i d => some (i, d)
  | _ => none

/-- the thinking, text and arguments that events tell, each with its block -/
def grown (es : List Event) : List (UInt32 × Delta) := es.filterMap Event.grown?

/-- whether a delta is a piece of arguments -/
def Delta.isInput : Delta → Bool
  | .inputJson _ => true
  | _ => false

/-- whether a delta is a piece of arguments without a character -/
def Delta.isHollow : Delta → Bool
  | .inputJson more => more = ""
  | _ => false

theorem Delta.isHollow_of_not_isInput {d : Delta} (h : d.isInput = false) : d.isHollow = false := by
  cases d with
  | inputJson _ => exact nomatch h
  | text _ | thinking _ | signature _ => rfl

/-- the same growth in the same order; two pieces of arguments are in one block on the left exactly
where they are on the right -/
structure Alike (xs ys : List (UInt32 × Delta)) : Prop where
  said : xs.map Prod.snd = ys.map Prod.snd
  grouped : ∀ (i j : Nat) (x x' y y' : UInt32 × Delta), xs[i]? = some x → xs[j]? = some x' →
    ys[i]? = some y → ys[j]? = some y' → x.2.isInput = true → x'.2.isInput = true →
    (x.1 = x'.1 ↔ y.1 = y'.1)

theorem grown_append (es fs : List Event) : grown (es ++ fs) = grown es ++ grown fs :=
  List.filterMap_append

theorem grown_snoc (es : List Event) (e : Event) :
    grown (es ++ [e]) = grown es ++ e.grown?.toList := by
  rw [grown_append]
  cases h : e.grown? <;> simp [grown, h]

theorem grown_stops (es : List Event) (is : List UInt32) :
    grown (es ++ is.map .blockStop) = grown es := by
  have hnone : grown (is.map .blockStop) = [] := by
    simp [grown, List.filterMap_map, Event.grown?]
  rw [grown_append, hnone, List.append_nil]

namespace BlockStream

/-! ## what a fragment says -/

/-- something that a message grows by, and the call that it is for -/
structure Growth where
  call : Option UInt32
  delta : Delta

/-- a growth in its block: `i` for thinking, `j` for text, and `block` says which for a call -/
def Growth.at (i j : UInt32) (block : UInt32 → UInt32) : Growth → UInt32 × Delta
  | ⟨some k, d⟩ => (block k, d)
  | ⟨none, .thinking t⟩ => (i, .thinking t)
  | ⟨none, d⟩ => (j, d)

theorem Growth.at_snd (i j : UInt32) (block : UInt32 → UInt32) (g : Growth) :
    (g.at i j block).2 = g.delta := by
  obtain ⟨call, d⟩ := g
  cases call <;> cases d <;> rfl

/-- the thinking and the text of a fragment -/
def spokenGrowth (m : ChatRelay.Message) : List Growth :=
  ((Progress.nonEmpty? m.reasoning).map fun t => ⟨none, .thinking t⟩).toList
    ++ if m.plainText = "" then [] else [⟨none, .text m.plainText⟩]

/-- the arguments that fragments of calls bring -/
def callGrowth (cs : List ToolCall) : List Growth :=
  (cs.filter (·.arguments ≠ "")).map fun c => ⟨some c.index, .inputJson c.arguments⟩

theorem callGrowth_cons (c : ToolCall) (cs : List ToolCall) :
    callGrowth (c :: cs) = callGrowth [c] ++ callGrowth cs := by
  rw [callGrowth, ← List.singleton_append, List.filter_append, List.map_append]
  rfl

/-! ## operations that leave tool calls alone -/

/-- an operation that tells some growth more and leaves the blocks of tool calls as they are -/
structure Grows (p q : Progress) (more : List (UInt32 × Delta)) : Prop where
  events : grown q.events = grown p.events ++ more
  toolBlocks : q.state.toolBlocks = p.state.toolBlocks
  openTools : q.state.openTools = p.state.openTools

namespace Grows

variable {p q r : Progress} {more further : List (UInt32 × Delta)}

theorem refl (p : Progress) : Grows p p [] := ⟨(List.append_nil _).symm, rfl, rfl⟩

theorem trans (h : Grows p q more) (h' : Grows q r further) : Grows p r (more ++ further) :=
  ⟨by rw [h'.events, h.events, List.append_assoc], h'.toolBlocks.trans h.toolBlocks,
    h'.openTools.trans h.openTools⟩

theorem emit (h : Grows p q more) (e : Event) : Grows p (q.emit e) (more ++ e.grown?.toList) where
  events := by
    show grown (q.events ++ [e]) = _
    rw [grown_snoc, h.events, List.append_assoc]
  toolBlocks := h.toolBlocks
  openTools := h.openTools

theorem start (a : Ambient) (c : Response) (p : Progress) : Grows p (p.start a c) [] := by
  unfold Progress.start
  split
  · exact refl p
  · refine emit (?_ : Grows p _ []) _
    exact ⟨(List.append_nil _).symm, rfl, rfl⟩

theorem closeCurrent (p : Progress) : Grows p p.closeCurrent [] := by
  unfold Progress.closeCurrent
  split
  · refine emit (?_ : Grows p _ []) _
    exact ⟨(List.append_nil _).symm, rfl, rfl⟩
  · exact refl p

theorem openBlock (b : Block) (p : Progress) : Grows p (p.openBlock b) [] := by
  refine emit (?_ : Grows p _ []) _
  have hclosed := closeCurrent p
  exact ⟨hclosed.events, hclosed.toolBlocks, hclosed.openTools⟩

theorem addText (text : String) (p : Progress) :
    ∃ i, Grows p (p.addText text) [(i, .text text)] := by
  unfold Progress.addText
  split
  · next i hi => exact ⟨i, (refl p).emit _⟩
  · have hopen := openBlock (.text "") p
    refine ⟨p.state.nextIndex, emit (?_ : Grows p _ []) _⟩
    exact ⟨hopen.events, hopen.toolBlocks, hopen.openTools⟩

theorem addThinking (d : Delta) (p : Progress) :
    ∃ i, Grows p (p.addThinking d) (Event.blockDelta i d).grown?.toList := by
  unfold Progress.addThinking
  split
  · next i hi => exact ⟨i, (refl p).emit _⟩
  · have hopen := openBlock (.thinking "" none) p
    refine ⟨p.state.nextIndex, emit (?_ : Grows p _ []) _⟩
    exact ⟨hopen.events, hopen.toolBlocks, hopen.openTools⟩

theorem addThought (o : Option String) (p : Progress) :
    ∃ i, Grows p (match Progress.nonEmpty? o with
      | some thought => p.addThinking (.thinking thought)
      | none => p) ((Progress.nonEmpty? o).map fun t => (i, Delta.thinking t)).toList := by
  cases Progress.nonEmpty? o with
  | none => exact ⟨0, refl p⟩
  | some thought => exact addThinking (.thinking thought) p

theorem addSign (o : Option String) (p : Progress) :
    Grows p (match Progress.nonEmpty? o with
      | some sign => p.addThinking (.signature sign)
      | none => p) [] := by
  cases Progress.nonEmpty? o with
  | none => exact refl p
  | some sign =>
    obtain ⟨i, h⟩ := addThinking (.signature sign) p
    exact h

theorem addPlain (text : String) (p : Progress) :
    ∃ j, Grows p (if text = "" then p else p.addText text)
      (if text = "" then [] else [(j, .text text)]) := by
  by_cases h : text = ""
  · simp only [if_pos h]
    exact ⟨0, refl p⟩
  · simp only [if_neg h]
    exact addText text p

/-- thinking and text come before the fragments of calls -/
theorem addSpoken (a : Ambient) (m : ChatRelay.Message) (p : Progress) :
    ∃ i j q, p.addDelta a m = m.calls.foldl (Progress.addCall a) q ∧
      ∀ block, Grows p q ((spokenGrowth m).map (Growth.at i j block)) := by
  obtain ⟨i, hthought⟩ := addThought m.reasoning p
  have hsign := hthought.trans (addSign m.signature _)
  obtain ⟨j, hplain⟩ := addPlain m.plainText _
  refine ⟨i, j, _, rfl, fun block => ?_⟩
  have hspoken : (spokenGrowth m).map (Growth.at i j block)
      = ((Progress.nonEmpty? m.reasoning).map fun t => (i, Delta.thinking t)).toList ++ []
        ++ if m.plainText = "" then [] else [(j, .text m.plainText)] := by
    unfold spokenGrowth
    cases Progress.nonEmpty? m.reasoning <;> by_cases h : m.plainText = "" <;> simp [h, Growth.at]
  rw [hspoken]
  exact hsign.trans hplain

end Grows

/-! ## tool calls -/

/-- the block of a call: call indices have the blocks from `first` on, in the order in which they
were seen -/
def blockOf (first : UInt32) (seen : List UInt32) (index : UInt32) : UInt32 :=
  first + .ofNat (seen.idxOf index)

/-- there are no more words than indices of blocks -/
theorem length_le_of_nodup {is : List UInt32} (h : is.Nodup) : is.length ≤ UInt32.size := by
  have hnodup : (is.map UInt32.toNat).Nodup :=
    List.Nodup.map (fun _ _ => UInt32.toNat_inj.mp) h
  have hrange : is.map UInt32.toNat ⊆ List.range UInt32.size := by
    intro n hn
    obtain ⟨i, -, rfl⟩ := List.mem_map.mp hn
    exact List.mem_range.mpr i.toNat_lt
  have hle := (hnodup.subperm hrange).length_le
  rwa [List.length_map, List.length_range] at hle

theorem blockOf_inj {first i j : UInt32} {seen : List UInt32} (hnodup : seen.Nodup) (hi : i ∈ seen)
    (hj : j ∈ seen) : blockOf first seen i = blockOf first seen j ↔ i = j := by
  refine ⟨fun h => ?_, fun h => by rw [h]⟩
  have hlength := length_le_of_nodup hnodup
  have hplace : UInt32.ofNat (seen.idxOf i) = .ofNat (seen.idxOf j) :=
    (UInt32.add_right_inj first).mp h
  have hplace' := congrArg UInt32.toNat hplace
  rw [UInt32.toNat_ofNat_of_lt' (Nat.lt_of_lt_of_le (List.idxOf_lt_length_of_mem hi) hlength),
    UInt32.toNat_ofNat_of_lt' (Nat.lt_of_lt_of_le (List.idxOf_lt_length_of_mem hj) hlength)]
    at hplace'
  exact (List.idxOf_inj hi).mp hplace'

/-- the calls that a state knows are those seen, each with its block, and these are open -/
structure Placed (first : UInt32) (seen : List UInt32) (s : BlockStream) : Prop where
  nodup : seen.Nodup
  next : s.nextIndex = first + .ofNat seen.length
  sorted : Slots.Sorted s.toolBlocks
  found : ∀ i ∈ seen, Slots.find? i s.toolBlocks = some (blockOf first seen i)
  unseen : ∀ i, i ∉ seen → Slots.find? i s.toolBlocks = none
  isOpen : ∀ i ∈ seen, blockOf first seen i ∈ s.openTools

namespace Placed

variable {first : UInt32} {seen : List UInt32} {p : Progress}

theorem fresh {s : BlockStream} (hblocks : s.toolBlocks = []) : Placed s.nextIndex [] s where
  nodup := List.nodup_nil
  next := (UInt32.add_zero _).symm
  sorted := by
    rw [hblocks]
    exact List.Pairwise.nil
  found := List.forall_mem_nil _
  unseen _ _ := by
    rw [hblocks]
    rfl
  isOpen := List.forall_mem_nil _

/-- a call that is seen keeps its block when more calls are -/
theorem callGrowth_append (i j : UInt32) {cs : List ToolCall} (h : ∀ c ∈ cs, c.index ∈ seen)
    (more : List UInt32) :
    (callGrowth cs).map (Growth.at i j (blockOf first (seen ++ more)))
      = (callGrowth cs).map (Growth.at i j (blockOf first seen)) := by
  refine List.map_congr_left fun g hg => ?_
  obtain ⟨c, hc, rfl⟩ := List.mem_map.mp hg
  rw [Growth.at, Growth.at, blockOf, blockOf,
    List.idxOf_append_of_mem (h c (List.mem_of_mem_filter hc))]

theorem addArguments (h : Placed first seen p.state) (i j : UInt32) (c : ToolCall) :
    Placed first seen (p.addArguments (blockOf first seen c.index) c.arguments).state ∧
      grown (p.addArguments (blockOf first seen c.index) c.arguments).events
        = grown p.events ++ (callGrowth [c]).map (Growth.at i j (blockOf first seen)) := by
  unfold Progress.addArguments callGrowth
  split
  · next harguments =>
    refine ⟨h, ?_⟩
    simp [harguments]
  · next harguments =>
    refine ⟨h, ?_⟩
    show grown (p.events ++ [_]) = _
    rw [grown_snoc]
    simp [harguments, Event.grown?, Growth.at]

/-- a call that is seen for the first time has the next block -/
theorem blockOf_snoc (h : Placed first seen p.state) {i : UInt32} (hi : i ∉ seen) :
    blockOf first (seen ++ [i]) i = p.state.nextIndex := by
  rw [blockOf, h.next, List.idxOf_append_of_notMem hi, List.idxOf_cons_self, Nat.add_zero]

theorem openCall (h : Placed first seen p.state) {i : UInt32} (hi : i ∉ seen) (b : Block) :
    Placed first (seen ++ [i]) { (p.openBlock b).state with
      toolBlocks := Slots.update i (fun _ => p.state.nextIndex) (p.openBlock b).state.toolBlocks
      openTools := (p.openBlock b).state.openTools ++ [p.state.nextIndex] } := by
  have hkept : ∀ j ∈ seen, blockOf first (seen ++ [i]) j = blockOf first seen j := fun j hj => by
    rw [blockOf, blockOf, List.idxOf_append_of_mem hj]
  rw [openBlock_state]
  exact {
    nodup := List.nodup_append.mpr ⟨h.nodup, List.nodup_singleton i, by
      rintro j hj k hk rfl
      exact hi (List.mem_singleton.mp hk ▸ hj)⟩
    next := by
      show p.state.nextIndex + 1 = _
      rw [h.next, List.length_append, List.length_singleton, UInt32.ofNat_add, UInt32.add_assoc]
      rfl
    sorted := Slots.sorted_update h.sorted
    found := by
      intro j hj
      rcases List.mem_append.mp hj with hj | hj
      · have hne : j ≠ i := fun heq => hi (heq ▸ hj)
        rw [Slots.find?_update_of_ne _ hne, h.found j hj, hkept j hj]
      · obtain rfl := List.mem_singleton.mp hj
        rw [Slots.find?_update_self _ _ h.sorted, h.blockOf_snoc hi]
    unseen := by
      intro j hj
      rw [List.mem_append, not_or, List.mem_singleton] at hj
      rw [Slots.find?_update_of_ne _ hj.2, h.unseen j hj.1]
    isOpen := by
      intro j hj
      rcases List.mem_append.mp hj with hj | hj
      · rw [hkept j hj]
        exact List.mem_append_left _ (h.isOpen j hj)
      · obtain rfl := List.mem_singleton.mp hj
        rw [h.blockOf_snoc hi]
        exact List.mem_append_right _ (List.mem_singleton_self _) }

/-- the first fragment of a call opens its block and may grow it -/
theorem beginCall (h : Placed first seen p.state) {c : ToolCall} (hc : c.index ∉ seen)
    (b : Block) (i j : UInt32) :
    let q : Progress := { p.openBlock b with state := { (p.openBlock b).state with
      toolBlocks :=
        Slots.update c.index (fun _ => p.state.nextIndex) (p.openBlock b).state.toolBlocks
      openTools := (p.openBlock b).state.openTools ++ [p.state.nextIndex] } }
    Placed first (seen ++ [c.index]) (q.addArguments p.state.nextIndex c.arguments).state ∧
      grown (q.addArguments p.state.nextIndex c.arguments).events
        = grown p.events
          ++ (callGrowth [c]).map (Growth.at i j (blockOf first (seen ++ [c.index]))) := by
  intro q
  have hq : Placed first (seen ++ [c.index]) q.state := h.openCall hc b
  have hgrown : grown q.events = grown p.events ++ [] := (Grows.openBlock b p).events
  have hadded := hq.addArguments i j c
  rwa [h.blockOf_snoc hc, hgrown, List.append_nil] at hadded

/-- one fragment of a call more: it grows the block of its call, which is open -/
theorem addCall (h : Placed first seen p.state) (a : Ambient) (i j : UInt32) (c : ToolCall) :
    ∃ more, c.index ∈ seen ++ more ∧ Placed first (seen ++ more) (p.addCall a c).state ∧
      grown (p.addCall a c).events
        = grown p.events
          ++ (callGrowth [c]).map (Growth.at i j (blockOf first (seen ++ more))) := by
  by_cases hc : c.index ∈ seen
  · have hadded := h.addArguments i j c
    refine ⟨[], by simpa using hc, ?_⟩
    rw [Progress.addCall, h.found _ hc, List.append_nil]
    simpa only [h.isOpen _ hc, if_true] using hadded
  · refine ⟨[c.index], by simp, ?_⟩
    rw [Progress.addCall, h.unseen _ hc]
    exact h.beginCall hc _ i j

/-- fragments of calls, one after the other -/
theorem addCalls (h : Placed first seen p.state) (a : Ambient) (i j : UInt32)
    (cs : List ToolCall) :
    ∃ more, (∀ c ∈ cs, c.index ∈ seen ++ more) ∧ (seen ++ more).Nodup ∧
      grown (cs.foldl (Progress.addCall a) p).events
        = grown p.events ++ (callGrowth cs).map (Growth.at i j (blockOf first (seen ++ more))) := by
  induction cs generalizing p seen with
  | nil =>
    refine ⟨[], List.forall_mem_nil _, ?_, (List.append_nil _).symm⟩
    rw [List.append_nil]
    exact h.nodup
  | cons c cs ih =>
    obtain ⟨new, hc, hnext, hgrown⟩ := h.addCall a i j c
    obtain ⟨more, hcs, hnodup, hrest⟩ := ih hnext
    rw [← callGrowth_append i j (List.forall_mem_singleton.mpr hc) more] at hgrown
    have hc' := List.mem_append_left more hc
    rw [List.append_assoc] at hc' hcs hnodup hrest hgrown
    refine ⟨new ++ more, List.forall_mem_cons.mpr ⟨hc', hcs⟩, hnodup, ?_⟩
    rw [List.foldl_cons, hrest, hgrown, List.append_assoc, ← List.map_append, ← callGrowth_cons]

end Placed

/-! ## a fragment for a fresh writer -/

/-- what the fragment of a chunk says -/
def growths (c : Response) : List Growth :=
  ((said? c).map fun m => spokenGrowth m ++ callGrowth m.calls).getD []

theorem grown_finishWith (p : Progress) (r : Option FinishReason) :
    grown (p.finishWith r).events = grown p.events := by
  cases r with
  | none => rfl
  | some r =>
    show grown (p.closeCurrent.events ++ p.closeCurrent.state.openTools.map .blockStop) = _
    rw [grown_stops, (Grows.closeCurrent p).events, List.append_nil]

theorem grown_report (p : Progress) (u : Option ChatRelay.Usage) :
    grown (p.report u).events = grown p.events := by
  have hstop : ∀ (q : Progress) (r : FinishReason), grown (q.stop r).events = grown q.events := by
    intro q r
    have hending : grown (endingOf r q.closeAll.state.usage) = [] := rfl
    show grown (q.closeAll.events ++ endingOf r q.closeAll.state.usage) = _
    rw [grown_append, hending, List.append_nil]
    exact grown_finishWith q (some r)
  unfold Progress.report
  split
  · rfl
  · split
    · exact hstop _ _
    · rfl

/-- what a fresh writer tells of a fragment: every call has a block of its own -/
theorem grown_step (a : Ambient) {c : Response} (hdone : c.isDone = false) :
    ∃ i j first seen, seen.Nodup ∧ (∀ call ∈ callFragments [c], call.index ∈ seen) ∧
      grown (step a {} c).1 = (growths c).map (Growth.at i j (blockOf first seen)) := by
  rw [step_eq rfl a hdone]
  simp only [grown_report, grown_finishWith]
  unfold Progress.say growths callFragments
  have hstart := Grows.start a c ⟨[], {}⟩
  cases hsaid : said? c with
  | none => exact ⟨0, 0, 0, [], List.nodup_nil, by simp [hsaid], hstart.events⟩
  | some m =>
    obtain ⟨i, j, q, hq, hspoken⟩ := Grows.addSpoken a m ((⟨[], {}⟩ : Progress).start a c)
    have hnone : q.state.toolBlocks = [] := (hspoken id).toolBlocks.trans hstart.toolBlocks
    obtain ⟨seen, hseen, hnodup, hcalls⟩ := (Placed.fresh hnone).addCalls a i j m.calls
    refine ⟨i, j, q.state.nextIndex, seen, hnodup, by simpa [hsaid] using hseen, ?_⟩
    show grown (Progress.addDelta a m _).events = _
    rw [hq, hcalls, (hspoken _).events, hstart.events]
    exact List.map_append.symm

/-! ## a fragment on its own -/

/-- the blocks of a fragment on its own: one for thinking and text, and one behind it for every
call -/
def loneBlock : Growth → UInt32 × Delta := Growth.at 0 0 (· + 1)

/-- thinking and text are no arguments, and stand in the first block -/
theorem loneBlock_of_spoken {m : ChatRelay.Message} {g : Growth} (h : g ∈ spokenGrowth m) :
    (loneBlock g).1 = 0 ∧ (loneBlock g).2.isInput = false := by
  rcases List.mem_append.mp h with h | h
  · obtain ⟨t, -, rfl⟩ := Option.map_eq_some_iff.mp (Option.mem_toList.mp h)
    exact ⟨rfl, rfl⟩
  · split at h
    · exact absurd h List.not_mem_nil
    · obtain rfl := List.mem_singleton.mp h
      exact ⟨rfl, rfl⟩

theorem grown_deltaEvents (m : ChatRelay.Message) : grown (deltaEvents m)
    = (spokenGrowth m).map loneBlock
      ++ m.calls.map fun c => (c.index + 1, .inputJson c.arguments) := by
  have hcalls : grown (m.calls.map fun c => .blockDelta (c.index + 1) (.inputJson c.arguments))
      = m.calls.map fun c => (c.index + 1, .inputJson c.arguments) := by
    rw [grown, List.filterMap_map, ← List.filterMap_eq_map]
    rfl
  rw [deltaEvents, grown_append, hcalls]
  congr 1
  unfold spokenGrowth
  cases Progress.nonEmpty? m.reasoning <;> by_cases h : m.plainText = "" <;>
    simp [h, grown, Event.grown?, loneBlock, Growth.at]

theorem grown_chunkEvents {c : Response} (hdone : c.isDone = false) :
    grown (chunkEvents c) = ((said? c).map fun m => grown (deltaEvents m)).getD [] := by
  have hending : ∀ r : Option FinishReason, grown (r.map fun reason => Event.messageDelta
      { stopReason := some (stopOfFinish reason) } (c.usage.map lowerUsage)).toList = [] := by
    intro r
    cases r <;> rfl
  unfold chunkEvents said?
  rw [hdone]
  cases c.choices.head? with
  | none => rfl
  | some x =>
    show grown (_ ++ _) = ((x.fragment?).map _).getD []
    rw [grown_append, hending, List.append_nil]
    cases x.fragment? <;> rfl

/-- what is told of a fragment on its own, pieces of arguments without a character apart -/
theorem filter_grown_chunkEvents {c : Response} (hdone : c.isDone = false) :
    (grown (chunkEvents c)).filter (!·.2.isHollow) = (growths c).map loneBlock := by
  rw [grown_chunkEvents hdone, growths]
  cases said? c with
  | none => rfl
  | some m =>
    have hspoken : ∀ x ∈ (spokenGrowth m).map loneBlock, (!x.2.isHollow) = true := by
      intro x hx
      obtain ⟨g, hg, rfl⟩ := List.mem_map.mp hx
      rw [Delta.isHollow_of_not_isInput (loneBlock_of_spoken hg).2]
      rfl
    have hfull : ((fun x => !x.2.isHollow) ∘ fun c : ToolCall =>
        (c.index + 1, Delta.inputJson c.arguments)) = fun c => decide (c.arguments ≠ "") :=
      funext fun c => (decide_not ..).symm
    show (grown (deltaEvents m)).filter _ = (spokenGrowth m ++ callGrowth m.calls).map loneBlock
    rw [grown_deltaEvents, List.filter_append, List.filter_eq_self.mpr hspoken, List.filter_map,
      hfull, callGrowth, List.map_append, List.map_map]
    rfl

/-- thinking and text are told in the first block, arguments in the one behind their call's index -/
theorem mem_grown_chunkEvents {c : Response} (hdone : c.isDone = false) {x : UInt32 × Delta}
    (hx : x ∈ grown (chunkEvents c)) :
    x.1 = 0 ∧ x.2.isInput = false ∨
      x.2.isInput = true ∧ ∃ call ∈ callFragments [c], x.1 = call.index + 1 := by
  rw [grown_chunkEvents hdone] at hx
  unfold callFragments
  cases hsaid : said? c with
  | none =>
    rw [hsaid] at hx
    exact absurd hx List.not_mem_nil
  | some m =>
    rw [hsaid] at hx
    have hx' : x ∈ grown (deltaEvents m) := hx
    rw [grown_deltaEvents] at hx'
    rcases List.mem_append.mp hx' with hx' | hx'
    · obtain ⟨g, hg, rfl⟩ := List.mem_map.mp hx'
      exact .inl (loneBlock_of_spoken hg)
    · obtain ⟨call, hcall, rfl⟩ := List.mem_map.mp hx'
      exact .inr ⟨rfl, call, by simpa [hsaid] using hcall, rfl⟩

/-! ## the two together -/

/-- what a fragment says in arguments is for a call -/
theorem call_of_isInput {c : Response} {g : Growth} (hg : g ∈ growths c)
    (h : g.delta.isInput = true) : ∃ call ∈ callFragments [c], g.call = some call.index := by
  unfold growths at hg
  unfold callFragments
  cases hsaid : said? c with
  | none =>
    rw [hsaid] at hg
    exact absurd hg List.not_mem_nil
  | some m =>
    rw [hsaid] at hg
    rcases List.mem_append.mp hg with hg | hg
    · have hquiet := (loneBlock_of_spoken hg).2
      rw [loneBlock, Growth.at_snd, h] at hquiet
      exact nomatch hquiet
    · obtain ⟨call, hcall, rfl⟩ := List.mem_map.mp hg
      exact ⟨call, by simpa [hsaid] using List.mem_of_mem_filter hcall, rfl⟩

theorem Growth.at_fst_of_call {g : Growth} {k : UInt32} (h : g.call = some k) (i j : UInt32)
    (block : UInt32 → UInt32) : (g.at i j block).1 = block k := by
  obtain ⟨call, d⟩ := g
  obtain rfl : call = some k := h
  rfl

/-- the same growth in blocks that are numbered in two ways, which tell calls apart alike -/
theorem alike_map {gs : List Growth} {f g : UInt32 → UInt32} (i j i' j' : UInt32)
    (h : ∀ z ∈ gs, ∀ z' ∈ gs, z.delta.isInput = true → z'.delta.isInput = true →
      ∃ k k', z.call = some k ∧ z'.call = some k' ∧ (f k = f k' ↔ g k = g k')) :
    Alike (gs.map (Growth.at i j f)) (gs.map (Growth.at i' j' g)) where
  said := by
    rw [List.map_map, List.map_map]
    exact List.map_congr_left fun z _ => (z.at_snd i j f).trans (z.at_snd i' j' g).symm
  grouped := by
    intro n n' x x' y y' hx hx' hy hy' hin hin'
    rw [List.getElem?_map] at hx hx' hy hy'
    obtain ⟨z, hz, rfl⟩ := Option.map_eq_some_iff.mp hx
    obtain ⟨z', hz', rfl⟩ := Option.map_eq_some_iff.mp hx'
    rw [hz] at hy
    rw [hz'] at hy'
    obtain rfl := Option.some.inj hy
    obtain rfl := Option.some.inj hy'
    rw [Growth.at_snd] at hin hin'
    obtain ⟨k, k', hk, hk', hiff⟩ :=
      h z (List.mem_of_getElem? hz) z' (List.mem_of_getElem? hz') hin hin'
    rwa [Growth.at_fst_of_call hk, Growth.at_fst_of_call hk', Growth.at_fst_of_call hk,
      Growth.at_fst_of_call hk']

/-- **A fragment on its own and for a fresh writer.**  Apart from pieces of arguments without a
character, the two tell the same thinking, text and arguments in the same order, and put the same
pieces of arguments into one block.  On its own, no piece of arguments stands in the block of
thinking and text. -/
theorem chunkEvents_alike (a : Ambient) {c : Response} (hdone : c.isDone = false)
    (hfew : ∀ call ∈ callFragments [c], call.index.toNat < 2 ^ 32 - 1) :
    Alike ((grown (chunkEvents c)).filter (!·.2.isHollow)) (grown (step a {} c).1) ∧
      ∀ x ∈ grown (chunkEvents c), ∀ y ∈ grown (chunkEvents c), x.2.isInput = true →
        y.2.isInput = false → x.1 ≠ y.1 := by
  constructor
  · obtain ⟨i, j, first, seen, hnodup, hseen, hstep⟩ := grown_step a hdone
    rw [hstep, filter_grown_chunkEvents hdone]
    refine alike_map 0 0 i j fun z hz z' hz' hin hin' => ?_
    obtain ⟨call, hcall, hk⟩ := call_of_isInput hz hin
    obtain ⟨call', hcall', hk'⟩ := call_of_isInput hz' hin'
    refine ⟨_, _, hk, hk', ?_⟩
    rw [blockOf_inj hnodup (hseen call hcall) (hseen call' hcall')]
    exact UInt32.add_left_inj 1
  · intro x hx y hy hin hout
    obtain ⟨-, hno⟩ | ⟨-, call, hcall, hblock⟩ := mem_grown_chunkEvents hdone hx
    · exact absurd (hin.symm.trans hno) Bool.noConfusion
    obtain ⟨hzero, -⟩ | ⟨hyes, -⟩ := mem_grown_chunkEvents hdone hy
    · have hlt := hfew call hcall
      rw [hblock, hzero]
      intro heq
      have hnat := congrArg UInt32.toNat heq
      rw [UInt32.toNat_add] at hnat
      change (call.index.toNat + 1) % 2 ^ 32 = 0 at hnat
      omega
    · exact absurd (hyes.symm.trans hout) Bool.noConfusion

/-- thinking, text and two calls, whose fragments interleave, one of them without arguments -/
def motley : Response where
  choices := [{
    delta := some {
      reasoning := some "b", signature := some "s", content := some (.text "a")
      toolCalls := some [{ index := 7, id := "t", name := "f", arguments := "x" },
        { index := 2, id := "u", name := "g" }, { index := 7, arguments := "y" },
        { index := 2, arguments := "z" }] }
    finish := some .toolCalls }]
  usage := some { prompt := 9, completion := 4 }

theorem chunkEvents_alike_motley :
    grown (chunkEvents motley) = [(0, .thinking "b"), (0, .text "a"), (8, .inputJson "x"),
      (3, .inputJson ""), (8, .inputJson "y"), (3, .inputJson "z")] ∧
    grown (step ⟨0, fun _ => "0"⟩ {} motley).1 = [(0, .thinking "b"), (1, .text "a"),
      (2, .inputJson "x"), (2, .inputJson "y"), (3, .inputJson "z")] ∧
    motley.isDone = false ∧ (∀ call ∈ callFragments [motley], call.index.toNat < 2 ^ 32 - 1) ∧
    Alike ((grown (chunkEvents motley)).filter (!·.2.isHollow))
      (grown (step ⟨0, fun _ => "0"⟩ {} motley).1) := by
  have hdone : motley.isDone = false := by decide
  have hfew : ∀ call ∈ callFragments [motley], call.index.toNat < 2 ^ 32 - 1 := by decide
  exact ⟨by decide, by decide, hdone, hfew, (chunkEvents_alike _ hdone hfew).1⟩

end BlockStream
end ChatRelay.Anthropic
