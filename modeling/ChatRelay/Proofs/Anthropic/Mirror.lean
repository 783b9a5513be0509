import ChatRelay.Proofs.Anthropic.BlockOrder
import ChatRelay.Proofs.Anthropic.Gathered

/-!
# Events, state and draft

Fragments of one choice can be assembled in a draft, or written as events whose blocks are gathered.
The draft keys its content by tool index, the events by block index; they split texts over blocks,
and number tool calls by their blocks.  `Matches` relates the blocks of the events so far, the state
of the writer and the draft, call by call, and every operation within a fragment keeps it.

* `Introduced`          tool calls come in ascending order, identifier and name first;
* `Matches`             what events, state and draft have to do with each other;
* `Mirrors.addCall`     a fragment of a call, new or not;
* `Mirrors.addDelta`    a fragment of the message.
-/

namespace ChatRelay.Anthropic

/-- whether an open block is of the kind of a gathered one -/
def OpenBlock.suits : OpenBlock → Growing → Bool
  | .text _, .text _ => true
  | .thinking _, .thinking .. => true
  | _, _ => false

theorem OpenBlock.takes_of_suits {b : OpenBlock} {g : Growing} {d : Delta} (hb : b.suits g = true)
    (hd : d.fits b.entry.2 = true) : g.takes d = true ∧ b.suits (g.grow d) = true := by
  cases b <;> cases g <;> cases d <;> simp_all [suits, entry, Delta.fits, Growing.takes,
    Growing.grow]

namespace BlockStream

/-- the first fragment of every call behind those `seen` has its identifier and, unless the call
never gets one, its name, and calls come in ascending order -/
def Introduced (seen : List UInt32) : List ToolCall → Prop
  | [] => True
  | c :: rest =>
    if c.index ∈ seen then Introduced seen rest
    else c.id ≠ "" ∧ (c.name ≠ "" ∨ ∀ x ∈ rest, x.index = c.index → x.name = "") ∧
      (∀ i ∈ seen, i < c.index) ∧ Introduced (seen ++ [c.index]) rest

/-- the part of a state that no operation within a fragment touches -/
structure Standing (u : Option ChatRelay.Usage) (s : BlockStream) : Prop where
  isStarted : s.started = true
  unfinished : s.finished = false
  undecided : s.pending = none
  usage : s.usage = u

/-- a draft before and after growth of text or thinking -/
structure Hears (d : Draft) (g : Delta) (d' : Draft) : Prop where
  text : d'.text = d.text ++ g.spoken
  thought : d'.reasoning.getD "" = d.reasoning.getD "" ++ g.thought
  signature : d'.signature = g.sign?.or d.signature
  calls : d'.calls = d.calls

/-- events that say what a draft holds -/
structure Echoes (m : Answer) (ts : List Track) (d : Draft) (es : List Event) : Prop where
  tells : Tells m ts es d.text (d.reasoning.getD "")
  signature : lastSign ((gathered es).blocks.values.map Growing.sign?) = d.signature
  calls : d.calls = ts.map Track.slot

/-- the events of a message, the state behind them, and the draft of the same fragments: blocks are
numbered from zero, the open text or thinking block is the last, every call has its block, and all
their blocks are open -/
structure Matches (m : Answer) (ts : List Track) (d : Draft) (u : Option ChatRelay.Usage)
    (es : List Event) (s : BlockStream) : Prop where
  echoes : Echoes m ts d es
  ascending : ts.Pairwise (·.call < ·.call)
  numbered : (gathered es).blocks.map (·.1.toNat) = List.range (blockStarts es).length
  next : s.nextIndex.toNat = (blockStarts es).length
  current : ∀ b, s.current = some b →
    ∃ xs g, (gathered es).blocks = xs ++ [(b.index, g)] ∧ b.suits g = true
  toolBlocks : s.toolBlocks = ts.map fun t => (t.call, t.block)
  openTools : s.openTools = ts.map (·.block)
  standing : Standing u s

namespace Echoes

variable {m : Answer} {ts : List Track} {d : Draft} {es : List Event}

theorem stop (h : Echoes m ts d es) (i : UInt32) : Echoes m ts d (es ++ [.blockStop i]) where
  tells := h.tells.pass rfl
  signature := by
    rw [gathered_snoc]
    exact h.signature
  calls := h.calls

theorem stops (h : Echoes m ts d es) (is : List UInt32) :
    Echoes m ts d (es ++ is.map .blockStop) := by
  induction is generalizing es with
  | nil => simpa using h
  | cons i is ih => simpa using ih (h.stop i)

end Echoes

namespace Matches

variable {m : Answer} {ts : List Track} {d : Draft} {u : Option ChatRelay.Usage}
  {es past : List Event} {s : BlockStream} {p : Progress}

theorem lt_next (h : Matches m ts d u es s) : ∀ q ∈ (gathered es).blocks, q.1 < s.nextIndex := by
  intro q hq
  have hmem : q.1.toNat ∈ (gathered es).blocks.map (·.1.toNat) := List.mem_map_of_mem hq
  rw [h.numbered, List.mem_range, ← h.next] at hmem
  exact UInt32.lt_iff_toNat_lt.mpr hmem

theorem closeCurrent (h : Matches m ts d u (past ++ p.events) p.state) :
    Matches m ts d u (past ++ p.closeCurrent.events) p.closeCurrent.state := by
  unfold Progress.closeCurrent
  split
  · next b hb =>
    rw [append_emit]
    have hblocks : (gathered (past ++ p.events ++ [.blockStop b.index])).blocks
        = (gathered (past ++ p.events)).blocks := by rw [gathered_snoc]; rfl
    have hstarts : blockStarts (past ++ p.events ++ [.blockStop b.index])
        = blockStarts (past ++ p.events) := by
      rw [blockStarts_snoc]
      exact List.append_nil _
    exact {
      echoes := h.echoes.stop b.index
      ascending := h.ascending
      numbered := by rw [hblocks, hstarts]; exact h.numbered
      next := by rw [hstarts]; exact h.next
      current := nofun
      toolBlocks := h.toolBlocks
      openTools := h.openTools
      standing := ⟨h.standing.isStarted, h.standing.unfinished, h.standing.undecided,
        h.standing.usage⟩ }
  · exact h

/-- a block that starts: it is the last one, numbered with the number that was next -/
theorem started (h : Matches m ts d u es s) {b : Block} {g : Growing}
    (hb : Growing.ofBlock? b = some g) :
    (gathered (es ++ [.blockStart s.nextIndex b])).blocks
        = (gathered es).blocks ++ [(s.nextIndex, g)] ∧
      (gathered (es ++ [.blockStart s.nextIndex b])).blocks.map (·.1.toNat)
        = List.range (blockStarts (es ++ [.blockStart s.nextIndex b])).length := by
  have hblocks := blocks_gathered_start hb h.lt_next
  refine ⟨hblocks, ?_⟩
  rw [hblocks, blockStarts_snoc]
  simp [Event.start?, h.numbered, h.next, List.range_succ]

theorem next_succ (h : Matches m ts d u es s) (hlt : s.nextIndex.toNat + 1 < UInt32.size)
    (b : Block) :
    (s.nextIndex + 1).toNat = (blockStarts (es ++ [.blockStart s.nextIndex b])).length := by
  rw [UInt32.toNat_add, blockStarts_snoc, List.length_append, ← h.next]
  exact Nat.mod_eq_of_lt hlt

theorem startSpoken (h : Matches m ts d u es s) (hlt : s.nextIndex.toNat + 1 < UInt32.size)
    {b : OpenBlock} (hb : b.index = s.nextIndex) :
    Matches m ts d u (es ++ [.blockStart s.nextIndex b.entry.2])
      { s with nextIndex := s.nextIndex + 1, current := some b } := by
  obtain ⟨g, hg, hkind, hcall, hspoken, hthought, hsign⟩ : ∃ g,
      Growing.ofBlock? b.entry.2 = some g ∧ b.suits g = true ∧ g.isCall = false ∧
      g.spoken = "" ∧ g.thought = "" ∧ g.sign? = none := by
    cases b with
    | text i => exact ⟨_, rfl, rfl, rfl, rfl, rfl, rfl⟩
    | thinking i => exact ⟨_, rfl, rfl, rfl, rfl, rfl, rfl⟩
  obtain ⟨hblocks, hnumbered⟩ := h.started hg
  have htells : Tells m (ts ++ []) _ _ _ := h.echoes.tells.start hg h.lt_next (by simp [hcall])
  rw [hspoken, hthought, String.append_empty, String.append_empty, List.append_nil] at htells
  exact {
    echoes := {
      tells := htells
      signature := by
        rw [hblocks, Slots.values_append, List.map_append]
        show lastSign (_ ++ [g.sign?]) = _
        rw [lastSign_snoc, hsign]
        exact h.echoes.signature
      calls := h.echoes.calls }
    ascending := h.ascending
    numbered := hnumbered
    next := h.next_succ hlt _
    current := by
      intro b' hb'
      obtain rfl := Option.some.inj hb'
      exact ⟨_, g, by rw [hblocks, hb], hkind⟩
    toolBlocks := h.toolBlocks
    openTools := h.openTools
    standing := ⟨h.standing.isStarted, h.standing.unfinished, h.standing.undecided,
      h.standing.usage⟩ }

theorem growCurrent (h : Matches m ts d u es s) {b : OpenBlock} (hb : s.current = some b)
    {g : Delta} (hg : g.fits b.entry.2 = true) {d' : Draft} (hd : Hears d g d') :
    Matches m ts d' u (es ++ [.blockDelta b.index g]) s := by
  obtain ⟨xs, block, hblocks, hsuits⟩ := h.current b hb
  obtain ⟨htakes, hsuits'⟩ := OpenBlock.takes_of_suits hsuits hg
  have hgrown := blocks_gathered_delta h.echoes.tells.sorted hblocks g
  have hstarts : blockStarts (es ++ [.blockDelta b.index g]) = blockStarts es := by
    rw [blockStarts_snoc]
    exact List.append_nil _
  exact {
    echoes := {
      tells := by
        rw [hd.text, hd.thought]
        exact h.echoes.tells.grow hblocks htakes (.inl (by simp)) (.inl (by simp))
      signature := by
        have hold := h.echoes.signature
        rw [hblocks, Slots.values_append, List.map_append] at hold
        change lastSign (_ ++ [block.sign?]) = _ at hold
        rw [hgrown, Slots.values_append, List.map_append]
        show lastSign (_ ++ [(block.grow g).sign?]) = _
        rw [lastSign_snoc] at hold ⊢
        rw [(Growing.grow_of_takes htakes).2.2.1, hd.signature, ← hold, Option.or_assoc]
      calls := hd.calls.trans h.echoes.calls }
    ascending := h.ascending
    numbered := by
      rw [hstarts, ← h.numbered, hgrown, hblocks]
      simp
    next := by rw [hstarts]; exact h.next
    current := by
      intro b' hb'
      obtain rfl := Option.some.inj (hb.symm.trans hb')
      exact ⟨xs, _, hgrown, hsuits'⟩
    toolBlocks := h.toolBlocks
    openTools := h.openTools
    standing := h.standing }

/-- the block of a new call starts, its arguments still empty -/
theorem startCall (h : Matches m ts d u es s) (hlt : s.nextIndex.toNat + 1 < UInt32.size)
    (c : ToolCall) (hc : ∀ t ∈ ts, t.call < c.index) {t : Track}
    (ht : t = Track.begin { c with arguments := "" } s.nextIndex) :
    Matches m (ts ++ [t]) { d with calls := (ts ++ [t]).map Track.slot } u
      (es ++ [.blockStart s.nextIndex (.toolUse c.id c.name .empty)])
      { s with
        nextIndex := s.nextIndex + 1
        current := none
        toolBlocks := Slots.update c.index (fun _ => s.nextIndex) s.toolBlocks
        openTools := s.openTools ++ [s.nextIndex] } := by
  have hg : Growing.ofBlock? (.toolUse c.id c.name .empty) = some (.toolUse c.id c.name "") := rfl
  obtain ⟨hblocks, hnumbered⟩ := h.started hg
  have hbefore : ∀ q ∈ s.toolBlocks, q.1 < c.index := by
    intro q hq
    rw [h.toolBlocks] at hq
    obtain ⟨t, ht, rfl⟩ := List.mem_map.mp hq
    exact hc t ht
  subst ht
  have htells : Tells m (ts ++ [Track.begin { c with arguments := "" } s.nextIndex]) _ _ _ :=
    h.echoes.tells.start hg h.lt_next rfl
  exact {
    echoes := {
      tells := by simpa [Growing.spoken, Growing.thought] using htells
      signature := by
        rw [hblocks, Slots.values_append, List.map_append]
        show lastSign (_ ++ [none]) = _
        rw [lastSign_snoc]
        exact h.echoes.signature
      calls := rfl }
    ascending := by
      refine List.pairwise_append.mpr
        ⟨h.ascending, List.pairwise_singleton _ _, fun t ht q hq => ?_⟩
      rw [List.mem_singleton.mp hq]
      exact hc t ht
    numbered := hnumbered
    next := h.next_succ hlt _
    current := nofun
    toolBlocks := by
      rw [Slots.update_append _ hbefore, h.toolBlocks, List.map_append]
      rfl
    openTools := by
      rw [h.openTools, List.map_append]
      rfl
    standing := ⟨h.standing.isStarted, h.standing.unfinished, h.standing.undecided,
      h.standing.usage⟩ }

theorem growCall {us vs : List Track} {t : Track} (h : Matches m (us ++ t :: vs) d u es s)
    (more : String) :
    Matches m (us ++ t.grow more :: vs)
      { d with calls := (us ++ t.grow more :: vs).map Track.slot } u
      (es ++ [.blockDelta t.block (.inputJson more)]) s := by
  obtain ⟨xs, ys, hb, -, -⟩ := h.echoes.tells.split rfl
  have hgrown : (gathered (es ++ [.blockDelta t.block (.inputJson more)])).blocks
      = xs ++ (t.grow more).entry :: ys := blocks_gathered_delta h.echoes.tells.sorted hb _
  have hstarts : blockStarts (es ++ [.blockDelta t.block (.inputJson more)]) = blockStarts es := by
    rw [blockStarts_snoc]
    exact List.append_nil _
  have hkeep : ∀ {β : Type} (f : Track → β), f (t.grow more) = f t →
      (us ++ t.grow more :: vs).map f = (us ++ t :: vs).map f := by
    intro β f hf
    simp [hf]
  exact {
    echoes := {
      tells := h.echoes.tells.growCall rfl more
      signature := by
        rw [hgrown, ← h.echoes.signature, hb]
        simp [Slots.values, Track.entry, Growing.sign?]
      calls := rfl }
    ascending := by
      have ha := List.pairwise_map.mpr h.ascending
      rw [← hkeep (·.call) rfl] at ha
      exact List.pairwise_map.mp ha
    numbered := by
      rw [hstarts, ← h.numbered, hgrown, hb]
      simp [Track.entry, Track.grow]
    next := by rw [hstarts]; exact h.next
    current := by
      intro b hcur
      obtain ⟨front, g, hlast, hsuits⟩ := h.current b hcur
      rw [hb] at hlast
      -- the open block is behind the call's, for it is no call
      rcases List.eq_nil_or_concat ys with rfl | ⟨ys', q, rfl⟩
      · obtain ⟨-, hq⟩ := List.append_inj' hlast rfl
        obtain rfl : Growing.toolUse t.id t.name t.arguments = g :=
          congrArg (·.2) (List.cons.inj hq).1
        cases b <;> simp [OpenBlock.suits] at hsuits
      · rw [List.concat_eq_append, ← List.cons_append, ← List.append_assoc] at hlast
        obtain ⟨-, hq⟩ := List.append_inj' hlast rfl
        refine ⟨xs ++ (t.grow more).entry :: ys', g, ?_, hsuits⟩
        rw [hgrown, ← hq]
        simp
    toolBlocks := h.toolBlocks.trans (hkeep _ rfl).symm
    openTools := h.openTools.trans (hkeep _ rfl).symm
    standing := h.standing }

end Matches

/-! ## the operations -/

/-- a call whose identifier and name no fragment to come changes -/
def Settled (rest : List ToolCall) (t : Track) : Prop :=
  t.id ≠ "" ∧ (t.name ≠ "" ∨ ∀ c ∈ rest, c.index = t.call → c.name = "")

/-- events, state and draft match, and the fragments of calls to come introduce new calls only as
they should -/
def Mirrors (rest : List ToolCall) (d : Draft) (u : Option ChatRelay.Usage) (es : List Event)
    (s : BlockStream) : Prop :=
  ∃ m ts, m.usage = {} ∧ Matches m ts d u es s ∧ Introduced (ts.map (·.call)) rest ∧
    ∀ t ∈ ts, Settled rest t

namespace Holds

variable {J : List Event → BlockStream → Prop} {past : List Event} {p : Progress}
  {rest : List ToolCall} {d d' : Draft} {u : Option ChatRelay.Usage}

/-- an event that starts a block, behind the end of the open text or thinking block -/
theorem opening (h : Holds (Mirrors rest d u) past p) {b : Block} {t : BlockStream}
    (hJ : Mirrors rest d u (past ++ p.closeCurrent.events) { p.state with current := none } →
      p.state.nextIndex.toNat + 1 < UInt32.size →
      J (past ++ p.closeCurrent.events ++ [.blockStart p.state.nextIndex b]) t) :
    Holds J past { p.openBlock b with state := t } := by
  refine h.emitStart fun ⟨m, ts, hm, hmatch, hrest⟩ hlt => ?_
  have hclosed := hmatch.closeCurrent
  rw [closeCurrent_state] at hclosed
  exact hJ ⟨m, ts, hm, hclosed, hrest⟩ (by rw [hmatch.next]; exact hlt)

theorem growCurrent (h : Holds (Mirrors rest d u) past p) {b : OpenBlock}
    (hb : p.state.current = some b) {g : Delta} (hg : g.fits b.entry.2 = true)
    (hd : Hears d g d') : Holds (Mirrors rest d' u) past (p.emit (.blockDelta b.index g)) :=
  h.emit rfl fun ⟨m, ts, hm, hmatch, hrest⟩ => ⟨m, ts, hm, hmatch.growCurrent hb hg hd, hrest⟩

theorem startCurrent (h : Holds (Mirrors rest d u) past p) {b : OpenBlock}
    (hb : b.index = p.state.nextIndex) {g : Delta} (hg : g.fits b.entry.2 = true)
    (hd : Hears d g d') :
    Holds (Mirrors rest d' u) past (Progress.emit { p.openBlock b.entry.2 with
      state := { (p.openBlock b.entry.2).state with current := some b } }
        (.blockDelta b.index g)) := by
  have hopen : Holds (Mirrors rest d u) past { p.openBlock b.entry.2 with
      state := { (p.openBlock b.entry.2).state with current := some b } } := by
    rw [openBlock_state]
    refine h.opening fun hclosed hlt => ?_
    obtain ⟨m, ts, hm, hmatch, hrest⟩ := hclosed
    exact ⟨m, ts, hm, hmatch.startSpoken hlt hb, hrest⟩
  exact hopen.growCurrent rfl hg hd

end Holds

namespace Mirrors

variable {past : List Event} {p : Progress} {rest : List ToolCall} {d : Draft}
  {u : Option ChatRelay.Usage} {es : List Event} {s : BlockStream} {c : ToolCall}

/-- a further fragment of a call: its block is open, and only its arguments count -/
theorem growCall (h : Mirrors (c :: rest) d u es s) {block : UInt32}
    (hblock : Slots.find? c.index s.toolBlocks = some block) {d' : Draft}
    (hd : d' = { d with calls := Slots.update c.index (Draft.joinCall c) d.calls }) :
    block ∈ s.openTools ∧ (c.arguments = "" → Mirrors rest d' u es s) ∧
      Mirrors rest d' u (es ++ [.blockDelta block (.inputJson c.arguments)]) s := by
  obtain ⟨m, ts, hm, hmatch, hin, hset⟩ := h
  obtain ⟨xs, ys, hsplit⟩ := Slots.split_of_find? hblock
  rw [hmatch.toolBlocks] at hsplit
  obtain ⟨us, vs', rfl, -, hvs⟩ := List.map_eq_append_iff.mp hsplit
  obtain ⟨t, vs, rfl, ht, -⟩ := List.map_eq_cons_iff.mp hvs
  obtain ⟨hcall, rfl⟩ := Prod.mk.inj ht
  have hmem : t ∈ us ++ t :: vs := by simp
  have hname : t.name ≠ "" ∨ c.name = "" :=
    (hset t hmem).2.imp_right fun hn => hn c List.mem_cons_self hcall.symm
  have hcalls : Slots.update c.index (Draft.joinCall c) d.calls
      = (us ++ t.grow c.arguments :: vs).map Track.slot := by
    rw [hmatch.echoes.calls]
    exact Track.update_grow hmatch.ascending hcall.symm (.inl (hset t hmem).1) hname
  rw [hcalls] at hd
  subst hd
  have hkeep : ∀ more, (us ++ t.grow more :: vs).map (·.call) = (us ++ t :: vs).map (·.call) := by
    intro more
    simp [Track.grow]
  have hin' : Introduced ((us ++ t :: vs).map (·.call)) rest := by
    rw [Introduced, if_pos (by rw [← hcall]; exact List.mem_map_of_mem hmem)] at hin
    exact hin
  have hset' : ∀ x ∈ us ++ t :: vs, Settled rest x := fun x hx =>
    ⟨(hset x hx).1, (hset x hx).2.imp_right fun hn y hy => hn y (List.mem_cons_of_mem _ hy)⟩
  refine ⟨?_, ?_, ?_⟩
  · rw [hmatch.openTools]
    exact List.mem_map_of_mem hmem
  · intro hempty
    have hsame : t.grow c.arguments = t := by rw [hempty, Track.grow, String.append_empty]
    rw [hsame, ← hmatch.echoes.calls]
    exact ⟨m, _, hm, hmatch, hin', hset'⟩
  · refine ⟨m, _, hm, hmatch.growCall c.arguments, by rw [hkeep]; exact hin', fun x hx => ?_⟩
    rcases List.mem_append.mp hx with hx | hx
    · exact hset' x (List.mem_append_left _ hx)
    · rcases List.mem_cons.mp hx with rfl | hx
      · exact hset' t hmem
      · exact hset' x (by simp [hx])

end Mirrors

/-- the block of a new call has started, its arguments are still to come -/
def Starts (c : ToolCall) (block : UInt32) (rest : List ToolCall) (d : Draft)
    (u : Option ChatRelay.Usage) (es : List Event) (s : BlockStream) : Prop :=
  ∃ m ts t, t = Track.begin { c with arguments := "" } block ∧ m.usage = {} ∧
    Matches m (ts ++ [t]) { d with calls := (ts ++ [t]).map Track.slot } u es s ∧
    Slots.update c.index (Draft.joinCall c) d.calls
      = (ts ++ [t.grow c.arguments]).map Track.slot ∧
    Introduced ((ts ++ [t]).map (·.call)) rest ∧ ∀ t' ∈ ts ++ [t], Settled rest t'

namespace Starts

variable {c : ToolCall} {rest : List ToolCall} {d : Draft} {u : Option ChatRelay.Usage}
  {es : List Event} {s : BlockStream} {block : UInt32}

/-- a call that has not been seen has an identifier, and its block starts -/
theorem of_mirrors (h : Mirrors (c :: rest) d u es s)
    (hnone : Slots.find? c.index s.toolBlocks = none) (hlt : s.nextIndex.toNat + 1 < UInt32.size) :
    c.id ≠ "" ∧ Starts c s.nextIndex rest d u
      (es ++ [.blockStart s.nextIndex (.toolUse c.id c.name .empty)])
      { s with
        nextIndex := s.nextIndex + 1
        current := none
        toolBlocks := Slots.update c.index (fun _ => s.nextIndex) s.toolBlocks
        openTools := s.openTools ++ [s.nextIndex] } := by
  obtain ⟨m, ts, hm, hmatch, hin, hset⟩ := h
  have hnew : c.index ∉ ts.map (·.call) := by
    intro hmem
    obtain ⟨t, ht, htc⟩ := List.mem_map.mp hmem
    rw [hmatch.toolBlocks] at hnone
    exact Slots.find?_eq_none_iff.mp hnone _ (List.mem_map_of_mem ht) htc
  rw [Introduced, if_neg hnew] at hin
  obtain ⟨hid, hname, hless, hin⟩ := hin
  have hcalls : ∀ t ∈ ts, t.call < c.index := fun t ht => hless _ (List.mem_map_of_mem ht)
  refine ⟨hid, m, ts, _, rfl, hm, hmatch.startCall hlt c hcalls rfl, ?_,
    by simpa [Track.begin] using hin, ?_⟩
  · rw [hmatch.echoes.calls, Track.update_new hcalls s.nextIndex]
    simp [Track.begin, Track.grow]
  · intro t ht
    rcases List.mem_append.mp ht with ht | ht
    · exact ⟨(hset t ht).1, (hset t ht).2.imp_right fun hn y hy => hn y (List.mem_cons_of_mem _ hy)⟩
    · rw [List.mem_singleton.mp ht]
      exact ⟨hid, hname⟩

/-- its first fragment may have arguments, or not -/
theorem mirrors (h : Starts c block rest d u es s) {d' : Draft}
    (hd : d' = { d with calls := Slots.update c.index (Draft.joinCall c) d.calls }) :
    (c.arguments = "" → Mirrors rest d' u es s) ∧
      Mirrors rest d' u (es ++ [.blockDelta block (.inputJson c.arguments)]) s := by
  obtain ⟨m, ts, t, ht, hm, hmatch, hcalls, hin, hset⟩ := h
  rw [hcalls] at hd
  subst hd
  have hblock : t.block = block := by rw [ht]; rfl
  constructor
  · intro hempty
    have hsame : t.grow c.arguments = t := by rw [hempty, Track.grow, String.append_empty]
    rw [hsame]
    exact ⟨m, _, hm, hmatch, hin, hset⟩
  · have hgrown := hmatch.growCall c.arguments
    rw [hblock] at hgrown
    refine ⟨m, _, hm, hgrown, by simpa [Track.grow] using hin, fun x hx => ?_⟩
    rcases List.mem_append.mp hx with hx | hx
    · exact hset x (List.mem_append_left _ hx)
    · rw [List.mem_singleton.mp hx]
      exact hset t (by simp)

end Starts

namespace Mirrors

variable {past : List Event} {p : Progress} {rest : List ToolCall} {d d' : Draft}
  {u : Option ChatRelay.Usage}

theorem addText (h : Holds (Mirrors rest d u) past p) {text : String}
    (hd : Hears d (.text text) d') : Holds (Mirrors rest d' u) past (p.addText text) := by
  unfold Progress.addText
  split
  · next i hi => exact h.growCurrent hi rfl hd
  · exact h.startCurrent (b := .text p.state.nextIndex) rfl rfl hd

theorem addThinking (h : Holds (Mirrors rest d u) past p) {g : Delta}
    (hg : g.fits (.thinking "" none) = true) (hd : Hears d g d') :
    Holds (Mirrors rest d' u) past (p.addThinking g) := by
  unfold Progress.addThinking
  split
  · next i hi => exact h.growCurrent hi hg hd
  · exact h.startCurrent (b := .thinking p.state.nextIndex) rfl hg hd

theorem addArguments {I : List Event → BlockStream → Prop} (h : Holds I past p) {block : UInt32}
    {arguments : String}
    (hI : ∀ es s, I es s → (arguments = "" → Mirrors rest d' u es s) ∧
      Mirrors rest d' u (es ++ [.blockDelta block (.inputJson arguments)]) s) :
    Holds (Mirrors rest d' u) past (p.addArguments block arguments) := by
  unfold Progress.addArguments
  split
  · next hempty => exact fun hlt => (hI _ _ (h hlt)).1 hempty
  · exact h.emit rfl fun hp => (hI _ _ hp).2

theorem addCall (a : Ambient) {c : ToolCall} (h : Holds (Mirrors (c :: rest) d u) past p) :
    Holds (Mirrors rest { d with calls := Slots.update c.index (Draft.joinCall c) d.calls } u) past
      (p.addCall a c) := by
  unfold Progress.addCall
  split
  · next block hblock =>
    have hnote : Holds (fun es s =>
        Mirrors (c :: rest) d u es s ∧ s.toolBlocks = p.state.toolBlocks) past p :=
      fun hlt => ⟨h hlt, rfl⟩
    split
    · refine addArguments hnote fun es s hes => ?_
      rw [← hes.2] at hblock
      exact (hes.1.growCall hblock rfl).2
    · next hclosed => exact fun hlt => absurd ((h hlt).growCall hblock rfl).1 hclosed
  · next hnone =>
    refine addArguments ?_ fun es s hes => Starts.mirrors hes rfl
    rw [openBlock_state]
    refine h.opening fun hclosed hlt => ?_
    obtain ⟨hid, hstarts⟩ := Starts.of_mirrors hclosed hnone hlt
    rw [if_neg hid]
    exact hstarts

theorem addCalls (a : Ambient) (cs : List ToolCall) (h : Holds (Mirrors (cs ++ rest) d u) past p) :
    Holds (Mirrors rest
      { d with
        calls := cs.foldl (fun calls c => Slots.update c.index (Draft.joinCall c) calls) d.calls }
      u) past (cs.foldl (Progress.addCall a) p) := by
  induction cs generalizing p d with
  | nil => exact h
  | cons c cs ih => exact ih (addCall a h)

/-- a draft that says the same -/
theorem quiet (h : Mirrors rest d u es s) (hd : Hears d (.text "") d') :
    Mirrors rest d' u es s := by
  obtain ⟨m, ts, hm, hmatch, hrest⟩ := h
  have htext : d'.text = d.text := hd.text.trans String.append_empty
  have hthought : d'.reasoning.getD "" = d.reasoning.getD "" := hd.thought.trans String.append_empty
  refine ⟨m, ts, hm, { hmatch with echoes := ?_ }, hrest⟩
  exact {
    tells := by rw [htext, hthought]; exact hmatch.echoes.tells
    signature := hmatch.echoes.signature.trans hd.signature.symm
    calls := hd.calls.trans hmatch.echoes.calls }

theorem nonEmpty?_eq_none {o : Option String} (h : Progress.nonEmpty? o = none) :
    o = none ∨ o = some "" := by
  cases o with
  | none => exact .inl rfl
  | some t => simpa [Progress.nonEmpty?, Option.filter] using h

theorem addReasoning (h : Holds (Mirrors rest d u) past p) (o : Option String) :
    Holds (Mirrors rest { d with reasoning := Draft.joinReasoning d.reasoning o } u) past
      (match Progress.nonEmpty? o with
        | some thought => p.addThinking (.thinking thought)
        | none => p) := by
  split
  · next thought hs =>
    obtain ⟨rfl, -⟩ := Option.filter_eq_some_iff.mp hs
    exact addThinking h rfl ⟨String.append_empty.symm, rfl, rfl, rfl⟩
  · next hs =>
    refine fun hlt => (h hlt).quiet ⟨String.append_empty.symm, ?_, rfl, rfl⟩
    rcases nonEmpty?_eq_none hs with rfl | rfl <;> simp [Draft.joinReasoning, Delta.thought]

theorem addSignature (h : Holds (Mirrors rest d u) past p) (o : Option String) :
    Holds (Mirrors rest { d with signature := Draft.joinSignature d.signature o } u) past
      (match Progress.nonEmpty? o with
        | some sign => p.addThinking (.signature sign)
        | none => p) := by
  split
  · next sign hs =>
    obtain ⟨rfl, hne⟩ := Option.filter_eq_some_iff.mp hs
    refine addThinking h rfl ⟨String.append_empty.symm, String.append_empty.symm, ?_, rfl⟩
    simp_all [Draft.joinSignature, Delta.sign?]
  · next hs =>
    refine fun hlt => (h hlt).quiet ⟨String.append_empty.symm, String.append_empty.symm, ?_, rfl⟩
    rcases nonEmpty?_eq_none hs with rfl | rfl <;> simp [Draft.joinSignature, Delta.sign?]

theorem addSpeech (h : Holds (Mirrors rest d u) past p) (text : String) :
    Holds (Mirrors rest { d with text := d.text ++ text } u) past
      (if text = "" then p else p.addText text) := by
  split
  · next he =>
    subst he
    exact fun hlt => (h hlt).quiet ⟨rfl, String.append_empty.symm, rfl, rfl⟩
  · exact addText h ⟨rfl, String.append_empty.symm, rfl, rfl⟩

/-- a fragment of the message, whose calls are the next to come -/
theorem addDelta (a : Ambient) (m : ChatRelay.Message)
    (h : Holds (Mirrors (m.calls ++ rest) d u) past p) :
    Holds (Mirrors rest (d.add m) u) past (p.addDelta a m) :=
  addCalls a _ (addSpeech (addSignature (addReasoning h _) _) _)

end Mirrors
end BlockStream
end ChatRelay.Anthropic
