import ChatRelay.Dialect.Anthropic.Wire

/-!
# The order of a stream of block events

A reader of a stream keeps the blocks that have started and not yet stopped.  What makes a stream
well-formed is said in those terms, clause by clause, in `WellFormed`.  `Admits` says which event
may come next; a list in which every event was admitted is `Underway`, and an ending turns it into
a well-formed stream.

* `Underway.admits`        every event of a stream underway was admitted by the events before it;
* `Underway.wellFormed`    a stream underway without open blocks, and an ending;
* `Underway.completable`   a stream underway is the front of a well-formed one.
-/

namespace ChatRelay.Anthropic

/-! ## what a reader keeps -/

/-- whether growth is of the kind that a block takes -/
def Delta.fits : Delta → Block → Bool
  | .text _, .text _ => true
  | .thinking _, .thinking .. => true
  | .signature _, .thinking .. => true
  | .inputJson _, .toolUse .. => true
  | _, _ => false

/-- whether a block is text or thinking -/
def Block.isSpoken : Block → Bool
  | .text _ | .thinking .. => true
  | _ => false

/-- the block that an event starts, under its index -/
def Event.start? : Event → Option (UInt32 × Block)
  | .blockStart i b => some (i, b)
  | _ => none

/-- the index of the block that an event stops -/
def Event.stop? : Event → Option UInt32
  | .blockStop i => some i
  | _ => none

/-- the blocks that start, in order -/
def blockStarts (es : List Event) : List (UInt32 × Block) := es.filterMap Event.start?

/-- the indices that stop, in order -/
def blockStops (es : List Event) : List UInt32 := es.filterMap Event.stop?

/-- the open blocks after one event more -/
def openAfter (bs : List (UInt32 × Block)) : Event → List (UInt32 × Block)
  | .blockStart i b => bs ++ [(i, b)]
  | .blockStop i => bs.filter (·.1 ≠ i)
  | _ => bs

/-- the blocks that have started and not yet stopped -/
def openBlocks (es : List Event) : List (UInt32 × Block) := es.foldl openAfter []

@[simp] theorem blockStarts_nil : blockStarts [] = [] := rfl
@[simp] theorem blockStops_nil : blockStops [] = [] := rfl
@[simp] theorem openBlocks_nil : openBlocks [] = [] := rfl

theorem blockStarts_snoc (es : List Event) (e : Event) :
    blockStarts (es ++ [e]) = blockStarts es ++ e.start?.toList := by
  cases h : e.start? <;> simp [blockStarts, h]

theorem mem_blockStarts_iff {es : List Event} {i : UInt32} {b : Block} :
    (i, b) ∈ blockStarts es ↔ .blockStart i b ∈ es := by
  constructor
  · intro h
    obtain ⟨e, he, hstart⟩ := List.mem_filterMap.mp h
    cases e with
    | blockStart j c =>
      obtain ⟨rfl, rfl⟩ := Prod.mk.inj (Option.some.inj hstart)
      exact he
    | messageStart _ | blockDelta _ _ | blockStop _ | messageDelta _ _ | messageStop | ping
    | error _ => exact nomatch hstart
  · intro h
    exact List.mem_filterMap.mpr ⟨_, h, rfl⟩

theorem blockStops_snoc (es : List Event) (e : Event) :
    blockStops (es ++ [e]) = blockStops es ++ e.stop?.toList := by
  cases h : e.stop? <;> simp [blockStops, h]

theorem blockStarts_ending (es : List Event) (reason : Ending) (usage : Option Usage) :
    blockStarts (es ++ [.messageDelta reason usage, .messageStop]) = blockStarts es := by
  simp [blockStarts, Event.start?]

theorem openBlocks_snoc (es : List Event) (e : Event) :
    openBlocks (es ++ [e]) = openAfter (openBlocks es) e := by
  simp [openBlocks, List.foldl_append]

/-! ## well-formed streams -/

/-- a complete stream as a reader may expect it -/
structure WellFormed (es : List Event) : Prop where
  /-- it begins with its only `message_start` -/
  opening : ∃ m rest, es = .messageStart m :: rest ∧ ∀ e ∈ rest, e.name ≠ "message_start"
  /-- blocks are numbered from zero in the order they start -/
  numbered : (blockStarts es).map (·.1.toNat) = List.range (blockStarts es).length
  /-- growth names an open block of its kind -/
  fitting : ∀ past i d rest, es = past ++ .blockDelta i d :: rest →
    ∃ b, (i, b) ∈ openBlocks past ∧ d.fits b
  /-- of text and thinking at most one block is open at any time -/
  alone : ∀ past, past <+: es → ((openBlocks past).filter (·.2.isSpoken)).length ≤ 1
  /-- only an open block stops -/
  stopping : ∀ past i rest, es = past ++ .blockStop i :: rest → i ∈ (openBlocks past).map (·.1)
  /-- every block that starts stops exactly once -/
  once : (blockStops es).Perm ((blockStarts es).map (·.1))
  /-- it ends with its only `message_delta` and its only `message_stop` -/
  ending : ∃ body reason usage, es = body ++ [.messageDelta reason usage, .messageStop] ∧
    ∀ e ∈ body, e.name ≠ "message_delta" ∧ e.name ≠ "message_stop"

/-- whether an event may follow the events of a stream that has not come to its ending -/
def Admits (past : List Event) : Event → Prop
  | .messageStart _ => past = []
  | .blockStart i b => past ≠ [] ∧ i.toNat = (blockStarts past).length ∧
      (b.isSpoken → ∀ p ∈ openBlocks past, p.2.isSpoken = false)
  | .blockDelta i d => ∃ b, (i, b) ∈ openBlocks past ∧ d.fits b
  | .blockStop i => i ∈ (openBlocks past).map (·.1)
  | .ping => past ≠ []
  | .messageDelta .. | .messageStop | .error _ => False

/-- a stream that has not come to its ending -/
inductive Underway : List Event → Prop
  | nil : Underway []
  | snoc {es : List Event} {e : Event} : Underway es → Admits es e → Underway (es ++ [e])

/-- where an event stands in a list that is one event longer -/
theorem snoc_eq_append_cons {es past rest : List Event} {e x : Event}
    (h : es ++ [e] = past ++ x :: rest) :
    (past = es ∧ x = e) ∨ ∃ rest', es = past ++ x :: rest' := by
  rcases List.eq_nil_or_concat rest with rfl | ⟨rest', y, rfl⟩
  · obtain ⟨h1, h2⟩ := List.append_inj' h rfl
    exact .inl ⟨h1.symm, (List.cons.inj h2).1.symm⟩
  · rw [List.concat_eq_append, ← List.cons_append, ← List.append_assoc] at h
    exact .inr ⟨rest', (List.append_inj' h rfl).1⟩

theorem Admits.of_nil {e : Event} (h : Admits [] e) : ∃ m, e = .messageStart m := by
  cases e with
  | messageStart m => exact ⟨m, rfl⟩
  | blockStart i b => exact absurd rfl h.1
  | blockDelta i d =>
    obtain ⟨b, hb, -⟩ := h
    simp at hb
  | blockStop i => simp [Admits] at h
  | ping => exact absurd rfl h
  | messageDelta _ _ | messageStop | error _ => exact h.elim

namespace Underway

variable {es : List Event}

theorem admits (h : Underway es) {past rest : List Event} {e : Event}
    (he : es = past ++ e :: rest) : Admits past e := by
  induction h generalizing rest with
  | nil => simp at he
  | snoc h ha ih =>
    rcases snoc_eq_append_cons he with ⟨rfl, rfl⟩ | ⟨rest', he'⟩
    · exact ha
    · exact ih he'

theorem opening (h : Underway es) (hne : es ≠ []) :
    ∃ m rest, es = .messageStart m :: rest ∧ ∀ e ∈ rest, e.name ≠ "message_start" := by
  obtain ⟨e, rest, rfl⟩ := List.exists_cons_of_ne_nil hne
  have hfirst : Admits [] e := h.admits rfl
  obtain ⟨m, rfl⟩ := Admits.of_nil hfirst
  refine ⟨m, rest, rfl, fun e he hname => ?_⟩
  obtain ⟨xs, ys, rfl⟩ := List.append_of_mem he
  have ha : Admits (.messageStart m :: xs) e := h.admits (List.cons_append ..).symm
  cases e with
  | messageStart _ => exact (List.cons_ne_nil _ _ ha).elim
  | blockStart _ _ | blockDelta _ _ | blockStop _ | messageDelta _ _ | messageStop | ping
  | error _ => simp [Event.name] at hname

theorem unended (h : Underway es) :
    ∀ e ∈ es, e.name ≠ "message_delta" ∧ e.name ≠ "message_stop" := by
  intro e he
  obtain ⟨xs, ys, rfl⟩ := List.append_of_mem he
  have ha : Admits xs e := h.admits rfl
  cases e with
  | messageDelta _ _ | messageStop => exact ha.elim
  | messageStart _ | blockStart _ _ | blockDelta _ _ | blockStop _ | ping | error _ =>
    simp [Event.name]

theorem numbered (h : Underway es) :
    (blockStarts es).map (·.1.toNat) = List.range (blockStarts es).length := by
  induction h with
  | nil => rfl
  | @snoc es e h ha ih =>
    rw [blockStarts_snoc]
    cases e with
    | blockStart i b =>
      have hi : i.toNat = (blockStarts es).length := ha.2.1
      simp [Event.start?, ih, hi, List.range_succ]
    | messageStart _ | blockDelta _ _ | blockStop _ | messageDelta _ _ | messageStop | ping
    | error _ => simpa [Event.start?] using ih

theorem nodup_blockStarts (h : Underway es) : ((blockStarts es).map (·.1)).Nodup := by
  have hn : ((blockStarts es).map (·.1.toNat)).Nodup := h.numbered ▸ List.nodup_range
  have hm : (blockStarts es).map (·.1.toNat)
      = ((blockStarts es).map (·.1)).map UInt32.toNat := by simp
  rw [hm] at hn
  exact List.Pairwise.of_map _ (fun _ _ hne he => hne (congrArg _ he)) hn

theorem openBlocks_sublist (h : Underway es) : (openBlocks es).Sublist (blockStarts es) := by
  induction h with
  | nil => exact .refl _
  | @snoc es e h ha ih =>
    rw [openBlocks_snoc, blockStarts_snoc]
    cases e with
    | blockStart i b => exact ih.append (.refl _)
    | blockStop i => simpa [Event.start?, openAfter] using (List.filter_sublist).trans ih
    | messageStart _ | blockDelta _ _ | messageDelta _ _ | messageStop | ping | error _ =>
      simpa [Event.start?, openAfter] using ih

theorem nodup_openBlocks (h : Underway es) : ((openBlocks es).map (·.1)).Nodup :=
  h.nodup_blockStarts.sublist (h.openBlocks_sublist.map _)

theorem of_prefix (h : Underway es) {past : List Event} (hp : past <+: es) : Underway past := by
  induction h with
  | nil =>
    rw [List.prefix_nil.mp hp]
    exact .nil
  | snoc h ha ih =>
    rcases List.prefix_concat_iff.mp hp with rfl | hp'
    · exact .snoc h ha
    · exact ih hp'

theorem alone (h : Underway es) : ((openBlocks es).filter (·.2.isSpoken)).length ≤ 1 := by
  induction h with
  | nil => exact Nat.zero_le _
  | @snoc es e h ha ih =>
    rw [openBlocks_snoc]
    cases e with
    | blockStart i b =>
      rw [openAfter, List.filter_append, List.length_append]
      by_cases hb : b.isSpoken = true
      · have hnone : (openBlocks es).filter (·.2.isSpoken) = [] := by
          simpa using ha.2.2 hb
        simp [hnone, hb]
      · simpa [hb] using ih
    | blockStop i =>
      have hsub := (List.filter_sublist (p := (·.1 ≠ i)) (l := openBlocks es)).filter
        (·.2.isSpoken)
      exact Nat.le_trans hsub.length_le ih
    | messageStart _ | blockDelta _ _ | messageDelta _ _ | messageStop | ping | error _ =>
      exact ih

/-- an open block that stops leaves the others open -/
theorem openAfter_stop (h : Underway es) {xs ys : List (UInt32 × Block)} {p : UInt32 × Block}
    (ho : openBlocks es = xs ++ p :: ys) :
    openAfter (openBlocks es) (.blockStop p.1) = xs ++ ys := by
  have hn := h.nodup_openBlocks
  rw [ho, List.map_append, List.map_cons, List.nodup_append] at hn
  obtain ⟨-, hn, hd⟩ := hn
  rw [ho, openAfter, List.filter_append, List.filter_cons_of_neg (by simp)]
  congr 1
  · refine List.filter_eq_self.mpr fun q hq => ?_
    have hne : q.1 ≠ p.1 := hd q.1 (List.mem_map_of_mem hq) p.1 (by simp)
    simpa using hne
  · refine List.filter_eq_self.mpr fun q hq => ?_
    have hne : q.1 ≠ p.1 := fun he => (List.nodup_cons.mp hn).1 (he ▸ List.mem_map_of_mem hq)
    simpa using hne

/-- a block that starts is open until it stops, and stops at most once -/
theorem perm_blockStarts (h : Underway es) :
    ((openBlocks es).map (·.1) ++ blockStops es).Perm ((blockStarts es).map (·.1)) := by
  induction h with
  | nil => exact .refl _
  | @snoc es e h ha ih =>
    rw [openBlocks_snoc, blockStops_snoc, blockStarts_snoc]
    cases e with
    | blockStart i b =>
      simp only [openAfter, Event.stop?, Event.start?, Option.toList_none, Option.toList_some,
        List.append_nil, List.map_append, List.map_cons, List.map_nil, List.append_assoc]
      exact (List.perm_append_comm.append_left _).trans (by simpa using ih.append_right [i])
    | blockStop i =>
      -- the index moves from the open blocks to those that have stopped
      obtain ⟨p, hp, rfl⟩ := List.mem_map.mp ha
      obtain ⟨xs, ys, ho⟩ := List.append_of_mem hp
      rw [h.openAfter_stop ho]
      rw [ho, List.map_append, List.map_cons] at ih
      simp only [Event.stop?, Event.start?, Option.toList_none, Option.toList_some,
        List.append_nil, List.map_append, ← List.append_assoc]
      have hfront : (xs.map (·.1) ++ p.1 :: ys.map (·.1) ++ blockStops es).Perm
          (p.1 :: (xs.map (·.1) ++ ys.map (·.1) ++ blockStops es)) :=
        List.perm_middle.append_right _
      exact (List.perm_append_singleton _ _).trans (hfront.symm.trans ih)
    | messageStart _ | blockDelta _ _ | messageDelta _ _ | messageStop | ping | error _ =>
      simpa [Event.start?, Event.stop?, openAfter] using ih

/-- a stream in which no block is open, and an ending, make a complete one -/
theorem wellFormed (h : Underway es) (hne : es ≠ []) (hopen : openBlocks es = [])
    (reason : Ending) (usage : Option Usage) :
    WellFormed (es ++ [.messageDelta reason usage, .messageStop]) := by
  have hsplit : es ++ [.messageDelta reason usage, .messageStop]
      = (es ++ [.messageDelta reason usage]) ++ [.messageStop] := by simp
  -- what stands in front of an event other than the ending was there before the ending came
  have hinner : ∀ {past rest : List Event} {e : Event},
      e.name ≠ "message_delta" → e.name ≠ "message_stop" →
      es ++ [.messageDelta reason usage, .messageStop] = past ++ e :: rest → Admits past e := by
    intro past rest e h1 h2 he
    rw [hsplit] at he
    rcases snoc_eq_append_cons he with ⟨-, rfl⟩ | ⟨rest', he'⟩
    · exact absurd rfl h2
    · rcases snoc_eq_append_cons he' with ⟨-, rfl⟩ | ⟨rest'', he''⟩
      · exact absurd rfl h1
      · exact h.admits he''
  constructor
  · obtain ⟨m, rest, rfl, hrest⟩ := h.opening hne
    refine ⟨m, rest ++ [.messageDelta reason usage, .messageStop], rfl, ?_⟩
    intro e he
    rcases List.mem_append.mp he with he | he
    · exact hrest e he
    · have hlast : e = .messageDelta reason usage ∨ e = .messageStop := by simpa using he
      rcases hlast with rfl | rfl <;> simp [Event.name]
  · rw [blockStarts_ending]
    exact h.numbered
  · intro past i d rest he
    exact hinner (by simp [Event.name]) (by simp [Event.name]) he
  · intro past hp
    rw [hsplit] at hp
    rcases List.prefix_concat_iff.mp hp with rfl | hp
    · rw [openBlocks_snoc, openBlocks_snoc, hopen]
      exact Nat.zero_le _
    · rcases List.prefix_concat_iff.mp hp with rfl | hp
      · rw [openBlocks_snoc, hopen]
        exact Nat.zero_le _
      · exact (h.of_prefix hp).alone
  · intro past i rest he
    exact hinner (by simp [Event.name]) (by simp [Event.name]) he
  · have hstops : blockStops (es ++ [.messageDelta reason usage, .messageStop])
        = blockStops es := by
      simp [blockStops, Event.stop?]
    rw [blockStarts_ending, hstops]
    simpa [hopen] using h.perm_blockStarts
  · exact ⟨es, reason, usage, rfl, h.unended⟩

theorem stop (h : Underway es) {xs ys : List (UInt32 × Block)} {p : UInt32 × Block}
    (ho : openBlocks es = xs ++ p :: ys) :
    Underway (es ++ [.blockStop p.1]) ∧ openBlocks (es ++ [.blockStop p.1]) = xs ++ ys := by
  refine ⟨.snoc h (by simp [Admits, ho]), ?_⟩
  rw [openBlocks_snoc, h.openAfter_stop ho]

/-- the open blocks of a stream can be stopped in the order they started -/
theorem stops (h : Underway es) {bs : List (UInt32 × Block)} (ho : openBlocks es = bs) :
    Underway (es ++ bs.map (.blockStop ·.1)) ∧ openBlocks (es ++ bs.map (.blockStop ·.1)) = [] := by
  induction bs generalizing es with
  | nil => simpa using And.intro h ho
  | cons p bs ih =>
    have hfront : openBlocks es = [] ++ p :: bs := ho
    obtain ⟨h', ho'⟩ := h.stop hfront
    simpa using ih h' ho'

theorem completable (h : Underway es) : ∃ rest, WellFormed (es ++ rest) := by
  by_cases hne : es = []
  · subst hne
    have h1 : Underway [.messageStart { id := "" }] := .snoc .nil rfl
    exact ⟨_, h1.wellFormed (by simp) rfl {} none⟩
  · obtain ⟨h1, h2⟩ := h.stops rfl
    have hw := h1.wellFormed (by simp [hne]) h2 {} none
    rw [List.append_assoc] at hw
    exact ⟨_, hw⟩

end Underway

end ChatRelay.Anthropic
