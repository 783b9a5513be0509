import ChatRelay.Proofs.Anthropic.Gathered
import Mathlib.Data.List.Induction

/-!
# One block among gathered events

Events of several blocks may come in between each other.  What stands under an index in the end
depends on the events about that index alone, in their order; everything else passes it by.

* `find?_gathered`     the block under an index, from the events about it;
* `shell_gathered`     events about blocks leave everything else as it was;
* `standing_of_last`   the last block that starts under an index, with the growth after it;
* `standing_of_never`  a block that its growth implies.
-/

namespace ChatRelay.Anthropic

/-- the index of the block that an event starts or grows -/
def Event.block? : Event → Option UInt32
  | .blockStart i _ | .blockDelta i _ => some i
  | _ => none

/-- the events that start or grow the block under an index -/
def about (i : UInt32) (es : List Event) : List Event := es.filter (·.block? = some i)

/-- a block that grows, which implies it where none has started -/
def Growing.join (g : Option Growing) (d : Delta) : Option Growing :=
  some ((g.getD (ofDelta d)).grow d)

/-- what stands under an index after one event more about it -/
def Growing.next (g : Option Growing) : Event → Option Growing
  | .blockStart _ b => (ofBlock? b).or g
  | .blockDelta _ d => join g d
  | _ => g

/-- what events about an index leave there -/
def standing (es : List Event) : Option Growing := es.foldl Growing.next none

@[simp] theorem standing_nil : standing [] = none := rfl

theorem standing_snoc (es : List Event) (e : Event) :
    standing (es ++ [e]) = Growing.next (standing es) e := by
  rw [standing, List.foldl_append]
  rfl

theorem about_snoc (i : UInt32) (es : List Event) (e : Event) :
    about i (es ++ [e]) = if e.block? = some i then about i es ++ [e] else about i es := by
  rw [about, List.filter_append]
  split
  · next h => simp [about, h]
  · next h => simp [about, h]

/-! ## one event -/

theorem blocks_push_start (s : Collected) (i : UInt32) (b : Block) :
    (s.push (.blockStart i b)).2.blocks
      = match Growing.ofBlock? b with
        | some g => Slots.update i (fun _ => g) s.blocks
        | none => s.blocks := by
  show (Collected.note _ (.blockStart i b)).blocks = _
  rw [Collected.note]
  cases Growing.ofBlock? b <;> rfl

theorem sorted_push {s : Collected} (hs : Slots.Sorted s.blocks) (e : Event) :
    Slots.Sorted (s.push e).2.blocks := by
  cases e with
  | blockStart i b =>
    rw [blocks_push_start]
    cases Growing.ofBlock? b with
    | none => exact hs
    | some g => exact Slots.sorted_update hs
  | blockDelta i d => exact Slots.sorted_update hs
  | messageStart _ | blockStop _ | messageDelta _ _ | messageStop | ping | error _ => exact hs

theorem find?_push_of_about {s : Collected} (hs : Slots.Sorted s.blocks) {i : UInt32} {e : Event}
    (h : e.block? = some i) :
    Slots.find? i (s.push e).2.blocks = Growing.next (Slots.find? i s.blocks) e := by
  cases e with
  | blockStart j b =>
    obtain rfl : j = i := Option.some.inj h
    rw [blocks_push_start, Growing.next]
    cases Growing.ofBlock? b with
    | none => rfl
    | some g => exact Slots.find?_update_self j _ hs
  | blockDelta j d =>
    obtain rfl : j = i := Option.some.inj h
    exact Slots.find?_update_self j _ hs
  | messageStart _ | blockStop _ | messageDelta _ _ | messageStop | ping | error _ =>
    exact nomatch h

theorem find?_push_of_not_about (s : Collected) {i : UInt32} {e : Event}
    (h : e.block? ≠ some i) : Slots.find? i (s.push e).2.blocks = Slots.find? i s.blocks := by
  cases e with
  | blockStart j b =>
    have hne : i ≠ j := fun hij => h (congrArg some hij.symm)
    rw [blocks_push_start]
    cases Growing.ofBlock? b with
    | none => rfl
    | some g => exact Slots.find?_update_of_ne _ hne s.blocks
  | blockDelta j d =>
    have hne : i ≠ j := fun hij => h (congrArg some hij.symm)
    exact Slots.find?_update_of_ne _ hne s.blocks
  | messageStart _ | blockStop _ | messageDelta _ _ | messageStop | ping | error _ => rfl

/-! ## all events -/

theorem sorted_gathered (es : List Event) : Slots.Sorted (gathered es).blocks := by
  induction es using List.reverseRecOn with
  | nil => exact .nil
  | append_singleton es e ih =>
    rw [gathered_snoc]
    exact sorted_push ih e

theorem find?_gathered (es : List Event) (i : UInt32) :
    Slots.find? i (gathered es).blocks = standing (about i es) := by
  induction es using List.reverseRecOn with
  | nil => rfl
  | append_singleton es e ih =>
    rw [gathered_snoc, about_snoc]
    split
    · next h => rw [find?_push_of_about (sorted_gathered es) h, ih, standing_snoc]
    · next h => rw [find?_push_of_not_about _ h, ih]

theorem shell_gathered (es : List Event) {body : List Event} (h : ∀ e ∈ body, e.isInner = true) :
    (gathered (es ++ body)).shell = (gathered es).shell := by
  induction body using List.reverseRecOn with
  | nil => rw [List.append_nil]
  | append_singleton body e ih =>
    rw [← List.append_assoc, shell_gathered_snoc _ (h e (by simp))]
    exact ih fun x hx => h x (List.mem_append_left _ hx)

/-! ## growth -/

/-- the piece of a tool's input in growth -/
def Delta.input? : Delta → Option String
  | .inputJson s => some s
  | _ => none

theorem Growing.foldl_grow_toolUse (id name : String) (ds : List Delta) (s : String) :
    ds.foldl grow (.toolUse id name s)
      = .toolUse id name (s ++ concat (ds.filterMap Delta.input?)) := by
  induction ds generalizing s with
  | nil => simp
  | cons d ds ih =>
    rw [List.foldl_cons]
    cases d with
    | inputJson more =>
      have hmore : (Delta.inputJson more).input? = some more := rfl
      rw [grow, ih, List.filterMap_cons_some hmore, concat_cons, String.append_assoc]
    | text _ | thinking _ | signature _ => exact ih s

theorem Growing.isCall_foldl_grow (ds : List Delta) (g : Growing) :
    (ds.foldl grow g).isCall = g.isCall := by
  induction ds generalizing g with
  | nil => rfl
  | cons d ds ih =>
    rw [List.foldl_cons, ih]
    cases g <;> cases d <;> rfl

/-! ## starts -/

/-- whether an event starts a block under an index, and not one that is passed over -/
def Event.starts (i : UInt32) : Event → Bool
  | .blockStart j b => j = i && (Growing.ofBlock? b).isSome
  | _ => false

/-- the growth that an event brings under an index -/
def Event.growth? (i : UInt32) : Event → Option Delta
  | .blockDelta j d => if j = i then some d else none
  | _ => none

/-- the growth that comes under an index -/
def growth (i : UInt32) (es : List Event) : List Delta := es.filterMap (Event.growth? i)

theorem mem_growth_iff {es : List Event} {i : UInt32} {d : Delta} :
    d ∈ growth i es ↔ .blockDelta i d ∈ es := by
  constructor
  · intro h
    obtain ⟨e, he, hgrowth⟩ := List.mem_filterMap.mp h
    cases e with
    | blockDelta j c =>
      by_cases hj : j = i
      · rw [Event.growth?, if_pos hj] at hgrowth
        obtain rfl := Option.some.inj hgrowth
        exact hj ▸ he
      · rw [Event.growth?, if_neg hj] at hgrowth
        exact nomatch hgrowth
    | messageStart _ | blockStart _ _ | blockStop _ | messageDelta _ _ | messageStop | ping
    | error _ => exact nomatch hgrowth
  · intro h
    exact List.mem_filterMap.mpr ⟨_, h, if_pos rfl⟩

theorem last_start (i : UInt32) (es : List Event) :
    (∃ past b g later, es = past ++ .blockStart i b :: later ∧ Growing.ofBlock? b = some g ∧
      ∀ e ∈ later, e.starts i = false) ∨ ∀ e ∈ es, e.starts i = false := by
  induction es using List.reverseRecOn with
  | nil => exact .inr nofun
  | append_singleton es e ih =>
    by_cases he : e.starts i = true
    · cases e with
      | blockStart j b =>
        obtain ⟨hj, hb⟩ := Bool.and_eq_true_iff.mp he
        obtain rfl := of_decide_eq_true hj
        obtain ⟨g, hg⟩ := Option.isSome_iff_exists.mp hb
        exact .inl ⟨es, b, g, [], rfl, hg, nofun⟩
      | messageStart _ | blockDelta _ _ | blockStop _ | messageDelta _ _ | messageStop | ping
      | error _ => exact nomatch he
    · -- the event is behind the last start, if there is one
      have hsnoc : ∀ {fs : List Event}, (∀ x ∈ fs, x.starts i = false) →
          ∀ x ∈ fs ++ [e], x.starts i = false := by
        intro fs hfs x hx
        rcases List.mem_append.mp hx with hx | hx
        · exact hfs x hx
        · rw [List.mem_singleton.mp hx]
          exact Bool.eq_false_iff.mpr he
      rcases ih with ⟨past, b, g, later, rfl, hg, hlater⟩ | hnone
      · exact .inl ⟨past, b, g, later ++ [e], by simp, hg, hsnoc hlater⟩
      · exact .inr (hsnoc hnone)

section

variable {i : UInt32}

theorem foldl_next {es : List Event} (h : ∀ e ∈ es, e.starts i = false) (g : Option Growing) :
    (about i es).foldl Growing.next g = (growth i es).foldl Growing.join g := by
  induction es generalizing g with
  | nil => rfl
  | cons e es ih =>
    have hes := ih fun x hx => h x (List.mem_cons_of_mem _ hx)
    cases e with
    | blockDelta j d =>
      by_cases hj : j = i
      · have hjoin := hes (Growing.join g d)
        simpa [about, growth, Event.block?, Event.growth?, hj, Growing.next] using hjoin
      · simpa [about, growth, Event.block?, Event.growth?, hj] using hes g
    | blockStart j b =>
      have hgrowth : growth i (.blockStart j b :: es) = growth i es := rfl
      have hstart := h (.blockStart j b) List.mem_cons_self
      -- a block that is passed over, or one under another index
      rw [hgrowth, ← hes g]
      by_cases hj : j = i
      · have hb : Growing.ofBlock? b = none := by simpa [Event.starts, hj] using hstart
        simp [about, Event.block?, hj, Growing.next, hb]
      · simp [about, Event.block?, hj]
    | messageStart _ | blockStop _ | messageDelta _ _ | messageStop | ping | error _ => exact hes g

theorem foldl_join_some (ds : List Delta) (g : Growing) :
    ds.foldl Growing.join (some g) = some (ds.foldl Growing.grow g) := by
  induction ds generalizing g with
  | nil => rfl
  | cons d ds ih => exact ih (g.grow d)

theorem standing_of_last {past later : List Event} {b : Block} {g : Growing}
    (hb : Growing.ofBlock? b = some g) (h : ∀ e ∈ later, e.starts i = false) :
    standing (about i (past ++ .blockStart i b :: later))
      = some ((growth i later).foldl Growing.grow g) := by
  have habout : about i (past ++ .blockStart i b :: later)
      = about i past ++ .blockStart i b :: about i later := by
    simp [about, Event.block?]
  rw [habout, standing, List.foldl_append, List.foldl_cons, Growing.next, hb, Option.some_or,
    foldl_next h, foldl_join_some]

/-- where no block has started, the first growth implies one -/
theorem standing_of_never {es : List Event} (h : ∀ e ∈ es, e.starts i = false) {d : Delta}
    {ds : List Delta} (hfirst : growth i es = d :: ds) :
    standing (about i es) = some ((growth i es).foldl Growing.grow (.ofDelta d)) := by
  rw [standing, foldl_next h, hfirst]
  exact foldl_join_some ds _

theorem standing_of_nothing {es : List Event} (h : ∀ e ∈ es, e.starts i = false)
    (hnone : growth i es = []) : standing (about i es) = none := by
  rw [standing, foldl_next h, hnone]
  rfl

/-- a block that has started stands with all its growth -/
theorem standing_of_start {b : Block} {g : Growing} (hb : Growing.ofBlock? b = some g)
    (ds : List Delta) :
    standing (.blockStart i b :: ds.map (.blockDelta i)) = some (ds.foldl Growing.grow g) := by
  have habout : about i (.blockStart i b :: ds.map (.blockDelta i))
      = .blockStart i b :: ds.map (.blockDelta i) := by
    simp [about, Event.block?]
  have hgrowth : growth i (ds.map (.blockDelta i)) = ds := by
    simp [growth, Event.growth?, List.filterMap_map, Function.comp_def]
  have hnone : ∀ e ∈ ds.map (Event.blockDelta i), e.starts i = false := by
    intro e he
    obtain ⟨d, -, rfl⟩ := List.mem_map.mp he
    rfl
  have hlast : standing (about i ([] ++ .blockStart i b :: ds.map (.blockDelta i))) = _ :=
    standing_of_last hb hnone
  rw [List.nil_append, habout, hgrowth] at hlast
  exact hlast

end

end ChatRelay.Anthropic
