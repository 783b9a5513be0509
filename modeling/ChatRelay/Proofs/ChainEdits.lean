import ChatRelay.Proofs.Configured
import Mathlib.Data.List.DropRight
import Mathlib.Data.List.Induction
import Mathlib.Data.List.Nodup
import Mathlib.Data.Option.Basic

/-!
# What stands in a chain

Decorators are registered and removed in any order and any number of times.  What stands in the
chain then is told by the edits alone: under every name the decorator that was registered last,
unless the name was removed since, and the names in the order in which they came in to stay.

* `held`, `age`          what edits say of a name;
* `Describes`            the list of decorators that edits describe;
* `Describes.edit`       one edit more;
* `describes_iff_after`  the chain holds that list and no other.
-/

namespace ChatRelay
namespace Chain

/-- what may be done with a chain -/
inductive Edit where
  | register (d : Decorator)
  | remove (name : String)

/-- what an edit answers, if anything, and the chain behind it -/
def edit (c : Chain) : Edit → Option Bool × Chain
  | .register d => (none, c.register d)
  | .remove name => (some (c.removes name), c.remove name)

/-- the chain behind a list of edits -/
def after (c : Chain) (edits : List Edit) : Chain := edits.foldl (fun c e => (c.edit e).2) c

/-! ## what edits say -/

/-- the name that an edit is about -/
def Edit.name : Edit → String
  | .register d => d.name
  | .remove name => name

/-- the decorator that an edit leaves under its name -/
def Edit.decorator? : Edit → Option Decorator
  | .register d => some d
  | .remove _ => none

/-- whether an edit brings a name in -/
def Edit.brings (name : String) (e : Edit) : Bool := e.name = name && e.decorator?.isSome

/-- whether an edit takes a name out -/
def Edit.takes (name : String) (e : Edit) : Bool := e.name = name && e.decorator?.isNone

/-- the decorator that was registered last under a name, unless the name was removed since -/
def held (edits : List Edit) (name : String) : Option Decorator :=
  (edits.reverse.find? (·.name = name)).bind Edit.decorator?

/-- how many edits there were since a name came in to stay, with the one that brought it; none where
it does not stand -/
def age (edits : List Edit) (name : String) : Nat :=
  ((edits.rtakeWhile (!·.takes name)).dropWhile (!·.brings name)).length

/-- the decorators that edits describe: one for every name that stands, the oldest name first -/
structure Describes (edits : List Edit) (ds : List Decorator) : Prop where
  distinct : (ds.map (·.name)).Nodup
  held : ∀ name, ds.find? (·.name = name) = held edits name
  ordered : (ds.map (·.name)).Pairwise fun a b => age edits b < age edits a

theorem after_snoc (c : Chain) (edits : List Edit) (e : Edit) :
    c.after (edits ++ [e]) = ((c.after edits).edit e).2 := by
  rw [after, List.foldl_append]
  rfl

theorem after_append (c : Chain) (edits more : List Edit) :
    c.after (edits ++ more) = (c.after edits).after more := List.foldl_append

theorem held_snoc (edits : List Edit) (e : Edit) (name : String) :
    held (edits ++ [e]) name = if e.name = name then e.decorator? else held edits name := by
  rw [held, List.reverse_append, List.reverse_singleton, List.singleton_append, List.find?_cons]
  by_cases h : e.name = name
  · simp [h]
  · simp [h, held]

theorem age_snoc (edits : List Edit) (e : Edit) (name : String) : age (edits ++ [e]) name
    = if e.takes name then 0
      else if e.brings name ∨ 0 < age edits name then age edits name + 1 else 0 := by
  rw [age, List.rtakeWhile_concat]
  cases htakes : e.takes name with
  | true => rfl
  | false =>
    simp only [Bool.not_false, if_true, Bool.false_eq_true, if_false]
    rw [List.dropWhile_append]
    cases hold : (edits.rtakeWhile (!·.takes name)).dropWhile (!·.brings name) with
    | nil =>
      cases hbrings : e.brings name <;> simp [age, hold, hbrings]
    | cons x xs => simp [age, hold]

section

variable {edits : List Edit} {e : Edit} {name : String}

theorem age_standing (hstands : 0 < age edits name) (he : e.takes name = false) :
    age (edits ++ [e]) name = age edits name + 1 := by
  rw [age_snoc, he, if_neg Bool.false_ne_true, if_pos (.inr hstands)]

theorem age_register (edits : List Edit) (d : Decorator) :
    age (edits ++ [.register d]) d.name = age edits d.name + 1 := by
  have htakes : (Edit.register d).takes d.name = false := by simp [Edit.takes, Edit.decorator?]
  have hbrings : (Edit.register d).brings d.name = true := by
    simp [Edit.brings, Edit.name, Edit.decorator?]
  rw [age_snoc, htakes, if_neg Bool.false_ne_true, if_pos (.inl hbrings)]

theorem age_remove (edits : List Edit) (name : String) :
    age (edits ++ [.remove name]) name = 0 := by
  have htakes : (Edit.remove name).takes name = true := by
    simp [Edit.takes, Edit.name, Edit.decorator?]
  rw [age_snoc, if_pos htakes]

theorem age_of_ne (h : e.name ≠ name) :
    age (edits ++ [e]) name = if 0 < age edits name then age edits name + 1 else 0 := by
  have htakes : e.takes name = false := by simp [Edit.takes, h]
  have hbrings : e.brings name = false := by simp [Edit.brings, h]
  simp only [age_snoc, htakes, hbrings, Bool.false_eq_true, if_false, false_or]

/-- a name stands where it holds a decorator -/
theorem age_pos_iff (edits : List Edit) (name : String) :
    0 < age edits name ↔ (held edits name).isSome = true := by
  induction edits using List.reverseRecOn with
  | nil => exact ⟨nofun, nofun⟩
  | append_singleton edits e ih =>
    rw [held_snoc]
    by_cases h : e.name = name
    · subst h
      rw [if_pos rfl]
      cases e with
      | register d => exact ⟨fun _ => rfl, fun _ => age_register edits d ▸ Nat.succ_pos _⟩
      | remove name =>
        rw [Edit.name, age_remove]
        exact ⟨nofun, nofun⟩
    · rw [age_of_ne h, if_neg h, ← ih]
      split <;> omega

end

/-! ## the chain, one edit more -/

theorem names_put (d : Decorator) (ds : List Decorator) : (put d ds).map (·.name)
    = if d.name ∈ ds.map (·.name) then ds.map (·.name) else ds.map (·.name) ++ [d.name] := by
  induction ds with
  | nil => rfl
  | cons x xs ih =>
    rw [put]
    by_cases h : x.name = d.name
    · simp [h]
    · rw [if_neg h, List.map_cons, ih]
      have hne : d.name ≠ x.name := fun heq => h heq.symm
      by_cases hmem : d.name ∈ xs.map (·.name)
      · rw [if_pos hmem, List.map_cons, if_pos (List.mem_cons_of_mem _ hmem)]
      · rw [if_neg hmem, List.map_cons, if_neg (by simpa [hne] using hmem), List.cons_append]

theorem find?_put (d : Decorator) (ds : List Decorator) (name : String) :
    (put d ds).find? (·.name = name)
      = if d.name = name then some d else ds.find? (·.name = name) := by
  induction ds with
  | nil => by_cases h : d.name = name <;> simp [put, h]
  | cons x xs ih =>
    rw [put]
    by_cases hx : x.name = d.name
    · by_cases h : d.name = name <;> simp [hx, h]
    · by_cases h : d.name = name
      · have hne : x.name ≠ name := fun heq => hx (heq.trans h.symm)
        simp [hne, ih, h]
      · simp [hx, h, ih, List.find?_cons]

theorem names_remove (c : Chain) (name : String) :
    (c.remove name).names = c.names.filter (· ≠ name) := by
  rw [names, names, List.filter_map]
  rfl

theorem find?_remove (c : Chain) (n name : String) : (c.remove n).find? name
    = if n = name then none else c.find? name := by
  rw [find?, find?, remove, List.find?_filter]
  by_cases h : n = name
  · subst h
    simp
  · rw [if_neg h]
    congr 1
    funext d
    by_cases hd : d.name = name <;> simp [hd, Ne.symm h]

/-- a removal leaves a chain shorter where the name stood in it -/
theorem removes_eq_has (c : Chain) (name : String) : c.removes name = c.has name := by
  rw [Bool.eq_iff_iff, removes, decide_eq_true_iff, remove, Ne, List.length_filter_eq_length_iff,
    has, decide_eq_true_iff, names, List.mem_map]
  simp

namespace Describes

variable {edits : List Edit} {ds : List Decorator} {c : Chain}

theorem nil : Describes [] [] := ⟨.nil, fun _ => rfl, .nil⟩

theorem mem_names_iff (h : Describes edits ds) (name : String) :
    name ∈ ds.map (·.name) ↔ 0 < age edits name := by
  rw [age_pos_iff, ← h.held, List.find?_isSome, List.mem_map]
  simp

/-- names that stay keep their order -/
theorem ordered_keep (h : Describes edits ds) {e : Edit} {names : List String}
    (hsub : names.Sublist (ds.map (·.name))) (hstay : ∀ name ∈ names, e.takes name = false) :
    names.Pairwise fun a b => age (edits ++ [e]) b < age (edits ++ [e]) a := by
  have hage : ∀ name ∈ names, age (edits ++ [e]) name = age edits name + 1 := by
    intro name hname
    exact age_standing ((h.mem_names_iff name).mp (hsub.subset hname)) (hstay name hname)
  refine (h.ordered.sublist hsub).imp_of_mem fun {a b} ha hb hlt => ?_
  rw [hage a ha, hage b hb]
  exact Nat.succ_lt_succ hlt

theorem register (h : Describes edits c.decorators) (d : Decorator) :
    Describes (edits ++ [.register d]) (c.register d).decorators where
  distinct := by
    show ((put d c.decorators).map (·.name)).Nodup
    rw [names_put]
    split
    · exact h.distinct
    · next hnew => simpa [List.nodup_append] using ⟨h.distinct, by simpa using hnew⟩
  held := by
    intro name
    show (put d c.decorators).find? _ = _
    rw [find?_put, held_snoc, h.held]
    rfl
  ordered := by
    have hstay : ∀ name ∈ c.names, (Edit.register d).takes name = false := by
      intro name _
      simp [Edit.takes, Edit.decorator?]
    have hkept := h.ordered_keep (List.Sublist.refl _) hstay
    show ((put d c.decorators).map (·.name)).Pairwise _
    rw [names_put]
    split
    · exact hkept
    · next hnew =>
      refine List.pairwise_append.mpr ⟨hkept, List.pairwise_singleton _ _, ?_⟩
      intro a ha b hb
      have hstands : 0 < age edits a := (h.mem_names_iff a).mp ha
      have hage : age edits d.name = 0 := by
        have := (h.mem_names_iff d.name).not.mp hnew
        omega
      rw [List.mem_singleton.mp hb, age_register, hage, age_standing hstands (hstay a ha)]
      omega

theorem remove (h : Describes edits c.decorators) (name : String) :
    Describes (edits ++ [.remove name]) (c.remove name).decorators where
  distinct := by
    show (c.remove name).names.Nodup
    rw [names_remove]
    exact h.distinct.filter _
  held := by
    intro other
    show (c.remove name).find? other = _
    rw [find?_remove, held_snoc, ← h.held]
    rfl
  ordered := by
    show (c.remove name).names.Pairwise _
    rw [names_remove]
    refine h.ordered_keep List.filter_sublist fun other hother => ?_
    have hne : other ≠ name := by simpa using (List.mem_filter.mp hother).2
    simp [Edit.takes, Edit.name, hne.symm]

theorem edit (h : Describes edits c.decorators) (e : Edit) :
    Describes (edits ++ [e]) (c.edit e).2.decorators := by
  cases e with
  | register d => exact h.register d
  | remove name => exact h.remove name

theorem find?_of_mem (h : Describes edits ds) {d : Decorator} (hd : d ∈ ds) :
    ds.find? (·.name = d.name) = some d := by
  have hsome : (ds.find? (·.name = d.name)).isSome := by
    rw [List.find?_isSome]
    exact ⟨d, hd, decide_eq_true rfl⟩
  obtain ⟨x, hx⟩ := Option.isSome_iff_exists.mp hsome
  have hname : x.name = d.name := by simpa using List.find?_some hx
  rw [hx, List.inj_on_of_nodup_map h.distinct (List.mem_of_find?_eq_some hx) hd hname]

/-- the names and what they hold make up the list -/
theorem map_some (h : Describes edits ds) :
    ds.map some = (ds.map (·.name)).map (Chain.held edits) := by
  rw [List.map_map]
  refine List.map_congr_left fun d hd => ?_
  rw [Function.comp_apply, ← h.held, h.find?_of_mem hd]

/-- edits describe one list only -/
theorem unique {ds' : List Decorator} (h : Describes edits ds) (h' : Describes edits ds') :
    ds = ds' := by
  have hperm : (ds.map (·.name)).Perm (ds'.map (·.name)) := by
    rw [List.perm_ext_iff_of_nodup h.distinct h'.distinct]
    intro name
    rw [h.mem_names_iff, h'.mem_names_iff]
  have hnames : ds.map (·.name) = ds'.map (·.name) :=
    hperm.eq_of_pairwise (fun _ _ _ _ hab hba => absurd hba (Nat.lt_asymm hab)) h.ordered h'.ordered
  have hsome : ds.map some = ds'.map some := by rw [h.map_some, h'.map_some, hnames]
  exact List.map_injective_iff.mpr (Option.some_injective _) hsome

end Describes

theorem describes_after (edits : List Edit) :
    Describes edits (({} : Chain).after edits).decorators := by
  -- by induction on the edits, the last one first
  induction edits using List.reverseRecOn with
  | nil => exact Describes.nil
  | append_singleton edits e ih =>
    rw [after_snoc]
    exact ih.edit e

/-- settings register their decorators and nothing else -/
theorem after_ofSettings (s : DecoratorSettings) (edits : List Edit) :
    (ofSettings s).after edits = ({} : Chain).after (s.decorators.map .register ++ edits) := by
  have hstart : ofSettings s = ({} : Chain).after (s.decorators.map .register) := by
    rw [after, List.foldl_map]
    rfl
  rw [after_append, hstart]

/-- **A chain is what its edits describe.**  Behind any edits of an empty chain, one list of
decorators is described by them, and it is what stands in the chain.  Registering a decorator whose
name stands leaves the names as they are, any other goes last; a removal keeps the order of the
others, and answers whether the name stood.  Chains of settings are among these. -/
theorem describes_iff_after (edits : List Edit) :
    let c := ({} : Chain).after edits
    (∀ ds, Describes edits ds ↔ ds = c.decorators) ∧
    (∀ d, (c.edit (.register d)).2.names
      = if d.name ∈ c.names then c.names else c.names ++ [d.name]) ∧
    (∀ name, (c.edit (.remove name)).2.names = c.names.filter (· ≠ name)) ∧
    (∀ name, (c.edit (.remove name)).1 = some (c.has name)) ∧
    ∀ s more, (ofSettings s).after more
      = ({} : Chain).after (s.decorators.map .register ++ more) := by
  intro c
  refine ⟨fun ds => ⟨fun h => h.unique (describes_after edits), ?_⟩, fun d => ?_, fun name => ?_,
    fun name => ?_, after_ofSettings⟩
  · rintro rfl
    exact describes_after edits
  · exact names_put d c.decorators
  · exact names_remove c name
  · exact congrArg some (removes_eq_has c name)

/-- a name that comes in again goes last, and a change of bounds keeps its place -/
example : (({} : Chain).after [.register .streamUsage, .register (.maxTokensCap 5),
    .register (.defaultMaxTokens 3), .remove "stream_usage", .register .streamUsage,
    .register (.maxTokensCap 7)]).names
      = ["max_tokens_cap", "default_max_tokens", "stream_usage"] := by
  decide

end Chain
end ChatRelay
