/-!
# Numbered slots

Things that arrive under numbers, in any order, kept in ascending order of their numbers.

* `update`     sets the thing under a number, given the one that was there;
* `find?`      the thing under a number;
* `sorted_update`   the numbers stay ascending.
-/

namespace ChatRelay

/-- things under numbers -/
abbrev Slots (β : Type) := List (UInt32 × β)

namespace Slots

variable {β : Type}

/-- the slots with the one under `k` set to what `f` makes of the present one -/
def update (k : UInt32) (f : Option β → β) : Slots β → Slots β
  | [] => [(k, f none)]
  | (i, b) :: rest =>
    if k < i then (k, f none) :: (i, b) :: rest
    else if k = i then (k, f (some b)) :: rest
    else (i, b) :: update k f rest

/-- the thing under a number -/
def find? (k : UInt32) : Slots β → Option β
  | [] => none
  | (i, b) :: rest => if k = i then some b else find? k rest

/-- the things in ascending order of their numbers -/
def values (s : Slots β) : List β := s.map (·.2)

/-- numbers in strictly ascending order -/
def Sorted (s : Slots β) : Prop := s.Pairwise (·.1 < ·.1)

theorem update_ne_nil (k : UInt32) (f : Option β → β) (s : Slots β) : update k f s ≠ [] := by
  fun_cases update k f s <;> exact List.cons_ne_nil _ _

theorem mem_update_fst {k i : UInt32} {f : Option β → β} {s : Slots β}
    (h : i ∈ (update k f s).map (·.1)) : i = k ∨ i ∈ s.map (·.1) := by
  induction s with
  | nil => simpa [update] using h
  | cons p s ih =>
    obtain ⟨j, b⟩ := p
    rw [update] at h
    split at h
    · simpa using h
    · split at h
      · next e => simp only [List.map_cons, List.mem_cons] at h ⊢; exact h.imp id .inr
      · simp only [List.map_cons, List.mem_cons] at h ⊢
        rcases h with h | h
        · exact .inr (.inl h)
        · exact (ih h).imp id .inr

theorem sorted_update {k : UInt32} {f : Option β → β} {s : Slots β} (h : Sorted s) :
    Sorted (update k f s) := by
  induction s with
  | nil => simp [update, Sorted]
  | cons p s ih =>
    obtain ⟨j, b⟩ := p
    simp only [Sorted, List.pairwise_cons] at h
    rw [update]
    split
    · next hk =>
      simp only [Sorted, List.pairwise_cons, List.mem_cons, forall_eq_or_imp]
      exact ⟨⟨hk, fun q hq => UInt32.lt_trans hk (h.1 q hq)⟩, h⟩
    · split
      · next hk =>
        subst hk
        simp only [Sorted, List.pairwise_cons]
        exact h
      · next hk hne =>
        have hj : j < k := UInt32.lt_of_le_of_ne (UInt32.not_lt.mp hk) (Ne.symm hne)
        simp only [Sorted, List.pairwise_cons]
        refine ⟨fun q hq => ?_, ih h.2⟩
        rcases mem_update_fst (List.mem_map_of_mem hq) with e | e
        · exact e ▸ hj
        · obtain ⟨r, hr, e⟩ := List.mem_map.mp e
          exact e ▸ h.1 r hr

theorem find?_update_self (k : UInt32) (f : Option β → β) {s : Slots β} (h : Sorted s) :
    find? k (update k f s) = some (f (find? k s)) := by
  induction s with
  | nil => simp [update, find?]
  | cons p s ih =>
    obtain ⟨j, b⟩ := p
    simp only [Sorted, List.pairwise_cons] at h
    rw [update]
    split
    · next hk =>
      have hne : k ≠ j := UInt32.ne_of_lt hk
      have hs : find? k s = none := by
        clear ih
        induction s with
        | nil => rfl
        | cons q s ihs =>
          have hq := h.1 q (by simp)
          rw [find?, if_neg (UInt32.ne_of_lt (UInt32.lt_trans hk hq))]
          exact ihs ⟨fun r hr => h.1 r (by simp [hr]), (List.pairwise_cons.mp h.2).2⟩
      simp [find?, hne, hs]
    · split
      · next hk => simp [find?, hk]
      · next hne => simp [find?, hne, ih h.2]

theorem find?_update_of_ne {k i : UInt32} (f : Option β → β) (hne : i ≠ k) (s : Slots β) :
    find? i (update k f s) = find? i s := by
  induction s with
  | nil => simp [update, find?, hne]
  | cons p s ih =>
    obtain ⟨j, b⟩ := p
    rw [update]
    split
    · simp [find?, hne]
    · split
      · next hk => subst hk; simp [find?, hne]
      · simp only [find?, ih]

end Slots
end ChatRelay
