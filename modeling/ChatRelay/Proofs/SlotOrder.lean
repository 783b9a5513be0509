import ChatRelay.Slots
import Mathlib.Data.List.Induction

/-!
# Slots in order

Where a number stands in slots decides what an update does: behind all others it is appended, in
the middle only the thing under it changes.

* `update_append`     a number above all others;
* `update_middle`     a number that is there;
* `split_of_find?`    where the thing stands that a look-up finds;
* `eq_of_find?`       slots in order are known from what look-ups find in them;
* `map_update`        a projection of all things that an update commutes with;
* `find?_gather`      what is gathered under a number, from the things of that number alone;
* `numbered`          the things of a list under their places.
-/

namespace ChatRelay.Slots

variable {β : Type}

theorem values_append (s t : Slots β) : values (s ++ t) = values s ++ values t :=
  List.map_append

theorem update_append {k : UInt32} (f : Option β → β) {s : Slots β} (h : ∀ p ∈ s, p.1 < k) :
    update k f s = s ++ [(k, f none)] := by
  induction s with
  | nil => rfl
  | cons p s ih =>
    have hp : p.1 < k := h p List.mem_cons_self
    rw [update, if_neg (UInt32.not_lt.mpr (UInt32.le_of_lt hp)), if_neg (UInt32.ne_of_lt hp).symm,
      ih fun q hq => h q (List.mem_cons_of_mem _ hq)]
    rfl

theorem update_middle {k : UInt32} (f : Option β → β) {xs ys : Slots β} {b : β}
    (h : Sorted (xs ++ (k, b) :: ys)) :
    update k f (xs ++ (k, b) :: ys) = xs ++ (k, f (some b)) :: ys := by
  induction xs with
  | nil =>
    rw [List.nil_append, List.nil_append, update, if_neg (UInt32.lt_irrefl k), if_pos rfl]
  | cons p xs ih =>
    obtain ⟨hp, hs⟩ := List.pairwise_cons.mp h
    have hk : p.1 < k := hp (k, b) (by simp)
    rw [List.cons_append, update, if_neg (UInt32.not_lt.mpr (UInt32.le_of_lt hk)),
      if_neg (UInt32.ne_of_lt hk).symm, ih hs]
    rfl

theorem split_of_find? {k : UInt32} {s : Slots β} {b : β} (h : find? k s = some b) :
    ∃ xs ys, s = xs ++ (k, b) :: ys := by
  induction s with
  | nil => simp [find?] at h
  | cons p s ih =>
    rw [find?] at h
    split at h
    · next hk =>
      obtain rfl := Option.some.inj h
      exact ⟨[], s, by rw [hk]; rfl⟩
    · obtain ⟨xs, ys, rfl⟩ := ih h
      exact ⟨p :: xs, ys, rfl⟩

theorem find?_eq_none_iff {k : UInt32} {s : Slots β} :
    find? k s = none ↔ ∀ p ∈ s, p.1 ≠ k := by
  induction s with
  | nil => simp [find?]
  | cons p s ih =>
    rw [find?]
    split
    · next hk => simp [hk]
    · next hk => simp [ih, Ne.symm hk]

theorem mem_of_find? {k : UInt32} {s : Slots β} {b : β} (h : find? k s = some b) :
    (k, b) ∈ s := by
  obtain ⟨xs, ys, rfl⟩ := split_of_find? h
  simp

theorem find?_of_mem {k : UInt32} {s : Slots β} {b : β} (hs : Sorted s) (h : (k, b) ∈ s) :
    find? k s = some b := by
  induction s with
  | nil => exact nomatch h
  | cons p s ih =>
    obtain ⟨hp, hs'⟩ := List.pairwise_cons.mp hs
    rcases List.mem_cons.mp h with rfl | hmem
    · exact if_pos rfl
    · have hne : k ≠ p.1 := (UInt32.ne_of_lt (hp (k, b) hmem)).symm
      rw [find?, if_neg hne]
      exact ih hs' hmem

/-- two lists in strictly ascending order with the same members are the same -/
theorem eq_of_mem_iff {s t : Slots β} (hs : Sorted s) (ht : Sorted t) (h : ∀ p, p ∈ s ↔ p ∈ t) :
    s = t := by
  have hirrefl : ∀ {p q : UInt32 × β}, p.1 < q.1 → q.1 < p.1 → p = q := fun hpq hqp =>
    absurd (UInt32.lt_trans hpq hqp) (UInt32.lt_irrefl _)
  have hnodup : ∀ {u : Slots β}, Sorted u → u.Nodup := fun hu =>
    hu.imp fun hlt heq => UInt32.ne_of_lt hlt (congrArg Prod.fst heq)
  have hperm : s.Perm t := (List.perm_ext_iff_of_nodup (hnodup hs) (hnodup ht)).mpr h
  exact hperm.eq_of_pairwise (fun _ _ _ _ => hirrefl) hs ht

theorem eq_of_find? {s t : Slots β} (hs : Sorted s) (ht : Sorted t)
    (h : ∀ k, find? k s = find? k t) : s = t := by
  refine eq_of_mem_iff hs ht fun p => ?_
  constructor
  · intro hp
    exact mem_of_find? ((h p.1).symm.trans (find?_of_mem hs hp))
  · intro hp
    exact mem_of_find? ((h p.1).trans (find?_of_mem ht hp))

theorem sorted_of_keys {s t : Slots β} (h : s.map (·.1) = t.map (·.1)) (ht : Sorted t) :
    Sorted s := by
  have hs := List.pairwise_map.mpr ht
  rw [← h] at hs
  exact List.pairwise_map.mp hs

theorem length_le_of_lt {s : Slots β} {k : UInt32} (hs : Sorted s)
    (h : ∀ p ∈ s, p.1 < k) : s.length ≤ k.toNat := by
  induction s using List.reverseRecOn generalizing k with
  | nil => exact Nat.zero_le _
  | append_singleton s p ih =>
    obtain ⟨hs, -, hlast⟩ := List.pairwise_append.mp hs
    have hlt : p.1.toNat < k.toNat := UInt32.lt_iff_toNat_lt.mp (h p (by simp))
    have hle := ih hs fun q hq => hlast q hq p (List.mem_singleton_self p)
    rw [List.length_append, List.length_singleton]
    omega

/-- an update, seen through a projection of the things it acts on -/
theorem map_update {γ : Type} (g : β → γ) {f : Option β → β} {f' : Option γ → γ}
    (h : ∀ o, g (f o) = f' (o.map g)) (k : UInt32) (s : Slots β) :
    (update k f s).map (fun p => (p.1, g p.2)) = update k f' (s.map fun p => (p.1, g p.2)) := by
  induction s with
  | nil =>
    show [(k, g (f none))] = [(k, f' none)]
    rw [h none]
    rfl
  | cons p s ih =>
    rw [update, List.map_cons, update]
    split
    · rw [List.map_cons, List.map_cons, h none]
      rfl
    · split
      · rw [List.map_cons, h (some p.2)]
        rfl
      · rw [List.map_cons, ih]

/-! ## things gathered under their numbers -/

section

variable {α : Type} {number : α → UInt32} {join : α → Option β → β}

/-- slots with things joined to them one after the other, each under its number -/
def gather (number : α → UInt32) (join : α → Option β → β) (s : Slots β) (xs : List α) : Slots β :=
  xs.foldl (fun s x => update (number x) (join x) s) s

theorem gather_append (s : Slots β) (xs ys : List α) :
    gather number join s (xs ++ ys) = gather number join (gather number join s xs) ys :=
  List.foldl_append

theorem sorted_gather {s : Slots β} (hs : Sorted s) (xs : List α) :
    Sorted (gather number join s xs) := by
  induction xs generalizing s with
  | nil => exact hs
  | cons x xs ih => exact ih (sorted_update hs)

theorem find?_gather {s : Slots β} (hs : Sorted s) (xs : List α) (k : UInt32) :
    find? k (gather number join s xs)
      = (xs.filter (number · = k)).foldl (fun o x => some (join x o)) (find? k s) := by
  induction xs generalizing s with
  | nil => rfl
  | cons x xs ih =>
    refine (ih (sorted_update hs)).trans ?_
    by_cases hx : number x = k
    · have hfilter : (x :: xs).filter (number · = k) = x :: xs.filter (number · = k) :=
        List.filter_cons_of_pos (decide_eq_true hx)
      rw [hfilter, List.foldl_cons, ← hx, find?_update_self _ _ hs]
    · have hfilter : (x :: xs).filter (number · = k) = xs.filter (number · = k) :=
        List.filter_cons_of_neg (by simpa using hx)
      rw [hfilter, find?_update_of_ne _ (Ne.symm hx)]

/-- under a number nothing is found exactly where no thing has it -/
theorem find?_gather_eq_none_iff (xs : List α) (k : UInt32) :
    find? k (gather number join [] xs) = none ↔ ∀ x ∈ xs, number x ≠ k := by
  have hfind : find? k (gather number join [] xs)
      = (xs.filter (number · = k)).foldl (fun o x => some (join x o)) none :=
    find?_gather List.Pairwise.nil xs k
  rw [hfind]
  cases hown : xs.filter (number · = k) using List.reverseRecOn with
  | nil =>
    rw [List.filter_eq_nil_iff] at hown
    exact iff_of_true rfl fun x hx => by simpa using hown x hx
  | append_singleton ys y =>
    rw [List.foldl_append]
    refine iff_of_false (Option.some_ne_none _) fun hnot => ?_
    have hy : y ∈ xs.filter (number · = k) := by rw [hown]; simp
    obtain ⟨hmem, hk⟩ := List.mem_filter.mp hy
    exact hnot y hmem (of_decide_eq_true hk)

theorem exists_mem_gather_iff (join : α → Option β → β) (xs : List α) (k : UInt32) :
    (∃ p ∈ gather number join [] xs, p.1 = k) ↔ ∃ x ∈ xs, number x = k := by
  have h : (∀ p ∈ gather number join [] xs, p.1 ≠ k) ↔ ∀ x ∈ xs, number x ≠ k :=
    find?_eq_none_iff.symm.trans (find?_gather_eq_none_iff xs k)
  simpa only [not_forall, not_not, exists_prop] using not_congr h

theorem gather_eq_nil_iff (xs : List α) : gather number join [] xs = [] ↔ xs = [] := by
  cases xs using List.reverseRecOn with
  | nil => exact iff_of_true rfl rfl
  | append_singleton xs x =>
    rw [gather_append]
    exact iff_of_false (update_ne_nil _ _ _) (List.append_ne_nil_of_right_ne_nil _ (by simp))

theorem find?_filter (keep : UInt32 → Bool) (s : Slots β) (k : UInt32) :
    find? k (s.filter fun p => keep p.1) = if keep k then find? k s else none := by
  induction s with
  | nil => rw [List.filter_nil, find?, ite_self]
  | cons p s ih =>
    rw [List.filter_cons]
    by_cases hk : k = p.1
    · subst hk
      cases hp : keep p.1 with
      | true => simp only [if_true, find?]
      | false =>
        rw [if_neg Bool.false_ne_true, ih, hp]
        rfl
    · rw [find?, if_neg hk, ← ih]
      cases hp : keep p.1 with
      | true => exact if_neg hk
      | false => rfl

/-- what is gathered under some numbers comes from the things of these numbers -/
theorem filter_gather (keep : UInt32 → Bool) (xs : List α) :
    (gather number join [] xs).filter (fun p => keep p.1)
      = gather number join [] (xs.filter fun x => keep (number x)) := by
  have hnil : Sorted ([] : Slots β) := List.Pairwise.nil
  refine eq_of_find? ((sorted_gather hnil xs).filter _) (sorted_gather hnil _) fun k => ?_
  rw [find?_filter, find?_gather hnil, find?_gather hnil, List.filter_filter]
  cases hk : keep k with
  | true =>
    have hsame : xs.filter (fun x => decide (number x = k) && keep (number x))
        = xs.filter (number · = k) := by
      refine List.filter_congr fun x _ => ?_
      by_cases hx : number x = k
      · rw [hx, hk, Bool.and_true]
      · rw [decide_eq_false hx, Bool.false_and]
    rw [hsame]
    rfl
  | false =>
    have hnone : xs.filter (fun x => decide (number x = k) && keep (number x)) = [] := by
      refine List.filter_eq_nil_iff.mpr fun x _ => ?_
      by_cases hx : number x = k
      · rw [hx, hk, Bool.and_false]
        exact Bool.false_ne_true
      · rw [decide_eq_false hx, Bool.false_and]
        exact Bool.false_ne_true
    rw [hnone]
    rfl

end

/-! ## lists as slots -/

/-- the things of a list under their places, from 0 -/
def numbered (xs : List β) : Slots β := xs.mapIdx fun k x => (UInt32.ofNat k, x)

theorem values_numbered (xs : List β) : (numbered xs).values = xs := by
  refine List.ext_getElem? fun k => ?_
  rw [values, List.getElem?_map, numbered, List.getElem?_mapIdx, Option.map_map]
  exact Option.map_id'

variable {xs : List β}

theorem sorted_numbered (h : xs.length ≤ UInt32.size) : Sorted (numbered xs) := by
  refine List.pairwise_iff_getElem.mpr fun j k hj hk hjk => ?_
  rw [numbered, List.length_mapIdx] at hk
  simp only [numbered, List.getElem_mapIdx]
  rw [UInt32.lt_iff_toNat_lt, UInt32.toNat_ofNat_of_lt' (by omega),
    UInt32.toNat_ofNat_of_lt' (by omega)]
  exact hjk

theorem find?_numbered (h : xs.length ≤ UInt32.size) (i : UInt32) :
    find? i (numbered xs) = xs[i.toNat]? := by
  cases hx : xs[i.toNat]? with
  | some x =>
    have hi : (numbered xs)[i.toNat]? = some (i, x) := by
      rw [numbered, List.getElem?_mapIdx, hx, Option.map_some, UInt32.ofNat_toNat]
    exact find?_of_mem (sorted_numbered h) (List.mem_of_getElem? hi)
  | none =>
    refine find?_eq_none_iff.mpr fun p hp hpi => ?_
    obtain ⟨k, hk, rfl⟩ := List.mem_mapIdx.mp hp
    rw [← hpi, UInt32.toNat_ofNat_of_lt' (by omega), List.getElem?_eq_getElem hk] at hx
    exact nomatch hx

end ChatRelay.Slots
