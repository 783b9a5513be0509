import ChatRelay.Json.Record

/-!
# Canonical documents as records

A free-form value is canonical: nothing in it is unreadable, and no key of an object stands twice.
Read as a record, an object of this kind fails only on what stands in its fields.

* `Json.readable_of_canonical`   nothing in a canonical document is unreadable;
* `Record.ofJson_of_nodup`       fields without a repeated name are a record of any names;
* `Record.require_ok_iff`        when a field that must be there is read;
* `Record.getD_ok_iff`           when a field with a default is.
-/

namespace ChatRelay

namespace Json

mutual
theorem readable_of_canonical : (j : Json) → j.canonical = true → j.readable = true
  | .unreadable, h => by simp [canonical] at h
  | .null, _ | .bool _, _ | .text _, _ | .number _, _ => rfl
  | .array xs, h => by
    rw [canonical] at h
    rw [readable]
    exact readableItems_of_canonical xs h
  | .object fs, h => by
    rw [canonical, Bool.and_eq_true] at h
    rw [readable]
    exact readableFields_of_canonical fs h.2

theorem readableItems_of_canonical : (xs : List Json) → canonicalItems xs = true →
    readableItems xs = true
  | [], _ => rfl
  | x :: xs, h => by
    rw [canonicalItems, Bool.and_eq_true] at h
    rw [readableItems, readable_of_canonical x h.1, readableItems_of_canonical xs h.2]
    rfl

theorem readableFields_of_canonical : (fs : List (String × Json)) → canonicalFields fs = true →
    readableFields fs = true
  | [], _ => rfl
  | (_, v) :: fs, h => by
    rw [canonicalFields, Bool.and_eq_true] at h
    rw [readableFields, readable_of_canonical v h.1, readableFields_of_canonical fs h.2]
    rfl
end

theorem nodup_of_sortedKeys {fs : List (String × Json)} (h : sortedKeys fs = true) :
    (fs.map (·.1)).Nodup := by
  induction fs with
  | nil => exact List.nodup_nil
  | cons f fs ih =>
    obtain ⟨k, v⟩ := f
    simp only [sortedKeys, Bool.and_eq_true, List.all_eq_true, decide_eq_true_eq] at h
    rw [List.map_cons, List.nodup_cons]
    refine ⟨fun hk => ?_, ih h.2⟩
    obtain ⟨g, hg, heq⟩ := List.mem_map.mp hk
    have hlt : k < g.1 := h.1 g hg
    rw [heq] at hlt
    exact Std.lt_irrefl hlt

theorem lookup_eq_some_iff_mem {fs : List (String × Json)} (h : (fs.map (·.1)).Nodup)
    (k : String) (v : Json) : fs.lookup k = some v ↔ (k, v) ∈ fs := by
  induction fs with
  | nil => simp
  | cons f fs ih =>
    obtain ⟨l, w⟩ := f
    rw [List.map_cons, List.nodup_cons] at h
    rw [List.lookup_cons, List.mem_cons, Prod.mk.injEq]
    by_cases hk : k = l
    · subst hk
      have hnot : (k, v) ∉ fs := fun hmem => h.1 (List.mem_map.mpr ⟨(k, v), hmem, rfl⟩)
      simp only [beq_self_eq_true, Option.some.injEq, true_and, hnot, or_false]
      exact eq_comm
    · have hne : (k == l) = false := beq_eq_false_iff_ne.mpr hk
      simp only [hne, hk, false_and, false_or]
      exact ih h.2

theorem Record.repeated?_of_nodup {fs : List (String × Json)} (h : (fs.map (·.1)).Nodup)
    (names : List String) : Record.repeated? fs names = none := by
  refine List.find?_eq_none.mpr fun name _ hmany => ?_
  have hcount : fs.countP (·.1 = name) = (fs.map (·.1)).count name := by
    rw [List.count, List.countP_map]
    rfl
  have hle := List.nodup_iff_count.mp h name
  rw [decide_eq_true_eq, hcount] at hmany
  omega

/-- the parts of a canonical object: its keys stand once each and its values are canonical -/
theorem canonical_object {fs : List (String × Json)} (h : (Json.object fs).canonical = true) :
    (fs.map (·.1)).Nodup ∧ ∀ k v, (k, v) ∈ fs → v.canonical = true := by
  rw [canonical, Bool.and_eq_true, canonicalFields_eq_all, List.all_eq_true] at h
  exact ⟨nodup_of_sortedKeys h.1, fun k v hmem => h.2 (k, v) hmem⟩

theorem canonical_array {xs : List Json} (h : (Json.array xs).canonical = true) :
    ∀ x ∈ xs, x.canonical = true := by
  rw [canonical, canonicalItems_eq_all, List.all_eq_true] at h
  exact h

theorem Value.exists_ofJson? {j w : Json} (h : j.normalize? = some w) :
    ∃ v, ofJson? j = some v ∧ v.json = w := by
  unfold ofJson?
  split
  · next w' hw =>
    rw [h] at hw
    exact ⟨_, rfl, (Option.some.inj hw).symm⟩
  · next hw =>
    rw [h] at hw
    exact nomatch hw

namespace Record

/-- fields of which no name stands twice are a record of any names -/
theorem ofJson_of_nodup {fs : List (String × Json)} (h : (fs.map (·.1)).Nodup)
    (names : List String) : ofJson names (.object fs) = .ok ⟨fs⟩ := by
  rw [ofJson, ofFields, repeated?_of_nodup h names]

/-- an array of more items than there are names is no record -/
theorem ofJson_long {names : List String} {items : List Json}
    (h : names.length < items.length) : ∃ e, ofJson names (.array items) = .error e :=
  ⟨_, if_neg (Nat.not_le.mpr h)⟩

section

variable {α : Type} {fs : List (String × Json)} {read : Reader α}

theorem require_ok_iff (h : (fs.map (·.1)).Nodup) (name : String) :
    (∃ a, require ⟨fs⟩ name read = .ok a) ↔ ∃ v, (name, v) ∈ fs ∧ ∃ a, read v = .ok a := by
  rw [require, find?]
  cases hl : fs.lookup name with
  | none =>
    refine ⟨nofun, fun ⟨v, hmem, _⟩ => ?_⟩
    rw [(lookup_eq_some_iff_mem h name v).mpr hmem] at hl
    exact nomatch hl
  | some w =>
    refine ⟨fun ha => ⟨w, (lookup_eq_some_iff_mem h name w).mp hl, ha⟩, fun ⟨v, hmem, ha⟩ => ?_⟩
    rw [(lookup_eq_some_iff_mem h name v).mpr hmem] at hl
    obtain rfl : v = w := Option.some.inj hl
    exact ha

theorem getD_ok_iff (h : (fs.map (·.1)).Nodup) (name : String) (default : α) :
    (∃ a, getD ⟨fs⟩ name default read = .ok a) ↔
      ∀ v, (name, v) ∈ fs → ∃ a, read v = .ok a := by
  rw [getD, find?]
  cases hl : fs.lookup name with
  | none =>
    refine ⟨fun _ v hmem => ?_, fun _ => ⟨default, rfl⟩⟩
    rw [(lookup_eq_some_iff_mem h name v).mpr hmem] at hl
    exact nomatch hl
  | some w =>
    refine ⟨fun ha v hmem => ?_, fun hall => hall w ((lookup_eq_some_iff_mem h name w).mp hl)⟩
    rw [(lookup_eq_some_iff_mem h name v).mpr hmem] at hl
    obtain rfl : v = w := Option.some.inj hl
    exact ha

end

end Record

theorem asWord_ok_iff {j : Json} {s : String} :
    asWord j = .ok s ↔ j = .text s ∨ j = .object [(s, .null)] := by
  constructor
  · intro h
    unfold asWord at h
    split at h
    · exact .inl (congrArg Json.text (Except.ok.inj h))
    · exact .inr (by rw [Except.ok.inj h])
    · exact nomatch h
  · rintro (rfl | rfl) <;> rfl

theorem asText_ok_iff (j : Json) : (∃ s, asText j = .ok s) ↔ ∃ s, j = .text s := by
  cases j with
  | text s => exact ⟨fun _ => ⟨s, rfl⟩, fun _ => ⟨s, rfl⟩⟩
  | _ => exact ⟨nofun, nofun⟩

end Json
end ChatRelay
