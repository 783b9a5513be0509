import Mathlib
import ChatRelay.HostName.Basic

/-!
# Labels and how they are written

A label is written as it is, or in digits behind the beginning that such labels have; either way in
ASCII and without a dot.  What it is written as is read as the label again, unless the digits are
more than are read.

* `LabelChar`                    the characters that labels are written with;
* `Punycode.labelChar_encode`    digits are such characters;
* `ReadLabel.labelOf?_written`   a label is read back from what it is written as;
* `labels?_eq_some_iff`          a name is read label by label;
* `ascii?_eq_some_iff`           and written label by label.
-/

namespace ChatRelay.HostName

open Text

variable {c : Char} {cs host label part : List Char} {labels : List (List Char)}

/-! ## lists member by member -/

section Lists

variable {α β : Type} {f : α → Option β} {R : α → β → Prop} {xs : List α} {ys : List β}

theorem mapM_eq_some_iff : xs.mapM f = some ys ↔ List.Forall₂ (fun x y => f x = some y) xs ys := by
  induction xs generalizing ys with
  | nil =>
    rw [List.forall₂_nil_left_iff]
    exact ⟨fun h => (Option.some.inj h).symm, fun h => congrArg some h.symm⟩
  | cons x xs ih =>
    rw [List.mapM_cons, List.forall₂_cons_left_iff]
    simp only [Option.bind_eq_bind, Option.bind_eq_some_iff, Option.pure_def, Option.some.injEq, ih]
    exact ⟨fun ⟨y, hy, ys, hys, h⟩ => ⟨y, ys, hy, hys, h.symm⟩,
      fun ⟨y, ys, hy, hys, h⟩ => ⟨y, hy, ys, hys, h.symm⟩⟩

theorem mapM_eq_some {g : α → β} (h : ∀ x ∈ xs, f x = some (g x)) :
    xs.mapM f = some (xs.map g) :=
  mapM_eq_some_iff.mpr (List.forall₂_map_right_iff.mpr (List.forall₂_same.mpr h))

theorem exists_of_mem_right {y : β} (h : List.Forall₂ R xs ys) (hy : y ∈ ys) : ∃ x ∈ xs, R x y := by
  induction h with
  | nil => cases hy
  | @cons x y _ _ hxy _ ih =>
    rcases List.mem_cons.mp hy with rfl | hy
    · exact ⟨x, List.mem_cons_self, hxy⟩
    · obtain ⟨x', hx', hxy⟩ := ih hy
      exact ⟨x', List.mem_cons_of_mem x hx', hxy⟩

theorem forall₂_and_mem (h : List.Forall₂ R xs ys) :
    List.Forall₂ (fun x y => (x ∈ xs ∧ y ∈ ys) ∧ R x y) xs ys := by
  obtain ⟨hlength, hzip⟩ := List.forall₂_iff_zip.mp h
  exact List.forall₂_iff_zip.mpr ⟨hlength, fun hmem => ⟨List.of_mem_zip hmem, hzip hmem⟩⟩

end Lists

/-! ## characters -/

/-- a character of what a label is written as -/
def LabelChar (c : Char) : Prop := isAscii c = true ∧ c ≠ '.'

instance (c : Char) : Decidable (LabelChar c) := inferInstanceAs (Decidable (_ ∧ _))

/-! ## digits -/

namespace Punycode

theorem labelChar_digit {n : Nat} (h : n < 36) : LabelChar (digit n) := by
  have all : ∀ n < 36, LabelChar (digit n) := by decide
  exact all n h

theorem threshold_bounds (k bias : Nat) : 1 ≤ threshold k bias ∧ threshold k bias ≤ 26 := by
  rw [threshold]
  omega

theorem labelChar_of_mem_number {bias fuel k q : Nat} (h : c ∈ number bias fuel k q) :
    LabelChar c := by
  induction fuel generalizing k q with
  | zero =>
    obtain rfl := List.mem_singleton.mp h
    exact labelChar_digit (Nat.mod_lt q (by decide))
  | succ fuel ih =>
    obtain ⟨hlow, hhigh⟩ := threshold_bounds k bias
    rw [number] at h
    split at h
    · obtain rfl := List.mem_singleton.mp h
      exact labelChar_digit (by omega)
    · rcases List.mem_cons.mp h with rfl | h
      · have hmod : (q - threshold k bias) % (36 - threshold k bias) < 36 - threshold k bias :=
          Nat.mod_lt _ (by omega)
        exact labelChar_digit (by omega)
      · exact ih h

theorem labelChar_visit {basic n : Nat} {s : State} (h : ∀ c ∈ s.digits, LabelChar c) (x : Char) :
    ∀ c ∈ (visit basic n s x).digits, LabelChar c := by
  rw [visit]
  split
  · exact h
  · split
    · exact List.forall_mem_append.mpr ⟨h, fun c hc => labelChar_of_mem_number hc⟩
    · exact h

theorem labelChar_foldl_visit {basic n : Nat} {s : State} (h : ∀ c ∈ s.digits, LabelChar c)
    (cs : List Char) : ∀ c ∈ (cs.foldl (visit basic n) s).digits, LabelChar c := by
  induction cs generalizing s with
  | nil => exact h
  | cons x cs ih => exact ih (labelChar_visit h x)

theorem labelChar_visitAll {basic n : Nat} {values : List Nat} {s : State}
    (h : ∀ c ∈ s.digits, LabelChar c) :
    ∀ c ∈ (visitAll label basic values n s).digits, LabelChar c := by
  induction values generalizing n s with
  | nil => exact h
  | cons m values ih =>
    exact ih (labelChar_foldl_visit (s := { s with delta := s.delta + (m - n) * (s.count + 1) })
      h label)

/-- the digits of a label without a dot have none -/
theorem labelChar_encode (h : '.' ∉ label) : ∀ c ∈ encode label, LabelChar c := by
  have hbasic : ∀ c ∈ label.filter (·.toNat < 0x80), LabelChar c := fun c hc => by
    obtain ⟨hmem, hascii⟩ := List.mem_filter.mp hc
    exact ⟨hascii, ne_of_mem_of_not_mem hmem h⟩
  refine List.forall_mem_append.mpr ⟨?_, labelChar_visitAll (List.forall_mem_nil _)⟩
  split
  · exact List.forall_mem_nil _
  · exact List.forall_mem_append.mpr ⟨hbasic, List.forall_mem_singleton.mpr (by decide)⟩

/-- the characters that digits put in are not below the value they begin at -/
theorem le_of_mem_insertAll? {fuel bias n i : Nat} {before after : List Char}
    (h : insertAll? fuel bias n i before cs = some after) (hc : c ∈ after) :
    c ∈ before ∨ n ≤ c.toNat := by
  induction fuel generalizing bias n i before cs with
  | zero =>
    cases cs with
    | nil =>
      obtain rfl := Option.some.inj h
      exact .inl hc
    | cons x cs => cases h
  | succ fuel ih =>
    cases cs with
    | nil =>
      obtain rfl := Option.some.inj h
      exact .inl hc
    | cons x cs =>
      rw [insertAll?] at h
      · obtain ⟨⟨delta, rest⟩, -, h⟩ := Option.bind_eq_some_iff.mp h
        dsimp only at h
        split at h
        · next hvalid =>
          rcases ih h with hmem | hle
          · refine (List.eq_or_mem_of_mem_insertIdx hmem).symm.imp_right fun hc => ?_
            rw [hc, Char.toNat_ofNat, if_pos hvalid]
            exact Nat.le_add_right n _
          · exact .inr (Nat.le_trans (Nat.le_add_right n _) hle)
        · cases h
      · exact List.cons_ne_nil x cs

theorem mem_of_mem_cutAtHyphen (h : c ∈ (cutAtHyphen cs).1) : c ∈ cs := by
  rw [cutAtHyphen] at h
  split at h
  · next hcut =>
    rw [← List.mem_reverse, eq_append_of_cutAt? hcut]
    exact List.mem_append_right _ (List.mem_cons_of_mem '-' (List.mem_reverse.mp h))
  · exact absurd h List.not_mem_nil

/-- no dot comes of digits without one -/
theorem dot_not_mem_of_decode? (h : decode? cs = some label) (hcs : '.' ∉ cs) : '.' ∉ label := by
  intro hdot
  rw [decode?] at h
  dsimp only at h
  split at h
  · rcases le_of_mem_insertAll? h hdot with hmem | hle
    · exact hcs (mem_of_mem_cutAtHyphen hmem)
    · exact absurd hle (by decide)
  · cases h

end Punycode

/-! ## labels -/

theorem labelOf?_append (digits : List Char) : labelOf? (encodedStart ++ digits)
    = if 2000 < digits.length then none else (Punycode.decode? digits).filter isEncodable := by
  rw [labelOf?, afterStart?_append]

/-- a label that was read: only one with characters beyond ASCII is written in digits, so that no
other one begins as these do -/
structure ReadLabel (label : List Char) : Prop where
  dotless : '.' ∉ label
  plain : label.all isAscii = true → ¬ encodedStart <+: label

theorem readLabel_of_labelOf? (h : labelOf? part = some label) (hpart : '.' ∉ part) :
    ReadLabel label := by
  rw [labelOf?] at h
  split at h
  · next hnone =>
    obtain rfl := Option.some.inj h
    exact ⟨hpart, fun _ => afterStart?_eq_none_iff.mp hnone⟩
  · next digits hsome =>
    split at h
    · cases h
    · obtain ⟨hdecode, hencodable⟩ := Option.filter_eq_some_iff.mp h
      have hdigits : '.' ∉ digits := fun hdot =>
        hpart (eq_append_of_afterStart? hsome ▸ List.mem_append_right _ hdot)
      refine ⟨Punycode.dot_not_mem_of_decode? hdecode hdigits, fun hascii => ?_⟩
      rw [isEncodable, hascii] at hencodable
      cases hencodable

/-- what a label is written as: itself, or digits that are read as it -/
theorem asciiLabel?_cases (h : asciiLabel? label = some part) :
    (label.all isAscii = true ∧ part = label) ∨
      part = encodedStart ++ Punycode.encode label ∧
        (Punycode.decode? (Punycode.encode label)).filter isEncodable = some label := by
  rw [asciiLabel?] at h
  split at h
  · next hascii => exact .inl ⟨hascii, (Option.some.inj h).symm⟩
  · split at h
    · cases h
    · dsimp only at h
      split at h
      · next hreads => exact .inr ⟨(Option.some.inj h).symm, hreads⟩
      · cases h

namespace ReadLabel

/-- a label is written in ASCII and without a dot -/
theorem labelChar (h : ReadLabel label) (hpart : asciiLabel? label = some part) :
    ∀ c ∈ part, LabelChar c := by
  rcases asciiLabel?_cases hpart with ⟨hascii, rfl⟩ | ⟨rfl, -⟩
  · exact fun c hc => ⟨List.all_eq_true.mp hascii c hc, ne_of_mem_of_not_mem hc h.dotless⟩
  · have hstart : ∀ c ∈ encodedStart, LabelChar c := by simp [encodedStart, LabelChar, isAscii]
    exact List.forall_mem_append.mpr ⟨hstart, Punycode.labelChar_encode h.dotless⟩

/-- a label is read back from what it is written as, unless these are too many digits -/
theorem labelOf?_written (h : ReadLabel label) (hpart : asciiLabel? label = some part)
    (hshort : encodedStart <+: part → part.length ≤ 2004) : labelOf? part = some label := by
  rcases asciiLabel?_cases hpart with ⟨hascii, rfl⟩ | ⟨rfl, hreads⟩
  · rw [labelOf?, afterStart?_eq_none_iff.mpr (h.plain hascii)]
  · have hlength : encodedStart.length + (Punycode.encode label).length ≤ 2004 :=
      List.length_append ▸ hshort (List.prefix_append _ _)
    have hstart : encodedStart.length = 4 := rfl
    rw [labelOf?_append, if_neg (by omega), hreads]

end ReadLabel

/-! ## names -/

/-- what the labels of a name have to fulfil, on their own and among each other -/
def Agree (labels : List (List Char)) : Prop :=
  labels.all isWellFormed = true ∧
    (labels.flatten.any isLeftward = true → labels.all isDirected = true)

theorem labels?_eq_some_iff : labels? cs = some labels ↔ ∃ name, plain? cs = some name ∧
    List.Forall₂ (fun part label => labelOf? part = some label) (split (· = '.') name) labels ∧
      Agree labels := by
  have hagree (labels : List (List Char)) : (labels.all isWellFormed &&
      (!labels.flatten.any isLeftward || labels.all isDirected)) = true ↔ Agree labels := by
    rw [Agree, Bool.and_eq_true, Bool.or_eq_true, Bool.not_eq_true', imp_iff_not_or,
      Bool.not_eq_true]
  rw [labels?]
  simp only [Option.bind_eq_bind, Option.bind_eq_some_iff, Option.pure_def,
    Option.ite_none_right_eq_some, Option.some.injEq, hagree, ← mapM_eq_some_iff]
  exact exists_congr fun name => and_congr_right fun _ =>
    ⟨fun ⟨_, hlabels, hagree, h⟩ => h ▸ ⟨hlabels, hagree⟩,
      fun ⟨hlabels, hagree⟩ => ⟨labels, hlabels, hagree, rfl⟩⟩

theorem ascii?_eq_some_iff : ascii? cs = some host ↔ ∃ labels parts, labels? cs = some labels ∧
    List.Forall₂ (fun label part => asciiLabel? label = some part) labels parts ∧
      glue '.' parts = host := by
  rw [ascii?]
  simp only [Option.bind_eq_bind, Option.bind_eq_some_iff, Option.pure_def, Option.some.injEq,
    mapM_eq_some_iff, exists_and_left]

end ChatRelay.HostName
