import ChatRelay.Proofs.Assembly
import Mathlib.Data.List.Induction
import Mathlib.Data.List.ReduceOption

/-!
# Merging reports of usage

Of the reports of one answer the first has the say over the prompt and the last over the completion,
and a zero has no say.  Merging is associative, so it does not matter where a list of reports is
cut.  What a list comes to is read off its reports one by one (`summary`), but for a single one:
that keeps the total it came with.

A writer that reports what it has merged so far says everything again with every report.  Whoever
merges its reports gets what the writer got.

* `merge?_assoc`        three reports, any of them missing;
* `foldl_merge_eq`      what a first report and all later ones come to;
* `mergeAll_running`    the merges of a growing list, merged once more;
* `merged_reports`      the laws of merging.
-/

namespace ChatRelay.Usage

attribute [ext] Usage

/-! ## three reports -/

theorem firstCount_assoc (x y z : TokenCount) :
    firstCount (firstCount x y) z = firstCount x (firstCount y z) := by
  by_cases hx : 0 < x
  · have hxy : firstCount x y = x := if_pos hx
    have hxyz : firstCount x (firstCount y z) = x := if_pos hx
    rw [hxy, hxyz]
    exact if_pos hx
  · have hxy : firstCount x y = y := if_neg hx
    have hxyz : firstCount x (firstCount y z) = firstCount y z := if_neg hx
    rw [hxy, hxyz]

theorem merge_assoc (a b c : Usage) : (a.merge b).merge c = a.merge (b.merge c) := by
  simp only [merge, firstCount_assoc, Option.or_assoc]

theorem merge?_assoc (a b c : Option Usage) :
    merge? (merge? a b) c = merge? a (merge? b c) := by
  cases a with
  | none => rfl
  | some a =>
    cases b with
    | none => rw [merge?_none_right, merge?_none_left]
    | some b =>
      cases c with
      | none => rfl
      | some c => exact congrArg some (merge_assoc a b c)

/-! ## a list of reports -/

/-- the reports of a list merged one after the other, missing ones passed over -/
def mergeAll (us : List (Option Usage)) : Option Usage := us.foldl merge? none

/-- what was merged before, with one report of a list, with two, and so on -/
def running (u : Option Usage) : List (Option Usage) → List (Option Usage)
  | [] => []
  | v :: us => merge? u v :: running (merge? u v) us

/-- what several reports come to: the first prompt and the last completion that are not zero, their
sum, and the first and the last details that are there -/
def summary (us : List Usage) : Usage :=
  let prompt := ((us.map (·.prompt)).find? (0 < ·)).getD 0
  let completion := ((us.map (·.completion)).reverse.find? (0 < ·)).getD 0
  { prompt
    completion
    total := prompt.plus completion
    promptDetails := us.findSome? (·.promptDetails)
    completionDetails := us.reverse.findSome? (·.completionDetails) }

theorem mergeAll_snoc (us : List (Option Usage)) (u : Option Usage) :
    mergeAll (us ++ [u]) = merge? (mergeAll us) u := by
  rw [mergeAll, List.foldl_append]
  rfl

theorem foldl_merge? (us : List (Option Usage)) (u : Usage) :
    us.foldl merge? (some u) = some (us.reduceOption.foldl merge u) := by
  induction us generalizing u with
  | nil => rfl
  | cons v us ih =>
    cases v with
    | none => exact ih u
    | some v => exact ih (u.merge v)

/-- reports that are missing do not count -/
theorem mergeAll_eq (us : List (Option Usage)) :
    mergeAll us = match us.reduceOption with
      | [] => none
      | u :: vs => some (vs.foldl merge u) := by
  induction us with
  | nil => rfl
  | cons u us ih =>
    cases u with
    | none => exact ih
    | some u => exact foldl_merge? us u

/-! ## what a list comes to -/

theorem foldl_firstCount (xs : List TokenCount) (x : TokenCount) :
    xs.foldl firstCount x = ((x :: xs).find? (0 < ·)).getD 0 := by
  induction xs generalizing x with
  | nil =>
    rw [List.foldl_nil, List.find?_cons]
    by_cases hx : 0 < x
    · simp [hx]
    · have hzero := firstCount_zero_right x
      rw [firstCount, if_neg hx] at hzero
      simp [← hzero]
  | cons y ys ih =>
    rw [List.foldl_cons, ih]
    by_cases hx : 0 < x
    · rw [firstCount, if_pos hx, List.find?_cons_of_pos (by simpa using hx),
        List.find?_cons_of_pos (by simpa using hx)]
    · rw [firstCount, if_neg hx, ← List.find?_cons_of_neg (a := x) (by simpa using hx)]

theorem foldl_lastCount (xs : List TokenCount) (x : TokenCount) :
    xs.foldl (fun a b => firstCount b a) x = ((x :: xs).reverse.find? (0 < ·)).getD 0 := by
  induction xs using List.reverseRecOn with
  | nil => exact foldl_firstCount [] x
  | append_singleton xs y ih =>
    rw [List.foldl_append, List.foldl_cons, List.foldl_nil, ih, ← List.cons_append,
      List.reverse_append, List.reverse_singleton, List.singleton_append]
    by_cases hy : 0 < y
    · rw [firstCount, if_pos hy, List.find?_cons_of_pos (by simpa using hy), Option.getD_some]
    · rw [firstCount, if_neg hy, List.find?_cons_of_neg (by simpa using hy)]

section

variable (u : Usage) (vs : List Usage)

theorem prompt_foldl_merge : (vs.foldl merge u).prompt
    = (((u :: vs).map (·.prompt)).find? (0 < ·)).getD 0 := by
  rw [List.map_cons, ← foldl_firstCount, List.foldl_map]
  exact (List.foldl_hom Usage.prompt fun _ _ => rfl).symm

theorem completion_foldl_merge : (vs.foldl merge u).completion
    = (((u :: vs).map (·.completion)).reverse.find? (0 < ·)).getD 0 := by
  rw [List.map_cons, ← foldl_lastCount, List.foldl_map]
  exact (List.foldl_hom Usage.completion fun _ _ => rfl).symm

theorem promptDetails_foldl_merge :
    (vs.foldl merge u).promptDetails = (u :: vs).findSome? (·.promptDetails) := by
  induction vs generalizing u with
  | nil =>
    rw [List.foldl_nil, List.findSome?_cons]
    cases u.promptDetails <;> rfl
  | cons v vs ih =>
    rw [List.foldl_cons, ih, List.findSome?_cons, List.findSome?_cons, List.findSome?_cons, merge]
    cases u.promptDetails <;> rfl

theorem completionDetails_foldl_merge :
    (vs.foldl merge u).completionDetails = (u :: vs).reverse.findSome? (·.completionDetails) := by
  induction vs using List.reverseRecOn with
  | nil =>
    rw [List.foldl_nil, List.reverse_singleton, List.findSome?_cons]
    cases u.completionDetails <;> rfl
  | append_singleton vs v ih =>
    rw [List.foldl_append, List.foldl_cons, List.foldl_nil, ← List.cons_append,
      List.reverse_append, List.reverse_singleton, List.singleton_append, List.findSome?_cons, ← ih,
      merge]
    cases v.completionDetails <;> rfl

theorem sums_foldl_merge (h : u.Sums) : (vs.foldl merge u).Sums := by
  induction vs generalizing u with
  | nil => exact h
  | cons v vs ih => exact ih (u.merge v) (sums_merge u v)

/-- a first report and all later ones, where there is one at least -/
theorem foldl_merge_eq (hvs : vs ≠ []) : vs.foldl merge u = summary (u :: vs) := by
  have htotal : (vs.foldl merge u).Sums := by
    obtain ⟨v, vs, rfl⟩ := List.exists_cons_of_ne_nil hvs
    exact sums_foldl_merge (u.merge v) vs (sums_merge u v)
  ext1
  · exact prompt_foldl_merge u vs
  · exact completion_foldl_merge u vs
  · rw [htotal, prompt_foldl_merge, completion_foldl_merge]
    rfl
  · exact promptDetails_foldl_merge u vs
  · exact completionDetails_foldl_merge u vs

end

/-! ## merging what was merged -/

theorem running_append (u : Option Usage) (us vs : List (Option Usage)) :
    running u (us ++ vs) = running u us ++ running (us.foldl merge? u) vs := by
  induction us generalizing u with
  | nil => rfl
  | cons v us ih => rw [List.cons_append, running, ih, running, List.cons_append, List.foldl_cons]

theorem running_snoc (us : List (Option Usage)) (u : Option Usage) :
    running none (us ++ [u]) = running none us ++ [merge? (mergeAll us) u] :=
  running_append none us [u]

/-- the running merges know nothing that their last does not, the total of a single report apart -/
theorem merge_mergeAll_running (us : List (Option Usage)) (u : Usage) :
    merge? (mergeAll (running none us)) (merge? (mergeAll us) (some u))
      = merge? (mergeAll us) (some u) := by
  induction us using List.reverseRecOn generalizing u with
  | nil => rfl
  | append_singleton us v ih =>
    rw [running_snoc, mergeAll_snoc, mergeAll_snoc]
    have hagain : ∀ x : Option Usage,
        merge? x (merge? x (some u)) = merge? x (some u) := by
      intro x
      cases x with
      | none => rfl
      | some x => exact congrArg some (merge_merge x u)
    cases v with
    | none => rw [merge?_none_right, merge?_assoc, hagain, ih]
    | some v => rw [ih v, hagain]

theorem sums_mergeAll {us : List (Option Usage)} (h : 2 ≤ us.reduceOption.length) {u : Usage}
    (hu : mergeAll us = some u) : u.Sums := by
  rw [mergeAll_eq] at hu
  match us.reduceOption, h, hu with
  | a :: b :: vs, _, hu =>
    rw [← Option.some.inj hu]
    exact sums_foldl_merge (a.merge b) vs (sums_merge a b)

/-- the running merges of two reports or more come to what the reports come to -/
theorem mergeAll_running {us : List (Option Usage)} (h : 2 ≤ us.reduceOption.length) :
    mergeAll (running none us) = mergeAll us := by
  induction us using List.reverseRecOn with
  | nil => exact absurd h (by decide)
  | append_singleton us v ih =>
    rw [running_snoc, mergeAll_snoc, mergeAll_snoc]
    cases v with
    | none =>
      have hus : 2 ≤ us.reduceOption.length := by
        rwa [List.reduceOption_append, List.length_append] at h
      rw [merge?_none_right, ih hus]
      cases hu : mergeAll us with
      | none => rfl
      | some u => exact congrArg some (merge_self (sums_mergeAll hus hu))
    | some v => exact merge_mergeAll_running us v

/-! ## the laws -/

/-- **Merging.**  It is associative, and a missing report changes nothing.  A list of reports comes
to nothing where all are missing, to the report itself where there is one, and to their summary
where there are more; and so it does when each is reported together with all before it. -/
theorem merged_reports :
    (∀ a b c : Option Usage, merge? (merge? a b) c = merge? a (merge? b c)) ∧
    (∀ u : Option Usage, merge? none u = u ∧ merge? u none = u) ∧
    (∀ us : List (Option Usage), mergeAll us = match us.reduceOption with
      | [] => none
      | [u] => some u
      | reports => some (summary reports)) ∧
    (∀ us : List (Option Usage), 2 ≤ us.reduceOption.length →
      mergeAll (running none us) = mergeAll us) := by
  refine ⟨merge?_assoc, fun u => ⟨merge?_none_left u, merge?_none_right u⟩, fun us => ?_,
    fun us => mergeAll_running⟩
  rw [mergeAll_eq]
  match us.reduceOption with
  | [] => rfl
  | [u] => rfl
  | u :: v :: vs => exact congrArg some (foldl_merge_eq u (v :: vs) (List.cons_ne_nil v vs))

/-- a prompt of zeros at first, a sum that is cut, a total that is none, and a report that is
missing -/
theorem merged_reports_cut :
    let us : List (Option Usage) := [
      some { completion := 7, total := 9 },
      none,
      some { prompt := 4294967295, promptDetails := some { cached := 3 } },
      some { prompt := 5, completion := 2, promptDetails := some {} }]
    2 ≤ us.reduceOption.length ∧
    mergeAll (running none us) = some {
      prompt := 4294967295
      completion := 2
      total := 4294967295
      promptDetails := some { cached := 3 } } := by
  intro us
  obtain ⟨-, -, hall, hagain⟩ := merged_reports
  refine ⟨by decide, (hagain us (by decide)).trans ((hall us).trans ?_)⟩
  decide

end ChatRelay.Usage
