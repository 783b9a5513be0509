import ChatRelay.Conversation.Assembly

/-!
# Assembling fragments of one choice

Fragments that all belong to choice 0 are gathered in one draft, in their order, and reports of
usage are merged in theirs.

* `merge_self`, `empty_merge`, `merge_merge`   reports that repeat what is known;
* `foldl_add_drafts`, `foldl_add_usage`   drafts and usage, fragment by fragment;
* `assemble_choices`, `assemble_usage`    the response of a list that ends with its end marker;
* `assemble_speaker`                      who speaks, where all fragments agree.
-/

namespace ChatRelay

/-! ## merging reports of usage -/

namespace Usage

/-- usage whose total is the sum of its counts -/
def Sums (u : Usage) : Prop := u.total = u.prompt.plus u.completion

theorem firstCount_zero_left (x : TokenCount) : firstCount 0 x = x := rfl

theorem firstCount_zero_right (x : TokenCount) : firstCount x 0 = x := by
  unfold firstCount
  split
  · rfl
  · next h =>
    have hx : ¬ (0 : TokenCount).toNat < x.toNat := fun hlt => h (UInt32.lt_iff_toNat_lt.mpr hlt)
    refine UInt32.toNat_inj.mp ?_
    simp only [UInt32.toNat_zero] at hx ⊢
    omega

theorem firstCount_self (x : TokenCount) : firstCount x x = x := ite_self x

theorem sums_merge (a b : Usage) : (a.merge b).Sums := rfl

theorem merge_self {u : Usage} (h : u.Sums) : u.merge u = u := by
  rw [merge, firstCount_self, firstCount_self, Option.or_self, Option.or_self, ← h]

theorem empty_merge {u : Usage} (h : u.Sums) : ({} : Usage).merge u = u := by
  rw [merge, firstCount_zero_left, firstCount_zero_right, Option.none_or, Option.or_none, ← h]

/-- a later report that has the earlier one in it already -/
theorem merge_merge (a b : Usage) : a.merge (a.merge b) = a.merge b := by
  have hprompt : ∀ x y : TokenCount, firstCount x (firstCount x y) = firstCount x y := by
    intro x y
    unfold firstCount
    split <;> rfl
  have hcompletion : ∀ x y : TokenCount, firstCount (firstCount y x) x = firstCount y x := by
    intro x y
    unfold firstCount
    split
    · rfl
    · exact ite_self x
  simp only [merge, hprompt, hcompletion, ← Option.or_assoc, Option.or_self]
  rw [Option.or_assoc, Option.or_self]

end Usage

/-! ## fragments, one after the other -/

namespace Assembly

/-- the drafts with one fragment more of a choice -/
def draftChoice (drafts : Slots Draft) (x : Choice) : Slots Draft :=
  Slots.update x.index (fun d => (d.getD {}).addChoice x) drafts

theorem foldl_draftChoice_single {xs : List Choice} (h : ∀ x ∈ xs, x.index = 0) (d : Draft) :
    xs.foldl draftChoice [(0, d)] = [(0, xs.foldl Draft.addChoice d)] := by
  induction xs generalizing d with
  | nil => rfl
  | cons x xs ih =>
    have hx : draftChoice [(0, d)] x = [(0, d.addChoice x)] := by
      rw [draftChoice, h x List.mem_cons_self]
      rfl
    rw [List.foldl_cons, hx, ih fun y hy => h y (List.mem_cons_of_mem _ hy), List.foldl_cons]

theorem foldl_draftChoice {xs : List Choice} (h : ∀ x ∈ xs, x.index = 0) (hne : xs ≠ []) :
    xs.foldl draftChoice [] = [(0, xs.foldl Draft.addChoice {})] := by
  obtain ⟨x, xs, rfl⟩ := List.exists_cons_of_ne_nil hne
  have hx : draftChoice [] x = [(0, ({} : Draft).addChoice x)] := by
    rw [draftChoice, h x List.mem_cons_self]
    rfl
  rw [List.foldl_cons, hx, foldl_draftChoice_single fun y hy => h y (List.mem_cons_of_mem _ hy),
    List.foldl_cons]

theorem add_of_isDone (a : Assembly) {c : Response} (h : c.isDone = true) : a.add c = a := by
  rw [add, if_pos h]

/-- reports of usage merged one after the other -/
def mergeReports (usage : Option Usage) (chunks : List Response) : Option Usage :=
  chunks.foldl (fun u c => Usage.merge? u c.usage) usage

theorem mergeReports_append (u : Option Usage) (xs ys : List Response) :
    mergeReports u (xs ++ ys) = mergeReports (mergeReports u xs) ys := List.foldl_append

theorem mergeReports_of_none {chunks : List Response} (h : ∀ c ∈ chunks, c.usage = none)
    (u : Option Usage) : mergeReports u chunks = u := by
  induction chunks with
  | nil => rfl
  | cons c chunks ih =>
    rw [mergeReports, List.foldl_cons, h c List.mem_cons_self, Usage.merge?_none_right]
    exact ih fun x hx => h x (List.mem_cons_of_mem _ hx)

theorem foldl_add_drafts {chunks : List Response} (h : ∀ c ∈ chunks, c.isDone → c.choices = [])
    (a : Assembly) : (chunks.foldl add a).drafts
      = (chunks.flatMap (·.choices)).foldl draftChoice a.drafts := by
  induction chunks generalizing a with
  | nil => rfl
  | cons c chunks ih =>
    have hc : (a.add c).drafts = c.choices.foldl draftChoice a.drafts := by
      by_cases hdone : c.isDone = true
      · rw [add_of_isDone a hdone, h c List.mem_cons_self hdone]
        rfl
      · rw [add, if_neg hdone]
        rfl
    rw [List.foldl_cons, ih fun x hx => h x (List.mem_cons_of_mem _ hx), List.flatMap_cons,
      List.foldl_append, hc]

theorem foldl_add_usage {chunks : List Response} (h : ∀ c ∈ chunks, c.isDone = false)
    (a : Assembly) : (chunks.foldl add a).usage = mergeReports a.usage chunks := by
  induction chunks generalizing a with
  | nil => rfl
  | cons c chunks ih =>
    have hc : c.isDone = false := h c List.mem_cons_self
    rw [List.foldl_cons, ih fun x hx => h x (List.mem_cons_of_mem _ hx), add, hc]
    rfl

theorem foldl_add_speaker {chunks : List Response} (h : ∀ c ∈ chunks, c.isDone = false)
    {id model : String} (hs : ∀ c ∈ chunks, c.id = id ∧ c.model = model) {a : Assembly}
    (ha : a.id = id ∧ a.model = model) :
    (chunks.foldl add a).id = id ∧ (chunks.foldl add a).model = model := by
  induction chunks generalizing a with
  | nil => exact ha
  | cons c chunks ih =>
    obtain ⟨hid, hmodel⟩ := hs c List.mem_cons_self
    refine ih (fun x hx => h x (List.mem_cons_of_mem _ hx))
      (fun x hx => hs x (List.mem_cons_of_mem _ hx)) ?_
    rw [add, h c List.mem_cons_self]
    show firstText a.id c.id = id ∧ firstText a.model c.model = model
    rw [ha.1, ha.2, hid, hmodel, firstText, firstText, ite_self, ite_self]
    exact ⟨rfl, rfl⟩

end Assembly

open Assembly

namespace Response

variable {chunks : List Response} {last : Response}

theorem assemble_eq (hlast : last.isDone = true) :
    assemble (chunks ++ [last]) = (chunks.foldl Assembly.add {}).response := by
  rw [assemble, List.foldl_append, List.foldl_cons, List.foldl_nil, add_of_isDone _ hlast]

/-- the only choice of fragments that all belong to it -/
theorem assemble_choices (hlast : last.isDone = true) (h : ∀ c ∈ chunks, c.isDone = false)
    (hzero : ∀ x ∈ chunks.flatMap (·.choices), x.index = 0)
    (hne : chunks.flatMap (·.choices) ≠ []) :
    (assemble (chunks ++ [last])).choices
      = [((chunks.flatMap (·.choices)).foldl Draft.addChoice {}).choice 0] := by
  have hempty : ∀ c ∈ chunks, c.isDone → c.choices = [] := fun c hc hdone =>
    absurd ((h c hc).symm.trans hdone) Bool.false_ne_true
  rw [assemble_eq hlast, Assembly.response, foldl_add_drafts hempty]
  show List.map _ ((chunks.flatMap (·.choices)).foldl draftChoice []) = _
  rw [foldl_draftChoice hzero hne]
  rfl

theorem assemble_usage (hlast : last.isDone = true) (h : ∀ c ∈ chunks, c.isDone = false) :
    (assemble (chunks ++ [last])).usage = mergeReports none chunks := by
  rw [assemble_eq hlast, Assembly.response, foldl_add_usage h]

/-- the identifier and the model that all fragments name -/
theorem assemble_speaker (hlast : last.isDone = true) (h : ∀ c ∈ chunks, c.isDone = false)
    (hne : chunks ≠ []) {id model : String} (hs : ∀ c ∈ chunks, c.id = id ∧ c.model = model) :
    (assemble (chunks ++ [last])).id = id ∧ (assemble (chunks ++ [last])).model = model := by
  obtain ⟨c, chunks, rfl⟩ := List.exists_cons_of_ne_nil hne
  obtain ⟨hid, hmodel⟩ := hs c List.mem_cons_self
  have hfirst : (({} : Assembly).add c).id = id ∧ (({} : Assembly).add c).model = model := by
    rw [Assembly.add, h c List.mem_cons_self]
    exact ⟨hid, hmodel⟩
  rw [assemble_eq hlast, List.foldl_cons]
  exact foldl_add_speaker (fun x hx => h x (List.mem_cons_of_mem _ hx))
    (fun x hx => hs x (List.mem_cons_of_mem _ hx)) hfirst

end Response
end ChatRelay
