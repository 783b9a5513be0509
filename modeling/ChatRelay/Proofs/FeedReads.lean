import ChatRelay.Feed.Pump

/-!
# What is read from a feed, and what is taken for it

While a source is taken from, what is known of a stream grows: some items, and whether there is more
to come, nothing, or a fault.  `Known` is this, with the operations on streams as operations on
lists.  A feed gives its reader one result a read, and takes an item only when what is known from
the items before leaves the reader without a result.

* `Feed.after`            what is known of a feed once so many items were taken;
* `reads_fst`             what reads give, and that they give nothing behind the results;
* `reads_snd_covers`, `not_covers_of_lt`   the items taken are just enough;
* `after_scan`, `after_flatMap`, `after_map`, `after_tryMap`, `after_filter`, `after_append`
  what the operations on feeds do to what is known.
-/

namespace ChatRelay

/-- how a stream goes on behind the items that are known -/
inductive Ending where
  | more
  | done
  | failed (f : Fault)
  deriving DecidableEq, Repr

/-- what is known of a stream -/
structure Known (α : Type) where
  items : List α
  ending : Ending
  deriving DecidableEq, Repr

namespace Known

variable {α β σ : Type}

/-- the results that are known: the items, then the fault -/
def results (k : Known α) : List (Except Fault α) :=
  k.items.map .ok ++ match k.ending with
    | .failed f => [.error f]
    | .more | .done => []

/-- items in front of what is known -/
def behind (as : List α) (k : Known α) : Known α := ⟨as ++ k.items, k.ending⟩

/-- what results say up to the first fault among them, and what comes after them if there is none -/
def ofResults : List (Except Fault α) → Ending → Known α
  | [], ending => ⟨[], ending⟩
  | .ok a :: rest, ending => (ofResults rest ending).behind [a]
  | .error f :: _, _ => ⟨[], .failed f⟩

/-- every item to one -/
def map (f : α → β) (k : Known α) : Known β := ⟨k.items.map f, k.ending⟩

/-- the items that a test accepts -/
def filter (keep : α → Bool) (k : Known α) : Known α := ⟨k.items.filter keep, k.ending⟩

/-- the outputs of each item in order; the first fault of a step is the last result -/
def outputs (step : α → Except Fault (List β)) : List α → Ending → Known β
  | [], ending => ⟨[], ending⟩
  | a :: as, ending =>
    match step a with
    | .ok bs => (outputs step as ending).behind bs
    | .error f => ⟨[], .failed f⟩

/-- every item to many -/
def flatMap (step : α → Except Fault (List β)) (k : Known α) : Known β :=
  outputs step k.items k.ending

/-- every item to one that may fail -/
def tryMap (f : α → Except Fault β) (k : Known α) : Known β := k.flatMap fun a => (f a).map ([·])

/-- the outputs of each item through a state; the trailer follows only where the items have ended
without a fault -/
def stateOutputs (step : σ → α → Except Fault (List β × σ)) (trailer : σ → Except Fault (List β)) :
    σ → List α → Ending → Known β
  | s, [], .done =>
    match trailer s with
    | .ok bs => ⟨bs, .done⟩
    | .error f => ⟨[], .failed f⟩
  | _, [], ending => ⟨[], ending⟩
  | s, a :: as, ending =>
    match step s a with
    | .ok (bs, next) => (stateOutputs step trailer next as ending).behind bs
    | .error f => ⟨[], .failed f⟩

/-- every item to many through a state, with a trailer -/
def scan (step : σ → α → Except Fault (List β × σ)) (trailer : σ → Except Fault (List β)) (s : σ)
    (k : Known α) : Known β :=
  stateOutputs step trailer s k.items k.ending

/-- what is known of a stream that another follows once it has ended without a fault -/
def append (k l : Known α) : Known α :=
  match k.ending with
  | .done => l.behind k.items
  | .more | .failed _ => k

/-- so many results can be read, or there are no more to wait for -/
def Covers (k : Known α) (count : Nat) : Prop := count ≤ k.results.length ∨ k.ending ≠ .more

theorem behind_append (as bs : List α) (k : Known α) :
    k.behind (as ++ bs) = (k.behind bs).behind as := by
  simp [behind]

theorem results_behind (as : List α) (k : Known α) :
    (k.behind as).results = as.map .ok ++ k.results := by
  simp [results, behind]

theorem append_behind (as : List α) (k l : Known α) :
    (k.behind as).append l = (k.append l).behind as := by
  obtain ⟨items, ending⟩ := k
  cases ending <;> simp [append, behind]

/-- a step with no state to speak of, and no trailer -/
theorem scan_flatMap (step : α → Except Fault (List β)) (k : Known α) :
    k.scan (fun (_ : Unit) a => (step a).map (·, ())) (fun _ => .ok []) () = k.flatMap step := by
  obtain ⟨as, ending⟩ := k
  rw [scan, flatMap]
  induction as with
  | nil => cases ending <;> rfl
  | cons a as ih =>
    rw [stateOutputs, outputs]
    cases step a with
    | error f => rfl
    | ok bs => exact congrArg (·.behind bs) ih

theorem flatMap_map (f : α → β) (k : Known α) : (k.flatMap fun a => .ok [f a]) = k.map f := by
  obtain ⟨as, ending⟩ := k
  rw [flatMap, map]
  induction as with
  | nil => rfl
  | cons a as ih => exact congrArg (·.behind [f a]) ih

theorem flatMap_filter (keep : α → Bool) (k : Known α) :
    (k.flatMap fun a => .ok (if keep a then [a] else [])) = k.filter keep := by
  obtain ⟨as, ending⟩ := k
  rw [flatMap, filter]
  induction as with
  | nil => rfl
  | cons a as ih =>
    rw [outputs, List.filter_cons]
    dsimp only at ih ⊢
    rw [ih]
    cases keep a <;> rfl

theorem covers_zero (k : Known α) : k.Covers 0 := .inl (Nat.zero_le _)

theorem covers_behind (a : α) (k : Known α) (count : Nat) :
    (k.behind [a]).Covers (count + 1) ↔ k.Covers count := by
  rw [Covers, Covers, results_behind]
  simp [behind]

end Known

namespace Feed

variable {α β σ : Type}

/-- what is known of a feed once `n` items were taken -/
def after : Feed α → (n : Nat) → Known α
  | done, _ => ⟨[], .done⟩
  | fail f, _ => ⟨[], .failed f⟩
  | item a rest, n => (rest.after n).behind [a]
  | pull _, 0 => ⟨[], .more⟩
  | pull rest, n + 1 => rest.after n

/-! ## reads -/

theorem reads_item (a : α) (rest : Feed α) (count : Nat) : (item a rest).reads (count + 1)
    = (some (.ok a) :: (rest.reads count).1, (rest.reads count).2) := by
  simp [reads, read]

theorem reads_pull (rest : Feed α) (count : Nat) : (pull rest).reads (count + 1)
    = ((rest.reads (count + 1)).1, (rest.reads (count + 1)).2 + 1) := by
  simp [reads, read, Nat.add_right_comm]

theorem reads_done (count : Nat) :
    (done : Feed α).reads count = (List.replicate count none, 0) := by
  induction count with
  | zero => rfl
  | succ count ih => simp [reads, read, ih, List.replicate_succ]

theorem reads_fail (f : Fault) (count : Nat) : (fail f : Feed α).reads (count + 1)
    = (some (.error f) :: List.replicate count none, 0) := by
  simp [reads, read, reads_done]

/-- the first places of a list, filled as far as it goes -/
theorem map_getElem?_range_succ {ρ : Type} (r : ρ) (rs : List ρ) (count : Nat) :
    (List.range (count + 1)).map ((r :: rs)[·]?) = some r :: (List.range count).map (rs[·]?) := by
  simp [List.range_succ_eq_map, Function.comp_def]

theorem map_getElem?_range_nil {ρ : Type} (count : Nat) :
    (List.range count).map (([] : List ρ)[·]?) = List.replicate count none := by
  simp [List.map_const']

/-- a read for each result, and nothing behind them -/
theorem reads_fst (x : Feed α) (count : Nat) :
    (x.reads count).1 = (List.range count).map (x.results[·]?) := by
  induction x generalizing count with
  | done =>
    rw [reads_done]
    exact (map_getElem?_range_nil count).symm
  | fail f =>
    cases count with
    | zero => rfl
    | succ count =>
      rw [reads_fail, ← map_getElem?_range_nil]
      exact (map_getElem?_range_succ (Except.error f) [] count).symm
  | item a rest ih =>
    cases count with
    | zero => rfl
    | succ count =>
      rw [reads_item, ih]
      exact (map_getElem?_range_succ (Except.ok a) rest.results count).symm
  | pull rest ih =>
    cases count with
    | zero => rfl
    | succ count =>
      rw [reads_pull]
      exact ih (count + 1)

/-- the items taken are enough -/
theorem reads_snd_covers (x : Feed α) (count : Nat) :
    (x.after (x.reads count).2).Covers count := by
  induction x generalizing count with
  | done | fail f => exact .inr nofun
  | item a rest ih =>
    cases count with
    | zero => exact Known.covers_zero _
    | succ count =>
      rw [reads_item]
      exact (Known.covers_behind a _ count).mpr (ih count)
  | pull rest ih =>
    cases count with
    | zero => exact Known.covers_zero _
    | succ count =>
      rw [reads_pull]
      exact ih (count + 1)

/-- fewer items than are taken are not enough -/
theorem not_covers_of_lt (x : Feed α) {count m : Nat} (h : m < (x.reads count).2) :
    ¬ (x.after m).Covers count := by
  cases count with
  | zero => exact absurd h (Nat.not_lt_zero m)
  | succ count =>
    induction x generalizing count m with
    | done =>
      rw [reads_done] at h
      exact absurd h (Nat.not_lt_zero m)
    | fail f =>
      rw [reads_fail] at h
      exact absurd h (Nat.not_lt_zero m)
    | item a rest ih =>
      rw [reads_item] at h
      rw [after, Known.covers_behind]
      cases count with
      | zero => exact absurd h (Nat.not_lt_zero m)
      | succ count => exact ih count h
    | pull rest ih =>
      rw [reads_pull] at h
      cases m with
      | zero =>
        -- an item stands before all results, so that none is known without it
        rintro (hlength | hending)
        · exact absurd hlength (Nat.not_succ_le_zero count)
        · exact hending rfl
      | succ m => exact ih count (Nat.lt_of_succ_lt_succ h)

/-! ## operations -/

theorem after_prepend (as : List α) (x : Feed α) (n : Nat) :
    (prepend as x).after n = (x.after n).behind as := by
  induction as with
  | nil => rfl
  | cons a as ih =>
    rw [prepend_cons, after, ih, ← Known.behind_append]
    rfl

theorem after_ofList (as : List α) (n : Nat) : (ofList as).after n = ⟨as, .done⟩ := by
  rw [ofList, after_prepend]
  simp [after, Known.behind]

theorem after_scan (step : σ → α → Except Fault (List β × σ))
    (trailer : σ → Except Fault (List β)) (s : σ) (x : Feed α) (n : Nat) :
    (scan step trailer s x).after n = (x.after n).scan step trailer s := by
  induction x generalizing s n with
  | done =>
    rw [scan, after, Known.scan, Known.stateOutputs]
    cases trailer s with
    | ok bs => exact after_ofList bs n
    | error f => rfl
  | fail f => rfl
  | item a rest ih =>
    rw [scan, after, Known.scan, Known.behind, List.singleton_append, Known.stateOutputs]
    cases step s a with
    | error f => rfl
    | ok r => exact (after_prepend r.1 _ n).trans (congrArg (·.behind r.1) (ih r.2 n))
  | pull rest ih =>
    cases n with
    | zero => rfl
    | succ n => exact ih s n

theorem after_flatMap (step : α → Except Fault (List β)) (x : Feed α) (n : Nat) :
    (x.flatMap step).after n = (x.after n).flatMap step :=
  (after_scan _ _ () x n).trans (Known.scan_flatMap step _)

theorem after_tryMap (f : α → Except Fault β) (x : Feed α) (n : Nat) :
    (x.tryMap f).after n = (x.after n).tryMap f :=
  after_flatMap _ x n

theorem after_map (f : α → β) (x : Feed α) (n : Nat) : (x.map f).after n = (x.after n).map f :=
  (after_tryMap _ x n).trans (Known.flatMap_map f _)

theorem after_filter (keep : α → Bool) (x : Feed α) (n : Nat) :
    (x.filter keep).after n = (x.after n).filter keep :=
  (after_flatMap _ x n).trans (Known.flatMap_filter keep _)

/-- of one feed after another, the second gives what the items left over by the first come to -/
theorem after_append (x y : Feed α) (n : Nat) :
    (x.append y).after n = (x.after n).append (y.after (n - x.pulls)) := by
  induction x generalizing n with
  | done => rfl
  | fail f => rfl
  | item a rest ih =>
    rw [append, after, ih, after, Known.append_behind]
    rfl
  | pull rest ih =>
    cases n with
    | zero => rfl
    | succ n =>
      rw [append, after, ih, after, pulls, Nat.add_sub_add_right]

/-! ## sources, and whole feeds -/

theorem after_ofResults (rs : List (Except Fault α)) (n : Nat) :
    (ofResults rs).after n = .ofResults rs .done := by
  induction rs with
  | nil => rfl
  | cons r rs ih =>
    cases r with
    | error f => rfl
    | ok a => exact congrArg (·.behind [a]) ih

theorem after_ofSource (rs : List (Except Fault α)) (n : Nat) :
    (ofSource rs).after n
      = .ofResults (rs.take n) (if rs.length ≤ n then .done else .more) := by
  induction rs generalizing n with
  | nil => simp [ofSource, after, Known.ofResults]
  | cons r rs ih =>
    cases n with
    | zero => cases r <;> rfl
    | succ n =>
      cases r with
      | error f => rfl
      | ok a =>
        rw [ofSource, after, after, ih, List.take_succ_cons, Known.ofResults]
        simp

/-- once all items are taken, all is known -/
theorem after_of_pulls_le {x : Feed α} {n : Nat} (h : x.pulls ≤ n) :
    x.after n = ⟨x.items, x.fault?.elim .done .failed⟩ := by
  induction x generalizing n with
  | done | fail f => rfl
  | item a rest ih =>
    rw [after, ih h]
    rfl
  | pull rest ih =>
    cases n with
    | zero => exact absurd h (Nat.not_succ_le_zero _)
    | succ n => exact ih (Nat.le_of_succ_le_succ h)

theorem fault?_of_ending_after {x : Feed α} {n : Nat} (h : (x.after n).ending = .done) :
    x.fault? = none := by
  induction x generalizing n with
  | done => rfl
  | fail f => exact nomatch h
  | item a rest ih => exact ih (n := n) h
  | pull rest ih =>
    cases n with
    | zero => exact nomatch h
    | succ n => exact ih h

/-! ## items taken for a whole feed -/

theorem pulls_prepend (as : List α) (x : Feed α) : (prepend as x).pulls = x.pulls := by
  induction as with
  | nil => rfl
  | cons a as ih => exact ih

/-- a scan that ends without a fault has taken all its feed had to give -/
theorem pulls_scan {step : σ → α → Except Fault (List β × σ)}
    {trailer : σ → Except Fault (List β)} {s : σ} {x : Feed α}
    (h : (scan step trailer s x).fault? = none) :
    x.fault? = none ∧ (scan step trailer s x).pulls = x.pulls := by
  induction x generalizing s with
  | done =>
    refine ⟨rfl, ?_⟩
    rw [scan]
    cases trailer s with
    | ok bs => exact pulls_prepend bs done
    | error f => rfl
  | fail f => exact absurd h (Option.some_ne_none f)
  | item a rest ih =>
    rw [scan] at h ⊢
    cases hstep : step s a with
    | ok r =>
      simp only [hstep, fault?_prepend] at h
      simp only [pulls_prepend]
      exact ih h
    | error f =>
      rw [hstep] at h
      exact absurd h (Option.some_ne_none f)
  | pull rest ih => exact (ih h).imp_right (congrArg (· + 1))

theorem pulls_append {x : Feed α} (h : x.fault? = none) (y : Feed α) :
    (x.append y).pulls = x.pulls + y.pulls := by
  induction x with
  | done => exact (Nat.zero_add _).symm
  | fail f => exact nomatch h
  | item a rest ih => exact ih h
  | pull rest ih => rw [append, pulls, pulls, ih h, Nat.add_right_comm]

theorem pulls_ofResults (rs : List (Except Fault α)) : (ofResults rs).pulls = 0 := by
  induction rs with
  | nil => rfl
  | cons r rs ih =>
    cases r with
    | error f => rfl
    | ok a => exact ih

theorem pulls_ofSource {rs : List (Except Fault α)} (h : (ofSource rs).fault? = none) :
    (ofSource rs).pulls = rs.length := by
  induction rs with
  | nil => rfl
  | cons r rs ih =>
    cases r with
    | error f => exact nomatch h
    | ok a => exact congrArg (· + 1) (ih h)

end Feed
end ChatRelay
