import ChatRelay.Fault

/-!
# Feeds

A feed is a finite stream as its reader meets it: results, each after the items that had to be
taken from the source for it, and at the end nothing more or a fault.  `pull` stands where one item
is taken.  An operation on feeds is lazy because it leaves every `pull` in front of what that item
gives.

* `Feed.ofSource`, `Feed.ofResults`    a source that is taken from, results that are at hand;
* `Feed.scan`                          every item to many through a state, with a trailer;
* `Feed.flatMap`, `map`, `tryMap`, `filter`, `append`  what is made of it;
* `Feed.items`, `Feed.fault?`          what a reader of the whole feed gets, and how it ends;
* `items_scan`, `fault?_scan`          what `scan` does to them, by `scanItems`.
-/

namespace ChatRelay

/-- a finite stream with a mark where an item is taken from the source -/
inductive Feed (α : Type) where
  | done
  | fail (f : Fault)
  | item (a : α) (rest : Feed α)
  | pull (rest : Feed α)
  deriving DecidableEq, Repr

namespace Feed

variable {α β σ : Type}

/-! ## sources -/

/-- a source that is taken from item by item; a fault ends it -/
def ofSource : List (Except Fault α) → Feed α
  | [] => done
  | .ok a :: rest => pull (item a (ofSource rest))
  | .error f :: _ => pull (fail f)

/-- items at hand, with `next` behind them -/
def prepend (as : List α) (next : Feed α) : Feed α := as.foldr item next

/-- a list at hand -/
def ofList (as : List α) : Feed α := prepend as done

/-- results at hand; a fault ends them -/
def ofResults : List (Except Fault α) → Feed α
  | [] => done
  | .ok a :: rest => item a (ofResults rest)
  | .error f :: _ => fail f

@[simp] theorem prepend_nil (next : Feed α) : prepend [] next = next := rfl
@[simp] theorem prepend_cons (a : α) (as : List α) (next : Feed α) :
    prepend (a :: as) next = item a (prepend as next) := rfl

/-! ## operations -/

/-- every item to many through a state.  A fault of a step ends the feed; the trailer is asked for
once, where the feed ends without a fault. -/
def scan (step : σ → α → Except Fault (List β × σ)) (trailer : σ → Except Fault (List β)) :
    σ → Feed α → Feed β
  | s, done =>
    match trailer s with
    | .ok bs => ofList bs
    | .error f => fail f
  | _, fail f => fail f
  | s, item a rest =>
    match step s a with
    | .ok (bs, next) => prepend bs (scan step trailer next rest)
    | .error f => fail f
  | s, pull rest => pull (scan step trailer s rest)

/-- every item to many; the first fault ends the feed -/
def flatMap (step : α → Except Fault (List β)) (x : Feed α) : Feed β :=
  scan (fun (_ : Unit) a => (step a).map (·, ())) (fun _ => .ok []) () x

/-- every item to one; the first fault ends the feed -/
def tryMap (f : α → Except Fault β) (x : Feed α) : Feed β :=
  x.flatMap fun a => (f a).map ([·])

/-- every item to one -/
def map (f : α → β) (x : Feed α) : Feed β := x.tryMap fun a => .ok (f a)

/-- the items that a test accepts -/
def filter (keep : α → Bool) (x : Feed α) : Feed α :=
  x.flatMap fun a => .ok (if keep a then [a] else [])

/-- one feed after another; a fault of the first ends both -/
def append : Feed α → Feed α → Feed α
  | done, y => y
  | fail f, _ => fail f
  | item a rest, y => item a (append rest y)
  | pull rest, y => pull (append rest y)

/-! ## the whole feed -/

/-- the items of a feed -/
def items : Feed α → List α
  | done | fail _ => []
  | item a rest => a :: items rest
  | pull rest => items rest

/-- the fault a feed ends with -/
def fault? : Feed α → Option Fault
  | done => none
  | fail f => some f
  | item _ rest | pull rest => fault? rest

/-- how many items are taken for a whole feed -/
def pulls : Feed α → Nat
  | done | fail _ => 0
  | item _ rest => pulls rest
  | pull rest => pulls rest + 1

/-- the results of a feed: its items, then its fault -/
def results (x : Feed α) : List (Except Fault α) :=
  x.items.map .ok ++ (x.fault?.map Except.error).toList

@[simp] theorem items_prepend (as : List α) (x : Feed α) :
    (prepend as x).items = as ++ x.items := by
  induction as with
  | nil => rfl
  | cons a as ih => simp [items, ih]

@[simp] theorem fault?_prepend (as : List α) (x : Feed α) :
    (prepend as x).fault? = x.fault? := by
  induction as with
  | nil => rfl
  | cons a as ih => simpa [fault?] using ih

@[simp] theorem items_ofSource_ok (as : List α) : (ofSource (as.map .ok)).items = as := by
  induction as with
  | nil => rfl
  | cons a as ih => exact congrArg (a :: ·) ih

@[simp] theorem fault?_ofSource_ok (as : List α) : (ofSource (as.map .ok)).fault? = none := by
  induction as with
  | nil => rfl
  | cons a as ih => exact ih

@[simp] theorem items_ofList (as : List α) : (ofList as).items = as := by simp [ofList, items]
@[simp] theorem fault?_ofList (as : List α) : (ofList as).fault? = none := by
  simp [ofList, fault?]

/-- what `scan` makes of a list of items and the fault behind them -/
def scanItems (step : σ → α → Except Fault (List β × σ)) (trailer : σ → Except Fault (List β)) :
    σ → List α → Option Fault → List β × Option Fault
  | _, [], some f => ([], some f)
  | s, [], none =>
    match trailer s with
    | .ok bs => (bs, none)
    | .error f => ([], some f)
  | s, a :: as, ending =>
    match step s a with
    | .ok (bs, next) =>
      let (rest, last) := scanItems step trailer next as ending
      (bs ++ rest, last)
    | .error f => ([], some f)

/-- the items and the ending of a scanned feed depend on those of the feed alone -/
theorem scan_eq_scanItems (step : σ → α → Except Fault (List β × σ))
    (trailer : σ → Except Fault (List β)) (s : σ) (x : Feed α) :
    ((scan step trailer s x).items, (scan step trailer s x).fault?) =
      scanItems step trailer s x.items x.fault? := by
  induction x generalizing s with
  | done =>
    simp only [scan, items, fault?, scanItems]
    split <;> simp [items, fault?]
  | fail f => simp [scan, items, fault?, scanItems]
  | item a rest ih =>
    simp only [scan, items, fault?, scanItems]
    split
    · next bs next h => simp [← ih next]
    · simp [items, fault?]
  | pull rest ih => simpa [scan, items, fault?] using ih s

theorem items_scan (step : σ → α → Except Fault (List β × σ))
    (trailer : σ → Except Fault (List β)) (s : σ) (x : Feed α) :
    (scan step trailer s x).items = (scanItems step trailer s x.items x.fault?).1 :=
  congrArg Prod.fst (scan_eq_scanItems step trailer s x)

theorem fault?_scan (step : σ → α → Except Fault (List β × σ))
    (trailer : σ → Except Fault (List β)) (s : σ) (x : Feed α) :
    (scan step trailer s x).fault? = (scanItems step trailer s x.items x.fault?).2 :=
  congrArg Prod.snd (scan_eq_scanItems step trailer s x)

/-- where steps fail with what their item reports, and the trailer never, a scan ends with the first
report -/
theorem scanItems_snd {step : σ → α → Except Fault (List β × σ)}
    {trailer : σ → Except Fault (List β)} {report : α → Option Fault}
    (hstep : ∀ s a f, step s a = .error f ↔ report a = some f)
    (htrailer : ∀ s f, trailer s ≠ .error f) (s : σ) (as : List α) :
    (scanItems step trailer s as none).2 = as.findSome? report := by
  induction as generalizing s with
  | nil =>
    rw [scanItems]
    split
    · rfl
    · next f h => exact absurd h (htrailer s f)
  | cons a as ih =>
    rw [scanItems]
    split
    · next bs next h =>
      have ha : report a = none := by
        refine Option.eq_none_iff_forall_ne_some.mpr fun f hf => ?_
        rw [(hstep s a f).mpr hf] at h
        exact nomatch h
      rw [List.findSome?_cons_of_isNone (by rw [ha]; rfl)]
      exact ih next
    · next f h =>
      have ha : report a = some f := (hstep s a f).mp h
      rw [List.findSome?_cons, ha]

theorem items_append (x y : Feed α) :
    (x.append y).items = x.items ++ if x.fault?.isNone then y.items else [] := by
  induction x with
  | done => simp [append, items, fault?]
  | fail f => simp [append, items, fault?]
  | item a rest ih => simp [append, items, fault?, ih]
  | pull rest ih => simp [append, items, fault?, ih]

theorem fault?_append (x y : Feed α) : (x.append y).fault? = x.fault?.or y.fault? := by
  induction x with
  | done => simp [append, fault?]
  | fail f => simp [append, fault?]
  | item a rest ih => simpa [append, fault?] using ih
  | pull rest ih => simpa [append, fault?] using ih

end Feed
end ChatRelay
