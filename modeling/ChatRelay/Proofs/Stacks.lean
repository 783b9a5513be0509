import ChatRelay.Proofs.PumpReads

/-!
# Stacks of operations on streams

A stack says which operations stand on which sources.  It is read in three ways: as a pump, as a
feed, and as what its lists of results come to, where each operation makes of a list of items with
an ending another such list.  All agree, read by read, on the results and on the number of items
that are taken, which is the least that tells the results.

* `Stack.denote`         the results of the whole stack;
* `Stack.after`          the results that are known once so many items were taken;
* `after_of_size_le`     once all were taken, the whole is known;
* `reads_pump_stack`     what any number of reads gives and takes.
-/

namespace ChatRelay

/-- operations on sources that are taken from, and on results that are at hand.  A function with a
memory of its own is a `scan` whose trailer gives nothing. -/
inductive Stack : Type → Type 1 where
  | source {α : Type} (results : List (Except Fault α)) : Stack α
  | atHand {α : Type} (results : List (Except Fault α)) : Stack α
  | map {α β : Type} (f : α → β) (s : Stack α) : Stack β
  | tryMap {α β : Type} (f : α → Except Fault β) (s : Stack α) : Stack β
  | filter {α : Type} (keep : α → Bool) (s : Stack α) : Stack α
  | flatMap {α β : Type} (step : α → Except Fault (List β)) (s : Stack α) : Stack β
  | scan {α β σ : Type} (step : σ → α → Except Fault (List β × σ))
      (trailer : σ → Except Fault (List β)) (start : σ) (s : Stack α) : Stack β
  | append {α : Type} (s t : Stack α) : Stack α

namespace Stack

/-- an operation stands on top -/
def isOperation {α : Type} : Stack α → Bool
  | source _ | atHand _ => false
  | map .. | tryMap .. | filter .. | flatMap .. | scan .. | append .. => true

/-- the stack as a pump -/
def pump {α : Type} : Stack α → Pump α
  | source rs => .source rs
  | atHand rs => .atHand rs
  | map f s => s.pump.map f
  | tryMap f s => s.pump.tryMap f
  | filter keep s => s.pump.filter keep
  | flatMap step s => s.pump.flatMap step
  | scan step trailer start s => s.pump.scanning step trailer start
  | append s t => s.pump.andThen t.pump

/-- the stack as a feed -/
def feed {α : Type} : Stack α → Feed α
  | source rs => .ofSource rs
  | atHand rs => .ofResults rs
  | map f s => s.feed.map f
  | tryMap f s => s.feed.tryMap f
  | filter keep s => s.feed.filter keep
  | flatMap step s => s.feed.flatMap step
  | scan step trailer start s => s.feed.scan step trailer start
  | append s t => s.feed.append t.feed

/-- what the stack comes to -/
def denote {α : Type} : Stack α → Known α
  | source rs | atHand rs => .ofResults rs .done
  | map f s => s.denote.map f
  | tryMap f s => s.denote.tryMap f
  | filter keep s => s.denote.filter keep
  | flatMap step s => s.denote.flatMap step
  | scan step trailer start s => s.denote.scan step trailer start
  | append s t => s.denote.append t.denote

/-- how many items there are to take -/
def size {α : Type} : Stack α → Nat
  | source rs => rs.length
  | atHand _ => 0
  | map _ s | tryMap _ s | filter _ s | flatMap _ s | scan _ _ _ s => s.size
  | append s t => s.size + t.size

/-- what the first `n` items come to, as long as it is open what follows them -/
def after {α : Type} : Stack α → (n : Nat) → Known α
  | source rs, n => .ofResults (rs.take n) (if rs.length ≤ n then .done else .more)
  | atHand rs, _ => .ofResults rs .done
  | map f s, n => (s.after n).map f
  | tryMap f s, n => (s.after n).tryMap f
  | filter keep s, n => (s.after n).filter keep
  | flatMap step s, n => (s.after n).flatMap step
  | scan step trailer start s, n => (s.after n).scan step trailer start
  | append s t, n => (s.after n).append (t.after (n - s.size))

variable {α : Type}

/-- once all items were taken, the whole is known -/
theorem after_of_size_le {s : Stack α} {n : Nat} (h : s.size ≤ n) : s.after n = s.denote := by
  induction s generalizing n with
  | source rs =>
    rw [size] at h
    rw [after, denote, List.take_of_length_le h, if_pos h]
  | atHand rs => rfl
  | map f s ih => rw [after, denote, ih h]
  | tryMap f s ih => rw [after, denote, ih h]
  | filter keep s ih => rw [after, denote, ih h]
  | flatMap step s ih => rw [after, denote, ih h]
  | scan step trailer start s ih => rw [after, denote, ih h]
  | append s t ihs iht =>
    rw [size] at h
    rw [after, denote, ihs (Nat.le_trans (Nat.le_add_right _ _) h), iht (Nat.le_sub_of_add_le' h)]

/-! ## the stack as a feed -/

/-- a stack that ends without a fault has taken all there was to take -/
theorem pulls_feed {s : Stack α} (h : s.feed.fault? = none) : s.feed.pulls = s.size := by
  induction s with
  | source rs => exact Feed.pulls_ofSource h
  | atHand rs => exact Feed.pulls_ofResults rs
  | map _ s ih | tryMap _ s ih | filter _ s ih | flatMap _ s ih | scan _ _ _ s ih =>
    obtain ⟨hs, hpulls⟩ := Feed.pulls_scan h
    exact hpulls.trans (ih hs)
  | append s t ihs iht =>
    rw [feed, Feed.fault?_append, Option.or_eq_none_iff] at h
    rw [feed, Feed.pulls_append h.1, ihs h.1, iht h.2, size]

theorem after_feed (s : Stack α) (n : Nat) : s.feed.after n = s.after n := by
  induction s generalizing n with
  | source rs => exact Feed.after_ofSource rs n
  | atHand rs => exact Feed.after_ofResults rs n
  | map f s ih => exact (Feed.after_map f s.feed n).trans (congrArg _ (ih n))
  | tryMap f s ih => exact (Feed.after_tryMap f s.feed n).trans (congrArg _ (ih n))
  | filter keep s ih => exact (Feed.after_filter keep s.feed n).trans (congrArg _ (ih n))
  | flatMap step s ih => exact (Feed.after_flatMap step s.feed n).trans (congrArg _ (ih n))
  | scan step trailer start s ih =>
    exact (Feed.after_scan step trailer start s.feed n).trans (congrArg _ (ih n))
  | append s t ihs iht =>
    rw [feed, Feed.after_append, ihs, iht, after]
    cases hending : (s.after n).ending with
    | more | failed f => rw [Known.append, Known.append, hending]
    | done =>
      rw [← ihs] at hending
      rw [pulls_feed (Feed.fault?_of_ending_after hending)]

theorem denote_eq (s : Stack α) :
    s.denote = ⟨s.feed.items, s.feed.fault?.elim .done .failed⟩ := by
  rw [← Feed.after_of_pulls_le (Nat.le_max_left s.feed.pulls s.size), after_feed,
    after_of_size_le (Nat.le_max_right s.feed.pulls s.size)]

theorem results_feed (s : Stack α) : s.feed.results = s.denote.results := by
  rw [denote_eq, Known.results, Feed.results]
  cases s.feed.fault? <;> rfl

/-- what a stack comes to is a list with a fault at its end or without one -/
theorem ending_denote (s : Stack α) : s.denote.ending ≠ .more := by
  rw [denote_eq]
  cases s.feed.fault? <;> exact nofun

/-! ## the stack as a pump -/

theorem feed_pump (s : Stack α) : s.pump.feed = s.feed := by
  induction s with
  | source rs | atHand rs => rfl
  | map f s ih => exact congrArg (Feed.map f) ih
  | tryMap f s ih => exact congrArg (Feed.tryMap f) ih
  | filter keep s ih => exact congrArg (Feed.filter keep) ih
  | flatMap step s ih => exact congrArg (Feed.flatMap step) ih
  | scan step trailer start s ih => exact congrArg (Feed.scan step trailer start) ih
  | append s t ihs iht =>
    rw [feed, ← ihs, ← iht]
    rfl

theorem isOperation_pump (s : Stack α) : s.pump.isOperation = s.isOperation := by
  cases s <;> rfl

end Stack

/-! ## reads -/

/-- Any number of polls of a stack with an operation on top gives its results one by one and nothing
behind them, and takes the fewest items from which the results are known. -/
theorem reads_pump_stack {α : Type} {s : Stack α} (h : s.isOperation) (count : Nat) :
    ∃ taken, s.pump.reads count = ((List.range count).map (s.denote.results[·]?), taken) ∧
      s.feed.reads count = ((List.range count).map (s.denote.results[·]?), taken) ∧
      (s.after taken).Covers count ∧ ∀ n < taken, ¬ (s.after n).Covers count := by
  have hreads : s.feed.reads count
      = ((List.range count).map (s.denote.results[·]?), (s.feed.reads count).2) := by
    rw [← Stack.results_feed, ← Feed.reads_fst]
  refine ⟨(s.feed.reads count).2, ?_, hreads, ?_, fun n hn => ?_⟩
  · rw [Pump.reads_eq_reads_feed (s.isOperation_pump.trans h), Stack.feed_pump, ← hreads]
  · rw [← Stack.after_feed]
    exact Feed.reads_snd_covers s.feed count
  · rw [← Stack.after_feed]
    exact Feed.not_covers_of_lt s.feed hn

/-- an operation on each side of a trailer, and a fault behind it -/
theorem reads_pump_stack_trailer :
    let sums : Stack Nat := .scan (fun n a => .ok ([n + a], n + a)) (fun n => .ok [100 * n]) 0
      (.filter (· % 2 = 0) (.source [.ok 1, .ok 2, .ok 3]))
    let s : Stack Nat := .append sums (.atHand [.error (.streaming "lost"), .ok 7])
    s.pump.reads 5
      = ([some (.ok 2), some (.ok 200), some (.error (.streaming "lost")), none, none], 3) ∧
    s.pump.reads 1 = ([some (.ok 2)], 2) := by
  intro sums s
  obtain ⟨all, hall, hfeed, -⟩ := reads_pump_stack (s := s) rfl 5
  obtain ⟨one, hone, hfeed', -⟩ := reads_pump_stack (s := s) rfl 1
  obtain rfl : all = 3 := (congrArg Prod.snd hfeed).symm
  obtain rfl : one = 2 := (congrArg Prod.snd hfeed').symm
  exact ⟨hall, hone⟩

end ChatRelay
