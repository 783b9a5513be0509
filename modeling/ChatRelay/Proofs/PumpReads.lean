import ChatRelay.Proofs.FeedReads

/-!
# What is read from a pump

A poll says the first of what a pump has still to say and leaves the rest.  With a fault this is
the end, but not for every pump: a source goes on behind its faults, and so do results at hand.
Every operation on top of them stops for good.

* `feed_poll`            what a poll says of what the pump has still to say;
* `lasts_poll`           an operation says nothing behind its end or a fault;
* `reads_eq_reads_feed`  any number of polls of an operation read its feed;
* `reads_source`         polls of a bare source.
-/

namespace ChatRelay

namespace Feed

variable {α : Type}

theorem pulling_pulling (n m : Nat) (x : Feed α) :
    (x.pulling m).pulling n = x.pulling (n + m) := by
  induction n with
  | zero => rw [Nat.zero_add, pulling]
  | succ n ih => rw [Nat.add_right_comm, pulling, pulling, ih]

theorem reads_pulling (n : Nat) (x : Feed α) (count : Nat) :
    (x.pulling n).reads (count + 1)
      = ((x.reads (count + 1)).1, n + (x.reads (count + 1)).2) := by
  induction n with
  | zero => rw [pulling, Nat.zero_add]
  | succ n ih => rw [pulling, reads_pull, ih, Nat.add_right_comm]

end Feed

/-- what a poll says, and what the pump behind it has still to say -/
def Polled.feed {α : Type} (r : Polled α) : Feed α :=
  .pulling r.pulled <| match r.result with
    | some (.ok a) => .item a r.next.feed
    | some (.error f) => .fail f
    | none => .done

theorem Polled.feed_behind {α : Type} (n : Nat) (r : Polled α) :
    (r.behind n).feed = r.feed.pulling n :=
  (Feed.pulling_pulling n r.pulled _).symm

namespace Pump

variable {α : Type}

/-- a poll says the first of what there is to say, and leaves the rest -/
theorem feed_poll (p : Pump α) : p.poll.feed = p.feed := by
  fun_induction poll p with
  | case1 p a n next h | case2 p f n next h | case3 p n next h =>
    rw [← feed_round p, h]
    rfl
  | case4 p n next h hless ih => rw [← feed_round p, h, Polled.feed_behind, ih, Round.feed]

/-! ## operations -/

/-- whether a pump stands on top of another -/
def isOperation {α : Type} : Pump α → Bool
  | source _ | atHand _ => false
  | scan .. | append .. => true

end Pump

/-- an operation is left, and behind the end or a fault it has nothing to say -/
def Round.Lasts {α : Type} : Round α → Prop
  | .item _ _ next | .again _ next => next.isOperation
  | .fail _ _ next | .done _ next => next.isOperation ∧ next.feed = .done

/-- an operation is left, and without an item it has nothing to say any more -/
def Polled.Lasts {α : Type} (r : Polled α) : Prop :=
  r.next.isOperation ∧ ((∀ a, r.result ≠ some (.ok a)) → r.next.feed = .done)

namespace Pump

variable {α : Type}

theorem lasts_round {p : Pump α} (h : p.isOperation) : p.round.Lasts := by
  cases p with
  | source rest | atHand rest => exact nomatch h
  | scan inner step trailer state queue finished =>
    match queue, finished, state with
    | b :: queue, finished, state => rfl
    | [], true, state => exact ⟨rfl, rfl⟩
    | [], false, none => rfl
    | [], false, some s =>
      rw [round]
      cases inner.round with
      | item a n inner =>
        dsimp only
        cases step s a with
        | ok r => rfl
        | error f => exact ⟨rfl, rfl⟩
      | fail f n inner => exact ⟨rfl, rfl⟩
      | done n inner =>
        cases trailer with
        | none => rfl
        | some ending =>
          dsimp only
          cases ending s with
          | ok bs => rfl
          | error f => exact ⟨rfl, rfl⟩
      | again n inner => rfl
  | append first second stage =>
    cases stage with
    | first =>
      rw [round]
      cases first.round with
      | item a n first | done n first | again n first => rfl
      | fail f n first => exact ⟨rfl, rfl⟩
    | second =>
      rw [round]
      cases second.round with
      | item a n second | again n second => rfl
      | fail f n second | done n second => exact ⟨rfl, rfl⟩
    | done => exact ⟨rfl, rfl⟩

/-- an operation says nothing behind its end or a fault -/
theorem lasts_poll {p : Pump α} (hp : p.isOperation) : p.poll.Lasts := by
  fun_induction poll p with
  | case1 p a n next h =>
    have hlasts := lasts_round hp
    rw [h] at hlasts
    exact ⟨hlasts, fun hno => absurd rfl (hno a)⟩
  | case2 p f n next h | case3 p n next h =>
    have hlasts := lasts_round hp
    rw [h] at hlasts
    exact ⟨hlasts.1, fun _ => hlasts.2⟩
  | case4 p n next h hless ih =>
    have hlasts := lasts_round hp
    rw [h] at hlasts
    exact ih hlasts

/-- any number of polls of an operation read what it has to say -/
theorem reads_eq_reads_feed {p : Pump α} (hp : p.isOperation) (count : Nat) :
    p.reads count = p.feed.reads count := by
  induction count generalizing p with
  | zero => rfl
  | succ count ih =>
    obtain ⟨hnext, hsilent⟩ := lasts_poll hp
    rw [reads, ih hnext, ← feed_poll p, Polled.feed, Feed.reads_pulling]
    cases hresult : p.poll.result with
    | none =>
      rw [hsilent (by rw [hresult]; exact nofun), Feed.reads_done, Feed.reads_done]
      rfl
    | some r =>
      cases r with
      | ok a => rw [Feed.reads_item]
      | error f =>
        rw [hsilent (by rw [hresult]; exact nofun), Feed.reads_done, Feed.reads_fail]

/-! ## bare sources -/

theorem poll_source_nil : (source [] : Pump α).poll = ⟨none, 0, source []⟩ := by
  rw [poll]
  rfl

theorem poll_source_cons (r : Except Fault α) (rs : List (Except Fault α)) :
    (source (r :: rs)).poll = ⟨some r, 1, source rs⟩ := by
  rw [poll]
  cases r <;> rfl

/-- a bare source gives all that is in it, also what stands behind a fault -/
theorem reads_source (rs : List (Except Fault α)) (count : Nat) :
    (source rs).reads count = ((List.range count).map (rs[·]?), min count rs.length) := by
  induction count generalizing rs with
  | zero => simp [reads]
  | succ count ih =>
    cases rs with
    | nil =>
      rw [reads, poll_source_nil, ih, Feed.map_getElem?_range_nil, Feed.map_getElem?_range_nil]
      simp [List.replicate_succ]
    | cons r rs =>
      rw [reads, poll_source_cons, ih, Feed.map_getElem?_range_succ, List.length_cons,
        Nat.succ_min_succ, ← Nat.one_add]

end Pump
end ChatRelay
