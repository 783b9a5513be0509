import ChatRelay.Feed.Handle

/-!
# Pumps

A feed says what there is to read; a pump is what is read from.  It keeps the outputs of the last
item in a queue, the state of its steps, a trailer to be asked for once and a flag for its end, and
a poll goes round until there is something to say.

* `Pump.round`   one time round;
* `Pump.feed`, `feed_round`   what a pump has still to say, and what a round says of it;
* `Pump.work`, `work_round`   why a poll comes to an end;
* `Pump.poll`    the next result, the items taken for it, and the pump behind it;
* `Pump.reads`, `Feed.reads`   so many polls or reads, one after the other;
* `Pump.scanning`, `flatMap`, `map`, `tryMap`, `filter`, `andThen`   pumps on top of pumps, each
  ready for its first poll.
-/

namespace ChatRelay

/-- which of two pumps is read, or neither -/
inductive Pump.Stage where
  | first
  | second
  | done
  deriving DecidableEq, Repr

/-- what is read from: a source or results at hand, which keep no record of their faults, and on top
of them steps with a queue and pumps behind one another -/
inductive Pump : Type → Type 1 where
  | source {α : Type} (rest : List (Except Fault α)) : Pump α
  | atHand {α : Type} (rest : List (Except Fault α)) : Pump α
  | scan {α β σ : Type} (inner : Pump α) (step : σ → α → Except Fault (List β × σ))
      (trailer : Option (σ → Except Fault (List β))) (state : Option σ) (queue : List β)
      (finished : Bool) : Pump β
  | append {α : Type} (first second : Pump α) (stage : Pump.Stage) : Pump α

/-- what comes of a round: an item, a fault or the end, or nothing yet; how many items were taken;
and the pump behind it -/
inductive Round (α : Type) where
  | item (a : α) (pulled : Nat) (next : Pump α)
  | fail (f : Fault) (pulled : Nat) (next : Pump α)
  | done (pulled : Nat) (next : Pump α)
  | again (pulled : Nat) (next : Pump α)

/-- what a poll says: a result, none at the end; how many items were taken for it; and the pump
behind it -/
structure Polled (α : Type) where
  result : Option (Except Fault α)
  pulled : Nat
  next : Pump α

/-- a poll before which `n` items were taken -/
def Polled.behind {α : Type} (n : Nat) (r : Polled α) : Polled α :=
  { r with pulled := n + r.pulled }

namespace Feed

variable {α β σ : Type}

/-- a feed behind `n` items that are taken first -/
def pulling : (n : Nat) → Feed α → Feed α
  | 0, x => x
  | n + 1, x => pull (pulling n x)

@[simp] theorem items_pulling (n : Nat) (x : Feed α) : (x.pulling n).items = x.items := by
  induction n with
  | zero => rfl
  | succ n ih => exact ih

theorem scan_pulling (step : σ → α → Except Fault (List β × σ))
    (trailer : σ → Except Fault (List β)) (s : σ) (n : Nat) (x : Feed α) :
    scan step trailer s (x.pulling n) = (scan step trailer s x).pulling n := by
  induction n with
  | zero => rfl
  | succ n ih => rw [pulling, scan, ih, pulling]

theorem append_pulling (n : Nat) (x y : Feed α) :
    (x.pulling n).append y = (x.append y).pulling n := by
  induction n with
  | zero => rfl
  | succ n ih => rw [pulling, append, ih, pulling]

end Feed

namespace Pump

variable {α β σ : Type}

/-- one time round.  A round of a pump is one of every pump on top of it. -/
def round {α : Type} : Pump α → Round α
  | source [] => .done 0 (source [])
  | source (.ok a :: rest) => .item a 1 (source rest)
  | source (.error f :: rest) => .fail f 1 (source rest)
  | atHand [] => .done 0 (atHand [])
  | atHand (.ok a :: rest) => .item a 0 (atHand rest)
  | atHand (.error f :: rest) => .fail f 0 (atHand rest)
  | scan inner step trailer state (b :: queue) finished =>
    .item b 0 (scan inner step trailer state queue finished)
  | scan inner step trailer state [] true => .done 0 (scan inner step trailer state [] true)
  | scan inner step trailer none [] false => .again 0 (scan inner step trailer none [] true)
  | scan inner step trailer (some s) [] false =>
    match inner.round with
    | .item a n inner =>
      match step s a with
      | .ok (bs, next) => .again n (scan inner step trailer (some next) bs false)
      | .error f => .fail f n (scan inner step trailer (some s) [] true)
    | .fail f n inner => .fail f n (scan inner step trailer (some s) [] true)
    | .done n inner =>
      -- the state and the trailer are spent whether or not the trailer comes to anything
      match trailer with
      | some ending =>
        match ending s with
        | .ok bs => .again n (scan inner step none none bs true)
        | .error f => .fail f n (scan inner step none none [] true)
      | none => .again n (scan inner step none none [] true)
    | .again n inner => .again n (scan inner step trailer (some s) [] false)
  | append first second .first =>
    match first.round with
    | .item a n first => .item a n (append first second .first)
    | .fail f n first => .fail f n (append first second .done)
    | .done n first => .again n (append first second .second)
    | .again n first => .again n (append first second .first)
  | append first second .second =>
    match second.round with
    | .item a n second => .item a n (append first second .second)
    | .fail f n second => .fail f n (append first second .done)
    | .done n second => .done n (append first second .done)
    | .again n second => .again n (append first second .second)
  | append first second .done => .done 0 (append first second .done)

/-- what a pump has still to say -/
def feed {α : Type} : Pump α → Feed α
  | source rest => .ofSource rest
  | atHand rest => .ofResults rest
  | scan _ _ _ _ queue true => .ofList queue
  | scan _ _ _ none queue false => .ofList queue
  | scan inner step trailer (some s) queue false =>
    .prepend queue (inner.feed.scan step (trailer.getD fun _ => .ok []) s)
  | append first second .first => first.feed.append second.feed
  | append _ second .second => second.feed
  | append _ _ .done => .done

end Pump

/-- what a round says, and what the pump behind it has still to say -/
def Round.feed {α : Type} : Round α → Feed α
  | .item a n next => .pulling n (.item a next.feed)
  | .fail f n _ => .pulling n (.fail f)
  | .done n _ => .pulling n .done
  | .again n next => .pulling n next.feed

namespace Pump

variable {α : Type}

/-- a round says the first of what there is to say, and leaves the rest -/
theorem feed_round (p : Pump α) : p.round.feed = p.feed := by
  induction p with
  | source rest | atHand rest =>
    match rest with
    | [] | .ok a :: rest | .error f :: rest => rfl
  | scan inner step trailer state queue finished ih =>
    match queue, finished, state with
    | b :: queue, true, state | b :: queue, false, none | b :: queue, false, some s => rfl
    | [], true, state | [], false, none => rfl
    | [], false, some s =>
      rw [feed, Feed.prepend_nil, ← ih, round]
      cases inner.round with
      | item a n inner =>
        rw [Round.feed, Feed.scan_pulling, Feed.scan]
        dsimp only
        cases step s a with
        | ok r => rfl
        | error f => rfl
      | fail f n inner => exact (Feed.scan_pulling step _ s n (.fail f)).symm
      | done n inner =>
        rw [Round.feed, Feed.scan_pulling, Feed.scan]
        cases trailer with
        | none => rfl
        | some ending =>
          rw [Option.getD_some]
          dsimp only
          cases ending s with
          | ok bs => rfl
          | error f => rfl
      | again n inner => exact (Feed.scan_pulling step _ s n inner.feed).symm
  | append first second stage ihfirst ihsecond =>
    cases stage with
    | first =>
      rw [feed, ← ihfirst, round]
      cases first.round with
      | item a n first => exact (Feed.append_pulling n (.item a first.feed) second.feed).symm
      | fail f n first => exact (Feed.append_pulling n (.fail f) second.feed).symm
      | done n first => exact (Feed.append_pulling n .done second.feed).symm
      | again n first => exact (Feed.append_pulling n first.feed second.feed).symm
    | second =>
      rw [feed, ← ihsecond, round]
      cases second.round with
      | item a n second | fail f n second | done n second | again n second => rfl
    | done => rfl

/-! ## polls -/

/-- a bound on the rounds before the end or a fault.  The outputs still to come count as much as
those in the queue, since there is no bound on what a step adds to it. -/
def work {α : Type} : Pump α → Nat
  | source rest | atHand rest => rest.length
  | scan inner step trailer state queue finished =>
    (scan inner step trailer state queue finished).feed.items.length
      + if finished then 0 else inner.work + 1
  | append first second .first => first.work + second.work + 1
  | append _ second .second => second.work
  | append _ _ .done => 0

end Pump

/-- how much work is left for a round, none behind the end or a fault -/
def Round.work {α : Type} : Round α → Nat
  | .item _ _ next | .again _ next => next.work + 1
  | .fail .. | .done .. => 0

namespace Pump

variable {α : Type}

@[simp] theorem work_scan_live {σ β : Type} (inner : Pump β)
    (step : σ → β → Except Fault (List α × σ)) (trailer : Option (σ → Except Fault (List α)))
    (state : Option σ) (queue : List α) : (scan inner step trailer state queue false).work
      = (scan inner step trailer state queue false).feed.items.length + (inner.work + 1) := rfl

@[simp] theorem work_scan_finished {σ β : Type} (inner : Pump β)
    (step : σ → β → Except Fault (List α × σ)) (trailer : Option (σ → Except Fault (List α)))
    (state : Option σ) (queue : List α) : (scan inner step trailer state queue true).work
      = (scan inner step trailer state queue true).feed.items.length := rfl

/-- a round that leaves more to say is work done -/
theorem work_round (p : Pump α) : p.round.work ≤ p.work := by
  induction p with
  | source rest | atHand rest =>
    match rest with
    | [] | .ok a :: rest | .error f :: rest => simp [round, Round.work, work]
  | scan inner step trailer state queue finished ih =>
    -- what there is to say does not change, so that the work left is that of the pump below
    rw [work, ← feed_round]
    match queue, finished, state with
    | b :: queue, finished, state =>
      rw [round, Round.work, work, Round.feed, Feed.items_pulling, Feed.items, List.length_cons]
      omega
    | [], true, state => exact Nat.zero_le _
    | [], false, none => simp [round, Round.work, Round.feed]
    | [], false, some s =>
      rw [round]
      cases hinner : inner.round with
      | item a n next =>
        rw [hinner, Round.work] at ih
        dsimp only
        cases step s a with
        | ok r =>
          simp [Round.work, Round.feed]
          omega
        | error f => exact Nat.zero_le _
      | fail f n next => exact Nat.zero_le _
      | done n next =>
        cases trailer with
        | none => simp [Round.work, Round.feed]
        | some ending =>
          dsimp only
          cases ending s with
          | ok bs => simp [Round.work, Round.feed]
          | error f => exact Nat.zero_le _
      | again n next =>
        rw [hinner, Round.work] at ih
        simp [Round.work, Round.feed]
        omega
  | append first second stage ihfirst ihsecond =>
    cases stage with
    | first =>
      rw [round, work]
      cases hfirst : first.round with
      | item a n next | again n next =>
        rw [hfirst, Round.work] at ihfirst
        simp only [Round.work, work]
        omega
      | fail f n next => exact Nat.zero_le _
      | done n next =>
        simp only [Round.work, work]
        omega
    | second =>
      rw [round, work]
      cases hsecond : second.round with
      | item a n next | again n next =>
        rw [hsecond, Round.work] at ihsecond
        exact ihsecond
      | fail f n next | done n next => exact Nat.zero_le _
    | done => exact Nat.le_refl _

/-- the next result of a pump -/
def poll (p : Pump α) : Polled α :=
  match h : p.round with
  | .item a n next => ⟨some (.ok a), n, next⟩
  | .fail f n next => ⟨some (.error f), n, next⟩
  | .done n next => ⟨none, n, next⟩
  | .again n next =>
    have hless : next.work < p.work := by
      have hwork := work_round p
      rw [h] at hwork
      exact hwork
    (poll next).behind n
termination_by p.work

/-- a pump never keeps its reader waiting -/
instance : Pollable (Pump α) α where
  poll p :=
    let r := p.poll
    (.ready r.result, r.pulled, r.next)

/-- the results of `count` polls and how many items were taken for them -/
def reads : (count : Nat) → Pump α → List (Option (Except Fault α)) × Nat
  | 0, _ => ([], 0)
  | count + 1, p =>
    let r := p.poll
    let (results, pulled) := reads count r.next
    (r.result :: results, r.pulled + pulled)

/-! ## pumps on top of pumps -/

variable {β σ : Type}

/-- every item to many through a state, with a trailer -/
def scanning (step : σ → α → Except Fault (List β × σ)) (trailer : σ → Except Fault (List β))
    (s : σ) (p : Pump α) : Pump β :=
  scan p step (some trailer) (some s) [] false

/-- every item to many -/
def flatMap (step : α → Except Fault (List β)) (p : Pump α) : Pump β :=
  p.scanning (fun (_ : Unit) a => (step a).map (·, ())) (fun _ => .ok []) ()

/-- every item to one -/
def map (f : α → β) (p : Pump α) : Pump β := p.flatMap fun a => .ok [f a]

/-- every item to one; the first fault ends it -/
def tryMap (f : α → Except Fault β) (p : Pump α) : Pump β := p.flatMap fun a => (f a).map ([·])

/-- the items that a test accepts -/
def filter (keep : α → Bool) (p : Pump α) : Pump α :=
  p.flatMap fun a => .ok (if keep a then [a] else [])

/-- one pump behind another -/
def andThen (p q : Pump α) : Pump α := append p q .first

end Pump

/-- the results of `count` reads and how many items were taken for them -/
def Feed.reads {α : Type} : (count : Nat) → Feed α → List (Option (Except Fault α)) × Nat
  | 0, _ => ([], 0)
  | count + 1, x =>
    let r := x.read
    let (results, pulled) := reads count r.rest
    (r.result :: results, r.pulled + pulled)

end ChatRelay
