import ChatRelay.Feed.Basic

/-!
# Handles

A stream is polled for its results.  Its owner lets go of it when it is closed, when the stream ends
and when it reports a fault.  From then on the owner is closed and nothing more is polled.  A handle
owns a feed, which never keeps its reader waiting.

* `Feed.read`     the next result, how many items were taken for it, and the feed behind it;
* `Pollable`      what is polled;
* `Owner.poll`, `Owner.close`  going on, giving up;
* `Handle.next`   the next result of a handle.
-/

namespace ChatRelay

universe u v

/-- a result read from a feed: none at the end -/
structure Reading (α : Type) where
  result : Option (Except Fault α)
  pulled : Nat
  rest : Feed α
  deriving Repr

/-- the next result of a feed; nothing comes after a fault -/
def Feed.read {α : Type} : Feed α → Reading α
  | .done => ⟨none, 0, .done⟩
  | .fail f => ⟨some (.error f), 0, .done⟩
  | .item a rest => ⟨some (.ok a), 0, rest⟩
  | .pull rest =>
    let r := rest.read
    { r with pulled := r.pulled + 1 }

/-! ## streams and their owners -/

/-- what a poll says: nothing yet, or a result, none at the end -/
inductive Poll (α : Type u) where
  | pending
  | ready (result : Option (Except Fault α))

namespace Poll

variable {α : Type u}

/-- the result, none at the end and where there is nothing yet -/
def result : Poll α → Option (Except Fault α)
  | pending => none
  | ready r => r

/-- whether there is a result that is no item: a fault or the end -/
def isLast : Poll α → Bool
  | pending | ready (some (.ok _)) => false
  | ready (some (.error _)) | ready none => true

end Poll

/-- a stream: what a poll says, how many items were taken for it, and the stream behind it, of which
nothing is known, not even that it ends behind its end -/
class Pollable (σ : Type u) (α : outParam (Type v)) where
  poll : σ → Poll α × Nat × σ

/-- the owner of a stream, without one once it is closed -/
structure Owner (σ : Type u) where
  feed : Option σ
  deriving DecidableEq, Repr

namespace Owner

variable {σ : Type u} {α : Type v}

/-- the owner of a stream -/
def ofStream (x : σ) : Owner σ := ⟨some x⟩

/-- whether the stream has been let go of -/
def isClosed (h : Owner σ) : Bool := h.feed.isNone

/-- whether nothing comes any more -/
def isTerminated (h : Owner σ) : Bool := h.isClosed

/-- lets go of the stream -/
def close (_ : Owner σ) : Owner σ := ⟨none⟩

/-- what a poll of the stream says, the end where there is none any more; how many items were taken
for it; the owner behind it, which lets go of the stream at a fault and at the end -/
def poll [Pollable σ α] (h : Owner σ) : Poll α × Nat × Owner σ :=
  match h.feed with
  | none => (.ready none, 0, h)
  | some x =>
    let (said, taken, rest) := Pollable.poll x
    (said, taken, ⟨if said.isLast then none else some rest⟩)

@[simp] theorem isClosed_close (h : Owner σ) : h.close.isClosed = true := rfl

end Owner

/-! ## feeds -/

/-- the owner of a feed -/
abbrev Handle (α : Type) := Owner (Feed α)

instance {α : Type} : Pollable (Feed α) α where
  poll x :=
    let r := x.read
    (.ready r.result, r.pulled, r.rest)

namespace Handle

variable {α : Type}

/-- the owner of a feed -/
def ofFeed (x : Feed α) : Handle α := .ofStream x

/-- the next result, none at the end and after it; how many items were taken for it; the handle
behind it, which keeps the feed only after an item -/
def next (h : Handle α) : Option (Except Fault α) × Nat × Handle α :=
  let (said, taken, rest) := h.poll
  (said.result, taken, rest)

/-- a handle never keeps one waiting -/
theorem poll_eq (h : Handle α) : h.poll = (.ready h.next.1, h.next.2) := by
  obtain ⟨feed⟩ := h
  cases feed with
  | none => rfl
  | some x => rfl

/-- up to `count` results, fewer where the handle closes before, and the handle behind them -/
def take (count : Nat) (h : Handle α) : List (Except Fault α) × Handle α :=
  match count with
  | 0 => ([], h)
  | n + 1 =>
    match h.next with
    | (some r, _, rest) =>
      let (rs, last) := take n rest
      (r :: rs, last)
    | (none, _, rest) => ([], rest)

end Handle
end ChatRelay
