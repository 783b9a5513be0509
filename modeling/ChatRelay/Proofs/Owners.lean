import ChatRelay.Proofs.PumpReads
import Mathlib.Data.List.Induction

/-!
# The owner of a stream

An owner may be polled and closed in any order and any number of times.  Until it is closed or told a
fault or the end, it passes on what its stream says and holds the stream itself; with that very step
it lets go of it, and afterwards it says nothing but the end and takes nothing.  Nothing is asked of
the stream: it may keep its reader waiting, go on behind a fault, or never end.

* `polled`            what a stream says when it is polled again and again;
* `ended`             whether a step was the last that the stream was needed for;
* `feed_after`        what the owner holds after any steps;
* `owner_after_steps` what it shows then.
-/

namespace ChatRelay

universe u v

variable {σ : Type u} {α : Type v} [Pollable σ α]

namespace Pollable

/-- a stream behind `n` polls -/
def behind (x : σ) : (n : Nat) → σ
  | 0 => x
  | n + 1 => (poll (behind x n)).2.2

/-- what the poll behind `n` others says, and how many items were taken for it -/
def polled (x : σ) (n : Nat) : Poll α × Nat :=
  let r := poll (behind x n)
  (r.1, r.2.1)

end Pollable

open Pollable (behind polled)

namespace Owner

/-- what may be done with an owner -/
inductive Step where
  | poll
  | close
  deriving DecidableEq, Repr

/-- what a step says, if anything, how many items were taken for it, and the owner behind it -/
def step (h : Owner σ) : Step → Option (Poll α) × Nat × Owner σ
  | .poll =>
    let (said, taken, next) := h.poll
    (some said, taken, next)
  | .close => (none, 0, h.close)

/-- the owner behind a list of steps -/
def after (h : Owner σ) (steps : List Step) : Owner σ := steps.foldl (fun h s => (h.step s).2.2) h

/-- whether a step behind `n` polls of the stream ends the need for it -/
def ends (x : σ) (n : Nat) : Step → Bool
  | .close => true
  | .poll => (polled x n).1.isLast

/-- whether one of the steps on a stream ended the need for it: it closed the owner, or it was the
poll that was told a fault or the end -/
def ended (x : σ) (steps : List Step) : Bool := steps.zipIdx.any fun (s, n) => ends x n s

theorem after_snoc (h : Owner σ) (steps : List Step) (s : Step) :
    h.after (steps ++ [s]) = ((h.after steps).step s).2.2 := by
  rw [after, List.foldl_append]
  rfl

theorem ended_snoc (x : σ) (steps : List Step) (s : Step) :
    ended x (steps ++ [s]) = (ended x steps || ends x steps.length s) := by
  rw [ended, List.zipIdx_append, List.any_append]
  simp [ended]

/-! ## one step -/

/-- an owner without a stream says the end, takes nothing and stays as it is -/
theorem step_closed (s : Step) : (⟨none⟩ : Owner σ).step s
    = (if s = .poll then some (.ready none) else none, 0, ⟨none⟩) := by
  cases s <;> rfl

/-- an owner with a stream passes on what it says, and keeps it unless the step ends the need -/
theorem step_open (x : σ) (n : Nat) (s : Step) : (⟨some (behind x n)⟩ : Owner σ).step s
    = (if s = .poll then some (polled x n).1 else none, if s = .poll then (polled x n).2 else 0,
        ⟨if ends x n s then none else some (behind x (n + 1))⟩) := by
  cases s <;> rfl

/-! ## any steps -/

/-- the stream is held, polled as often as there were steps, until it is needed no more -/
theorem feed_after (x : σ) (steps : List Step) : (ofStream x).after steps
    = ⟨if ended x steps then none else some (behind x steps.length)⟩ := by
  induction steps using List.reverseRecOn with
  | nil => rfl
  | append_singleton steps s ih =>
    rw [after_snoc, ih, ended_snoc, List.length_append, List.length_singleton]
    cases ended x steps with
    | true => rw [if_pos rfl, step_closed, Bool.true_or, if_pos rfl]
    | false => rw [if_neg Bool.false_ne_true, step_open, Bool.false_or]

/-- **Owners let go once and for all.**  After any steps on an owner, as long as none of them closed
it or was told a fault or the end, the owner is open and the next poll says what the stream says when
polled so often.  From the first such step on the owner holds no stream, is closed and terminated, a
poll says the end and takes nothing, and neither a poll nor closing it changes anything. -/
theorem owner_after_steps (x : σ) (steps : List Step) :
    let h := (ofStream x).after steps
    if ended x steps then
      h.feed = none ∧ h.isClosed = true ∧ h.isTerminated = true ∧
        h.step .poll = (some (.ready none), 0, h) ∧ h.step .close = (none, 0, h)
    else
      h.feed = some (behind x steps.length) ∧ h.isClosed = false ∧ h.isTerminated = false ∧
        (h.step .poll).1 = some (polled x steps.length).1 ∧
        (h.step .poll).2.1 = (polled x steps.length).2 := by
  intro h
  have hfeed : h = _ := feed_after x steps
  split
  · next hended =>
    rw [if_pos hended] at hfeed
    rw [hfeed]
    exact ⟨rfl, rfl, rfl, step_closed .poll, step_closed .close⟩
  · next hopen =>
    rw [if_neg hopen] at hfeed
    rw [hfeed, step_open]
    exact ⟨rfl, rfl, rfl, rfl, rfl⟩

/-- a source that would go on behind its fault is not asked again -/
example :
    let x : Pump Nat := .source [.ok 1, .error (.streaming "cut"), .ok 2]
    ((ofStream x).after [.poll]).isClosed = false ∧
      ((ofStream x).after [.poll, .poll]).isClosed = true ∧
      (polled x 2).1.result = some (.ok 2) := by
  cbv

end Owner
end ChatRelay
