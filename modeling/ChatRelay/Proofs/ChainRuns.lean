import ChatRelay.Decorator

/-!
# What a chain does

A run takes its steps in order, each on what the one before made, and stops at the first that fails.
To say which decorators are called, the run is also read in a monad whose steps put themselves on
record; the loop knows nothing of the record.

* `through`           what decorators make of a value, one after the other;
* `runM`, `recorded`  the run with effects, and a step that is put on record;
* `RunsTo`            what a run comes to, and which calls it makes;
* `runsTo_apply`      what a chain makes of a request and of a response.
-/

namespace ChatRelay
namespace Chain

section

variable {α : Type}

/-- what decorators make of a value, each of what the one before made -/
def through (step : Decorator → α → Except Fault α) (ds : List Decorator) (a : α) :
    Except Fault α :=
  ds.foldlM (fun x d => step d x) a

/-- `run` with steps that have effects -/
def runM {m : Type → Type} [Monad m] (step : Decorator → α → m (Except Fault α)) :
    List Decorator → α → m (Except (Stuck α) α)
  | [], a => pure (.ok a)
  | d :: ds, a => do
    match ← step d a with
    | .ok next => runM step ds next
    | .error fault => pure (.error { decorator := d.name, last := a, fault })

/-- a step that is put on record: which decorator was given what -/
def recorded (step : Decorator → α → Except Fault α) (d : Decorator) (a : α) :
    StateM (List (Decorator × α)) (Except Fault α) := do
  modify (· ++ [(d, a)])
  return step d a

/-- the calls of a run, each a decorator and what it was given -/
def calls (step : Decorator → α → Except Fault α) : List Decorator → α → List (Decorator × α)
  | [], _ => []
  | d :: ds, a =>
    (d, a) :: match step d a with
      | .ok next => calls step ds next
      | .error _ => []

/-- what a run of decorators over a value comes to, and which calls it makes -/
structure RunsTo (step : Decorator → α → Except Fault α) (ds : List Decorator) (a : α)
    (outcome : Except (Stuck α) α) (calls : List (Decorator × α)) : Prop where
  /-- it succeeds where every decorator does, on what those before it made -/
  ok_iff : (∃ b, outcome = .ok b) ↔ ∀ front d rest, ds = front ++ d :: rest →
    ∃ x y, through step front a = .ok x ∧ step d x = .ok y
  /-- and then it gives what they all made, and called them all -/
  of_ok : ∀ b, outcome = .ok b → through step ds a = .ok b ∧ calls.map (·.1) = ds
  /-- it fails with the first decorator that does, and tells what those before it made; none behind
  it was called -/
  of_error : ∀ s, outcome = .error s → ∃ front d rest, ds = front ++ d :: rest ∧
    through step front a = .ok s.last ∧ step d s.last = .error s.fault ∧ s.decorator = d.name ∧
    calls.map (·.1) = front ++ [d]
  /-- every call was given what the decorators before it made -/
  given : ∀ past d x later, calls = past ++ (d, x) :: later →
    through step (past.map (·.1)) a = .ok x
  /-- the calls are those that are on record -/
  recorded : (runM (recorded step) ds a).run [] = (outcome, calls)

variable {step : Decorator → α → Except Fault α}

/-! ## one decorator more -/

theorem through_cons (d : Decorator) (ds : List Decorator) (a : α) :
    through step (d :: ds) a = (step d a).bind (through step ds) := rfl

theorem through_append (front rest : List Decorator) (a : α) :
    through step (front ++ rest) a = (through step front a).bind (through step rest) :=
  List.foldlM_append

theorem run_cons_ok {d : Decorator} {a next : α} (h : step d a = .ok next) (ds : List Decorator) :
    run step (d :: ds) a = run step ds next := by
  rw [run, h]

theorem run_cons_error {d : Decorator} {a : α} {fault : Fault} (h : step d a = .error fault)
    (ds : List Decorator) :
    run step (d :: ds) a = .error { decorator := d.name, last := a, fault } := by
  rw [run, h]

theorem calls_cons_ok {d : Decorator} {a next : α} (h : step d a = .ok next)
    (ds : List Decorator) : calls step (d :: ds) a = (d, a) :: calls step ds next := by
  rw [calls, h]

theorem calls_cons_error {d : Decorator} {a : α} {fault : Fault} (h : step d a = .error fault)
    (ds : List Decorator) : calls step (d :: ds) a = [(d, a)] := by
  rw [calls, h]

theorem runM_recorded_cons (d : Decorator) (ds : List Decorator) (a : α)
    (log : List (Decorator × α)) : (runM (recorded step) (d :: ds) a).run log =
      match step d a with
      | .ok next => (runM (recorded step) ds next).run (log ++ [(d, a)])
      | .error fault => (.error { decorator := d.name, last := a, fault }, log ++ [(d, a)]) := by
  cases h : step d a with
  | ok next =>
    simp only [runM, recorded, h]
    rfl
  | error fault =>
    simp only [runM, recorded, h]
    rfl

/-! ## a whole run -/

/-- on record are the calls, behind what was there before -/
theorem runM_recorded (step : Decorator → α → Except Fault α) (ds : List Decorator) (a : α)
    (log : List (Decorator × α)) :
    (runM (recorded step) ds a).run log = (run step ds a, log ++ calls step ds a) := by
  induction ds generalizing a log with
  | nil =>
    rw [calls, List.append_nil]
    rfl
  | cons d ds ih =>
    rw [runM_recorded_cons]
    cases h : step d a with
    | ok next =>
      show (runM (recorded step) ds next).run (log ++ [(d, a)]) = _
      rw [ih, run_cons_ok h, calls_cons_ok h, List.append_assoc, List.singleton_append]
    | error fault => rw [run_cons_error h, calls_cons_error h]

theorem through_of_run {ds : List Decorator} {a b : α} (h : run step ds a = .ok b) :
    through step ds a = .ok b ∧ (calls step ds a).map (·.1) = ds := by
  induction ds generalizing a with
  | nil =>
    obtain rfl : a = b := Except.ok.inj h
    exact ⟨rfl, rfl⟩
  | cons d ds ih =>
    cases hstep : step d a with
    | ok next =>
      rw [run_cons_ok hstep] at h
      obtain ⟨hthrough, hcalls⟩ := ih h
      rw [through_cons, hstep, calls_cons_ok hstep, List.map_cons, hcalls]
      exact ⟨hthrough, rfl⟩
    | error fault =>
      rw [run_cons_error hstep] at h
      exact nomatch h

theorem first_failure {ds : List Decorator} {a : α} {s : Stuck α} (h : run step ds a = .error s) :
    ∃ front d rest, ds = front ++ d :: rest ∧ through step front a = .ok s.last ∧
      step d s.last = .error s.fault ∧ s.decorator = d.name ∧
      (calls step ds a).map (·.1) = front ++ [d] := by
  induction ds generalizing a with
  | nil => exact nomatch h
  | cons d ds ih =>
    cases hstep : step d a with
    | ok next =>
      rw [run_cons_ok hstep] at h
      obtain ⟨front, x, rest, rfl, hfront, hfails, hname, hcalls⟩ := ih h
      refine ⟨d :: front, x, rest, rfl, ?_, hfails, hname, ?_⟩
      · rw [through_cons, hstep]
        exact hfront
      · rw [calls_cons_ok hstep, List.map_cons, hcalls]
        rfl
    | error fault =>
      rw [run_cons_error hstep] at h
      obtain rfl := Except.error.inj h
      exact ⟨[], d, ds, rfl, rfl, hstep, rfl, by rw [calls_cons_error hstep]; rfl⟩

theorem given_of_calls {ds : List Decorator} {a x : α} {d : Decorator}
    {past later : List (Decorator × α)} (h : calls step ds a = past ++ (d, x) :: later) :
    through step (past.map (·.1)) a = .ok x := by
  induction ds generalizing a past with
  | nil => simp [calls] at h
  | cons e ds ih =>
    cases past with
    | nil =>
      obtain ⟨hcall, -⟩ := List.cons.inj h
      rw [(Prod.mk.inj hcall).2]
      rfl
    | cons p past =>
      obtain ⟨rfl, hlater⟩ := List.cons.inj h
      cases hstep : step e a with
      | ok next =>
        rw [hstep] at hlater
        rw [List.map_cons, through_cons, hstep]
        exact ih hlater
      | error fault =>
        rw [hstep] at hlater
        simp at hlater

/-- every decorator of a run that succeeds does so on what those before it made -/
theorem succeeds_of_through {front rest : List Decorator} {d : Decorator} {a b : α}
    (h : through step (front ++ d :: rest) a = .ok b) :
    ∃ x y, through step front a = .ok x ∧ step d x = .ok y := by
  rw [through_append] at h
  cases hfront : through step front a with
  | error fault =>
    rw [hfront] at h
    exact nomatch h
  | ok x =>
    rw [hfront] at h
    have hd : (step d x).bind (through step rest) = .ok b := h
    cases hstep : step d x with
    | error fault =>
      rw [hstep] at hd
      exact nomatch hd
    | ok y => exact ⟨x, y, rfl, hstep⟩

theorem runsTo_run (step : Decorator → α → Except Fault α) (ds : List Decorator) (a : α) :
    RunsTo step ds a (run step ds a) (calls step ds a) where
  ok_iff := by
    constructor
    · rintro ⟨b, hb⟩ front d rest rfl
      exact succeeds_of_through (through_of_run hb).1
    · intro hall
      cases hrun : run step ds a with
      | ok b => exact ⟨b, rfl⟩
      | error s =>
        obtain ⟨front, d, rest, hds, hfront, hfails, -⟩ := first_failure hrun
        obtain ⟨x, y, hx, hy⟩ := hall front d rest hds
        obtain rfl : s.last = x := Except.ok.inj (hfront.symm.trans hx)
        exact nomatch hfails.symm.trans hy
  of_ok := fun _ => through_of_run
  of_error := fun _ => first_failure
  given := fun _ _ _ _ => given_of_calls
  recorded := runM_recorded step ds a []

end

/-- **What a chain makes.**  A request, and a response alike, goes through the decorators in their
order.  The chain gives what they all make of it, where each of them succeeds on what those before it
made.  Otherwise it fails with the first that does not, names it, and tells its fault and what those
before it made; the decorators behind it are not called.  A chain in two parts makes what the second
makes of what the first made. -/
theorem runsTo_apply (c : Chain) (q : Request) (p : Response) :
    RunsTo Decorator.onRequest c.decorators q (c.applyRequest q)
      (calls Decorator.onRequest c.decorators q) ∧
    RunsTo Decorator.onResponse c.decorators p (c.applyResponse p)
      (calls Decorator.onResponse c.decorators p) ∧
    ∀ front rest, c.decorators = front ++ rest →
      c.applyRequest q = ((⟨front⟩ : Chain).applyRequest q).bind (⟨rest⟩ : Chain).applyRequest ∧
      c.applyResponse p
        = ((⟨front⟩ : Chain).applyResponse p).bind (⟨rest⟩ : Chain).applyResponse := by
  refine ⟨runsTo_run _ _ _, runsTo_run _ _ _, fun front rest hsplit => ?_⟩
  rw [applyRequest, applyResponse, hsplit]
  exact ⟨run_append _ front rest q, run_append _ front rest p⟩

/-- the second of three decorators refuses what the first made -/
example :
    let sign : Decorator := { name := "sign", onRequest := fun q => .ok { q with user := some "u" } }
    let refuse : Decorator := { name := "refuse", onRequest := fun _ => .error (.streaming "no") }
    (⟨[sign, refuse, .streamUsage]⟩ : Chain).applyRequest { model := "m" }
      = .error {
          decorator := "refuse"
          last := { model := "m", user := some "u" }
          fault := .streaming "no" } := by
  rfl

end Chain
end ChatRelay
