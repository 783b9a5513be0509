import ChatRelay.Conversation.Response
import ChatRelay.Feed.Basic

/-!
# Readers that tell the end of a stream

A reader goes through the events of a backend with a state and gives fragments.  Events may mark the
end of the stream, report a fault, or say something; a reader tells the end once, at the first mark,
and where there is no mark at the end of the stream.  What comes of a whole stream has one of two
shapes, and all that is said about the end marker is read off them.

* `Signs`, `Lifts`    what events are to their reader, and a reader that goes by it;
* `Lifts.told`        what comes of a stream is `Told`: one of the two shapes;
* `Told.countP_isEnd`   how often the end marker comes;
* `Told.last_iff`     when it is the last that comes.
-/

namespace ChatRelay

/-! ## results of a scan -/

namespace Feed

variable {α β σ : Type}

/-- items and the fault behind them as results -/
def joined (p : List β × Option Fault) : List (Except Fault β) :=
  p.1.map .ok ++ (p.2.map Except.error).toList

variable {step : σ → α → Except Fault (List β × σ)} {trailer : σ → Except Fault (List β)}

theorem results_scan (s : σ) (x : Feed α) :
    (scan step trailer s x).results = joined (scanItems step trailer s x.items x.fault?) := by
  rw [← scan_eq_scanItems]
  rfl

theorem joined_scanItems_ok {s t : σ} {a : α} {bs : List β} (h : step s a = .ok (bs, t))
    (as : List α) (ending : Option Fault) :
    joined (scanItems step trailer s (a :: as) ending)
      = bs.map .ok ++ joined (scanItems step trailer t as ending) := by
  rw [scanItems, h]
  show (bs ++ _).map Except.ok ++ _ = _
  rw [List.map_append, List.append_assoc]
  rfl

theorem joined_scanItems_error {s : σ} {a : α} {f : Fault} (h : step s a = .error f)
    (as : List α) (ending : Option Fault) :
    joined (scanItems step trailer s (a :: as) ending) = [.error f] := by
  rw [scanItems, h]
  rfl

/-- what passes a test behind things that do not, where one thing more may follow, is that thing -/
theorem last_of_append {γ : Type} {p : γ → Bool} {xs ys before rest : List γ} {z : γ}
    (h : xs ++ ys = before ++ z :: rest) (hxs : ∀ x ∈ xs, p x = false) (hys : ys.length ≤ 1)
    (hz : p z = true) : rest = [] ∧ ∀ x ∈ before, p x = false := by
  rcases List.append_eq_append_iff.mp h with ⟨more, rfl, rfl⟩ | ⟨more, rfl, hmore⟩
  · rw [List.length_append, List.length_cons] at hys
    have hnil : more = [] := List.length_eq_zero_iff.mp (by omega)
    refine ⟨List.length_eq_zero_iff.mp (by omega), ?_⟩
    rwa [hnil, List.append_nil]
  · cases more with
    | nil =>
      rw [← List.nil_append ys, ← hmore, List.length_cons] at hys
      exact ⟨List.length_eq_zero_iff.mp (by omega), by simpa using hxs⟩
    | cons m more =>
      obtain ⟨rfl, -⟩ := List.cons.inj hmore
      exact nomatch hz.symm.trans (hxs z (by simp))

/-- a fault is the last result, and all before it are items -/
theorem results_eq_append_error {x : Feed β} {before rest : List (Except Fault β)} {f : Fault}
    (h : x.results = before ++ .error f :: rest) :
    rest = [] ∧ ∀ r ∈ before, r.isOk = true := by
  have hitems : ∀ r ∈ x.items.map (@Except.ok Fault β), (!r.isOk) = false := by
    intro r hr
    obtain ⟨b, -, rfl⟩ := List.mem_map.mp hr
    rfl
  have hlength : ((x.fault?.map (@Except.error Fault β)).toList).length ≤ 1 := by
    cases x.fault? <;> simp
  obtain ⟨hrest, hbefore⟩ := last_of_append h hitems hlength rfl
  exact ⟨hrest, fun r hr => by simpa using hbefore r hr⟩

end Feed

/-! ## what a reader goes by -/

/-- what the events of a stream are to their reader -/
structure Signs (α : Type) where
  /-- whether an event marks the end -/
  marks : α → Bool
  /-- the fault that an event reports -/
  fault? : α → Option Fault
  /-- whether an event says something, behind those before it -/
  speaks : List α → α → Bool

namespace Signs

variable {α : Type} (g : Signs α)

/-- events that neither report a fault nor say anything, behind those before them -/
def Quiet (past : List α) : List α → Prop
  | [] => True
  | a :: as => g.fault? a = none ∧ g.speaks past a = false ∧ Quiet (past ++ [a]) as

/-- the first event that marks the end, before any that reports a fault -/
def IsFirstMark (past : List α) (e : α) : Prop :=
  g.marks e = true ∧ ∀ a ∈ past, g.fault? a = none ∧ g.marks a = false

/-- the end is marked before a fault is reported -/
def Marked (as : List α) : Prop := ∃ past e rest, as = past ++ e :: rest ∧ g.IsFirstMark past e

variable {g}

theorem IsFirstMark.unique {past past' : List α} {e e' : α} {rest rest' : List α}
    (h : g.IsFirstMark past e) (h' : g.IsFirstMark past' e')
    (heq : past ++ e :: rest = past' ++ e' :: rest') :
    past = past' ∧ e = e' ∧ rest = rest' := by
  -- whichever of the two comes first would be among the unmarked events before the other
  induction past generalizing past' with
  | nil =>
    cases past' with
    | nil => exact ⟨rfl, List.cons.inj heq⟩
    | cons a past' =>
      obtain ⟨rfl, -⟩ := List.cons.inj heq
      exact nomatch h.1.symm.trans (h'.2 e (by simp)).2
  | cons a past ih =>
    obtain ⟨-, hpast⟩ := List.forall_mem_cons.mp h.2
    cases past' with
    | nil =>
      obtain ⟨rfl, -⟩ := List.cons.inj heq
      exact nomatch h'.1.symm.trans (h.2 a (by simp)).2
    | cons a' past' =>
      obtain ⟨rfl, htail⟩ := List.cons.inj heq
      obtain ⟨-, hpast'⟩ := List.forall_mem_cons.mp h'.2
      obtain ⟨rfl, rest⟩ := ih ⟨h.1, hpast⟩ ⟨h'.1, hpast'⟩ htail
      exact ⟨rfl, rest⟩

theorem marked_cons_of_marks {a : α} (h : g.marks a = true) (as : List α) : g.Marked (a :: as) :=
  ⟨[], a, as, rfl, h, by simp⟩

theorem Marked.cons {a : α} {as : List α} (h : g.Marked as) (ha : g.fault? a = none) :
    g.Marked (a :: as) := by
  cases hm : g.marks a with
  | true => exact marked_cons_of_marks hm as
  | false =>
    obtain ⟨past, e, rest, rfl, he, hpast⟩ := h
    exact ⟨a :: past, e, rest, rfl, he, List.forall_mem_cons.mpr ⟨⟨ha, hm⟩, hpast⟩⟩

end Signs

/-- a result that is the end marker -/
def isEnd : Except Fault Response → Bool
  | .ok c => c.isDone
  | .error _ => false

/-- a reader of events, the states in which it has told the end, and the states it can be in behind
some events -/
structure Lifts {α σ : Type} (g : Signs α) (step : σ → α → Except Fault (List Response × σ))
    (trailer : σ → Except Fault (List Response)) (ended : σ → Bool)
    (Behind : List α → σ → Prop) : Prop where
  fails : ∀ s a f, step s a = .error f ↔ g.fault? a = some f
  faultless : ∀ a, g.marks a = true → g.fault? a = none
  next : ∀ past s a out t, Behind past s → step s a = .ok (out, t) →
    Behind (past ++ [a]) t ∧ ended t = (ended s || g.marks a)
  tells : ∀ s a out t, step s a = .ok (out, t) → g.marks a = true → ended s = false →
    ∃ c, c.isDone = true ∧ out = [c]
  goesOn : ∀ past s a out t, Behind past s → step s a = .ok (out, t) →
    g.marks a = false ∨ ended s = true →
      (∀ c ∈ out, c.isDone = false) ∧ (out = [] ↔ g.speaks past a = false)
  closes : ∀ s, trailer s = .ok (if ended s then [] else [.done])

/-- what is told of some events and the ending of their source.  With a first mark: what comes
before it, the end marker, and what comes behind it, which is nothing only where all is quiet
there.  Without: what comes, and a fault or the end marker. -/
inductive Told {α : Type} (g : Signs α) (as : List α) (ending : Option Fault) :
    List (Except Fault Response) → Prop where
  | marked (past : List α) (e : α) (rest : List α) (said later : List Response) (c : Response)
      (split : as = past ++ e :: rest) (first : g.IsFirstMark past e) (hc : c.isDone = true)
      (hsaid : ∀ x ∈ said, x.isDone = false) (hlater : ∀ x ∈ later, x.isDone = false)
      (quiet : later = [] ∧ (rest.findSome? g.fault?).or ending = none ↔
        ending = none ∧ g.Quiet (past ++ [e]) rest) :
      Told g as ending (said.map .ok ++ .ok c
        :: (later.map .ok ++ (((rest.findSome? g.fault?).or ending).map Except.error).toList))
  | unmarked (said : List Response) (hnone : ¬ g.Marked as)
      (hsaid : ∀ x ∈ said, x.isDone = false) :
      Told g as ending (said.map .ok
        ++ [(((as.findSome? g.fault?).or ending).map Except.error).getD (.ok .done)])

namespace Lifts

open Feed (scanItems joined joined_scanItems_ok joined_scanItems_error)

variable {α σ : Type} {g : Signs α} {step : σ → α → Except Fault (List Response × σ)}
  {trailer : σ → Except Fault (List Response)} {ended : σ → Bool} {Behind : List α → σ → Prop}

theorem ok_of_faultless (h : Lifts g step trailer ended Behind) {a : α} (ha : g.fault? a = none)
    (s : σ) : ∃ out t, step s a = .ok (out, t) := by
  cases hstep : step s a with
  | ok p => exact ⟨p.1, p.2, rfl⟩
  | error f =>
    rw [(h.fails s a f).mp hstep] at ha
    exact nomatch ha

theorem joined_nil (h : Lifts g step trailer ended Behind) (s : σ) (ending : Option Fault) :
    joined (scanItems step trailer s [] ending)
      = match ending with
        | some f => [.error f]
        | none => if ended s then [] else [.ok .done] := by
  cases ending with
  | some f => rfl
  | none =>
    rw [scanItems, h.closes]
    cases ended s <;> rfl

/-- where the end has been told or will not be marked, nothing that comes is the end marker -/
theorem joined_plain (h : Lifts g step trailer ended Behind) {past : List α} {s : σ}
    (hs : Behind past s) (as : List α) (hno : ended s = true ∨ ¬ g.Marked as)
    (ending : Option Fault) :
    ∃ said : List Response, (∀ x ∈ said, x.isDone = false) ∧
      joined (scanItems step trailer s as ending) = said.map .ok ++
        match (as.findSome? g.fault?).or ending with
        | some f => [.error f]
        | none => if ended s then [] else [.ok .done] := by
  induction as generalizing past s with
  | nil => exact ⟨[], by simp, h.joined_nil s ending⟩
  | cons a as ih =>
    cases ha : g.fault? a with
    | some f =>
      refine ⟨[], by simp, ?_⟩
      rw [joined_scanItems_error ((h.fails s a f).mpr ha), List.findSome?_cons, ha]
      rfl
    | none =>
      obtain ⟨out, t, hstep⟩ := h.ok_of_faultless ha s
      obtain ⟨ht, hended⟩ := h.next past s a out t hs hstep
      -- so the state behind the event has told the end exactly where this one has
      have hmarks : ended s = true ∨ g.marks a = false := by
        refine hno.imp id fun hn => ?_
        exact Bool.eq_false_iff.mpr fun hm => hn (Signs.marked_cons_of_marks hm as)
      have hsame : ended t = ended s := by
        rw [hended]
        rcases hmarks with hm | hm <;> simp [hm]
      obtain ⟨said, hsaid, hrest⟩ := ih ht
        (hno.imp (fun hd => hsame.trans hd) fun hn hm => hn (hm.cons ha))
      have hout := (h.goesOn past s a out t hs hstep hmarks.symm).1
      refine ⟨out ++ said, List.forall_mem_append.mpr ⟨hout, hsaid⟩, ?_⟩
      rw [joined_scanItems_ok hstep, hrest, hsame, List.findSome?_cons, ha, List.map_append,
        List.append_assoc]

/-- up to the first mark nothing that comes is the end marker; the mark itself is -/
theorem joined_marked (h : Lifts g step trailer ended Behind) {past before : List α} {s : σ}
    (hs : Behind past s) (hended : ended s = false) {e : α} (he : g.IsFirstMark before e)
    (rest : List α) (ending : Option Fault) :
    ∃ (said : List Response) (c : Response) (t : σ),
      (∀ x ∈ said, x.isDone = false) ∧ c.isDone = true ∧
      Behind (past ++ before ++ [e]) t ∧ ended t = true ∧
      joined (scanItems step trailer s (before ++ e :: rest) ending)
        = said.map .ok ++ .ok c :: joined (scanItems step trailer t rest ending) := by
  induction before generalizing past s with
  | nil =>
    obtain ⟨out, t, hstep⟩ := h.ok_of_faultless (h.faultless e he.1) s
    obtain ⟨c, hc, rfl⟩ := h.tells s e out t hstep he.1 hended
    obtain ⟨ht, hend⟩ := h.next past s e [c] t hs hstep
    refine ⟨[], c, t, by simp, hc, by simpa using ht, by simp [hend, he.1], ?_⟩
    exact joined_scanItems_ok hstep rest ending
  | cons a before ih =>
    obtain ⟨⟨ha, hm⟩, hbefore⟩ := List.forall_mem_cons.mp he.2
    obtain ⟨out, t, hstep⟩ := h.ok_of_faultless ha s
    obtain ⟨ht, hend⟩ := h.next past s a out t hs hstep
    obtain ⟨said, c, u, hsaid, hc, hu, hdone, hrest⟩ :=
      ih ht (by rw [hend, hended, hm]; rfl) ⟨he.1, hbefore⟩
    have hout := (h.goesOn past s a out t hs hstep (.inl hm)).1
    refine ⟨out ++ said, c, u, List.forall_mem_append.mpr ⟨hout, hsaid⟩, hc, ?_, hdone, ?_⟩
    · rwa [List.append_cons past a before]
    · rw [List.cons_append, joined_scanItems_ok hstep, hrest, List.map_append, List.append_assoc]

/-- behind the end marker nothing comes only where the events are quiet and the source has no
fault -/
theorem joined_eq_nil_iff (h : Lifts g step trailer ended Behind) {past : List α} {s : σ}
    (hs : Behind past s) (hended : ended s = true) (as : List α) (ending : Option Fault) :
    joined (scanItems step trailer s as ending) = [] ↔ ending = none ∧ g.Quiet past as := by
  induction as generalizing past s with
  | nil =>
    rw [h.joined_nil, hended]
    cases ending with
    | none => simp [Signs.Quiet]
    | some f => simp
  | cons a as ih =>
    cases ha : g.fault? a with
    | some f =>
      rw [joined_scanItems_error ((h.fails s a f).mpr ha)]
      simp [Signs.Quiet, ha]
    | none =>
      obtain ⟨out, t, hstep⟩ := h.ok_of_faultless ha s
      obtain ⟨ht, hend⟩ := h.next past s a out t hs hstep
      have hout := (h.goesOn past s a out t hs hstep (.inr hended)).2
      rw [joined_scanItems_ok hstep, List.append_eq_nil_iff, List.map_eq_nil_iff, hout,
        ih ht (by rw [hend, hended, Bool.true_or]), Signs.Quiet, ha]
      simp only [true_and]
      exact and_left_comm

/-- what a reader makes of a feed has one of the two shapes -/
theorem told (h : Lifts g step trailer ended Behind) {s : σ} (hs : Behind [] s)
    (hended : ended s = false) (x : Feed α) :
    Told g x.items x.fault? (x.scan step trailer s).results := by
  rw [Feed.results_scan]
  by_cases hmarked : g.Marked x.items
  · obtain ⟨past, e, rest, hsplit, hfirst⟩ := hmarked
    obtain ⟨said, c, t, hsaid, hc, ht, hdone, heq⟩ :=
      h.joined_marked hs hended hfirst rest x.fault?
    obtain ⟨later, hlater, hrest⟩ := h.joined_plain ht rest (.inl hdone) x.fault?
    have hquiet := h.joined_eq_nil_iff ht hdone rest x.fault?
    have htail : joined (scanItems step trailer t rest x.fault?)
        = later.map .ok
          ++ (((rest.findSome? g.fault?).or x.fault?).map Except.error).toList := by
      rw [hrest, hdone]
      cases (rest.findSome? g.fault?).or x.fault? <;> rfl
    rw [htail, List.append_eq_nil_iff, List.map_eq_nil_iff, Option.toList_eq_nil_iff,
      Option.map_eq_none_iff] at hquiet
    rw [hsplit, heq, htail]
    exact .marked past e rest said later c rfl hfirst hc hsaid hlater hquiet
  · obtain ⟨said, hsaid, heq⟩ := h.joined_plain hs x.items (.inr hmarked) x.fault?
    have htail : joined (scanItems step trailer s x.items x.fault?)
        = said.map .ok
          ++ [(((x.items.findSome? g.fault?).or x.fault?).map Except.error).getD (.ok .done)] := by
      rw [heq, hended]
      cases (x.items.findSome? g.fault?).or x.fault? <;> rfl
    rw [htail]
    exact .unmarked said hmarked hsaid

end Lifts

/-! ## what is told -/

namespace Told

variable {α : Type} {g : Signs α} {as : List α} {ending : Option Fault}
  {rs : List (Except Fault Response)}

theorem isEnd_map_ok {said : List Response} (h : ∀ x ∈ said, x.isDone = false) :
    ∀ r ∈ said.map (@Except.ok Fault Response), isEnd r = false := by
  intro r hr
  obtain ⟨x, hx, rfl⟩ := List.mem_map.mp hr
  exact h x hx

theorem countP_map_ok {said : List Response} (h : ∀ x ∈ said, x.isDone = false) :
    (said.map (@Except.ok Fault Response)).countP isEnd = 0 :=
  List.countP_eq_zero.mpr fun r hr => by simp [isEnd_map_ok h r hr]

/-- the end marker comes once, or not at all where a fault comes and the end was not marked -/
theorem countP_isEnd (h : Told g as ending rs) :
    rs.countP isEnd = 1 ∧ (g.Marked as ∨ (as.findSome? g.fault?).or ending = none) ∨
    rs.countP isEnd = 0 ∧ ¬ g.Marked as ∧ (as.findSome? g.fault?).or ending ≠ none := by
  cases h with
  | marked past e rest said later c split first hc hsaid hlater quiet =>
    refine .inl ⟨?_, .inl ⟨past, e, rest, split, first⟩⟩
    have htail : ((((rest.findSome? g.fault?).or ending).map
        (@Except.error Fault Response)).toList).countP isEnd = 0 := by
      cases (rest.findSome? g.fault?).or ending <;> rfl
    rw [List.countP_append, List.countP_cons, List.countP_append, countP_map_ok hsaid,
      countP_map_ok hlater, htail, if_pos (show isEnd (.ok c) = true from hc)]
  | unmarked said hnone hsaid =>
    rw [List.countP_append, countP_map_ok hsaid]
    cases (as.findSome? g.fault?).or ending with
    | none => exact .inl ⟨rfl, .inr rfl⟩
    | some f => exact .inr ⟨rfl, hnone, nofun⟩

/-- where no event and no source has a fault, nothing that comes is one -/
theorem isOk_of_faultless (h : Told g as ending rs) (has : ∀ a ∈ as, g.fault? a = none)
    (hending : ending = none) : ∀ r ∈ rs, r.isOk = true := by
  have hok : ∀ said : List Response, ∀ r ∈ said.map (@Except.ok Fault Response), r.isOk = true := by
    intro said r hr
    obtain ⟨x, -, rfl⟩ := List.mem_map.mp hr
    rfl
  subst hending
  cases h with
  | marked past e rest said later c split first hc hsaid hlater quiet =>
    have hrest : rest.findSome? g.fault? = none :=
      List.findSome?_eq_none_iff.mpr fun a ha => has a (by simp [split, ha])
    rw [hrest]
    intro r hr
    rcases List.mem_append.mp hr with hr | hr
    · exact hok said r hr
    · rcases List.mem_cons.mp hr with rfl | hr
      · rfl
      · exact hok later r (by simpa using hr)
  | unmarked said hnone hsaid =>
    rw [List.findSome?_eq_none_iff.mpr has]
    intro r hr
    rcases List.mem_append.mp hr with hr | hr
    · exact hok said r hr
    · rw [List.mem_singleton.mp hr]
      rfl

/-- before a fault the end marker comes exactly where the end was marked -/
theorem any_isEnd_iff (h : Told g as ending rs) {f : Fault} (hf : .error f ∈ rs) :
    (∃ r ∈ rs, isEnd r = true) ↔ g.Marked as := by
  cases h with
  | marked past e rest said later c split first hc hsaid hlater quiet =>
    refine iff_of_true ⟨.ok c, by simp, hc⟩ ⟨past, e, rest, split, first⟩
  | unmarked said hnone hsaid =>
    refine iff_of_false ?_ hnone
    rintro ⟨r, hr, hend⟩
    cases hfault : (as.findSome? g.fault?).or ending with
    | none => rw [hfault] at hf; simp at hf
    | some k =>
      rw [hfault] at hr
      rcases List.mem_append.mp hr with hr | hr
      · exact nomatch hend.symm.trans (isEnd_map_ok hsaid r hr)
      · rw [List.mem_singleton.mp hr] at hend
        exact nomatch hend

/-- the end marker is the last that comes exactly where all is quiet behind the first mark -/
theorem last_iff (h : Told g as ending rs) :
    (∀ before c rest, rs = before ++ .ok c :: rest → c.isDone = true → rest = []) ↔
      ∀ past e rest, as = past ++ e :: rest → g.IsFirstMark past e →
        ending = none ∧ g.Quiet (past ++ [e]) rest := by
  cases h with
  | marked past e rest said later c split first hc hsaid hlater quiet =>
    constructor
    · intro hlast past' e' rest' hsplit hfirst
      obtain ⟨rfl, rfl, rfl⟩ := first.unique hfirst (split.symm.trans hsplit)
      refine quiet.mp ?_
      have hnil := hlast _ c _ rfl hc
      rwa [List.append_eq_nil_iff, List.map_eq_nil_iff, Option.toList_eq_nil_iff,
        Option.map_eq_none_iff] at hnil
    · intro hquiet before c' rest' hsplit hc'
      -- with nothing behind it the mark is the last, and nothing before it is an end marker
      obtain ⟨rfl, hfault⟩ := quiet.mpr (hquiet past e rest split first)
      rw [hfault] at hsplit
      exact (Feed.last_of_append hsplit (isEnd_map_ok hsaid) (by simp) hc').1
  | unmarked said hnone hsaid =>
    refine iff_of_true (fun before c rest hsplit hc => ?_) fun past e rest hsplit hfirst => ?_
    · exact (Feed.last_of_append hsplit (isEnd_map_ok hsaid) (by simp) hc).1
    · exact absurd ⟨past, e, rest, hsplit, hfirst⟩ hnone

end Told

end ChatRelay
