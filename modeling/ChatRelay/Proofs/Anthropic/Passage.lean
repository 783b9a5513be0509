import ChatRelay.Proofs.Anthropic.BlockKinds
import ChatRelay.Proofs.Anthropic.Settled

/-!
# Requests passed on

A gateway that speaks the messages interface on both sides reads a request and writes it again.
What it writes is a request that the next gateway writes again as it is, so a chain of gateways
sends what one of them sends.

* `Request.passOn`, `Request.passThrough`   one gateway, and a chain of them;
* `spoken_liftMessages`                     what is known of the messages of a request;
* `lift_lowerRequest`                       what was written is read again and written as it is;
* `passThrough_eq`                          a chain of gateways is one of them.
-/

namespace ChatRelay.Anthropic

/-- what a gateway sends for a request -/
def Request.passOn (b : Budgets) (q : Request) : Except RequestFault Request :=
  (q.lift b).map (lowerRequest b)

/-- what a chain of gateways sends for a request -/
def Request.passThrough (b : Budgets) : (gateways : Nat) → Request → Except RequestFault Request
  | 0, q => .ok q
  | k + 1, q => q.passOn b >>= passThrough b k

/-! ## the inputs of tool uses -/

def Block.input? : Block → Option Json.Value
  | .toolUse _ _ input => some input
  | _ => none

def Speech.inputs : Speech → List Json.Value
  | .text _ => []
  | .blocks bs => bs.filterMap Block.input?

def Request.inputs (q : Request) : List Json.Value := q.messages.flatMap (·.content.inputs)

theorem input_of_mem_callsOf {bs : List Block} {c : ToolCall} (hc : c ∈ callsOf bs) :
    ∃ input ∈ bs.filterMap Block.input?, c.arguments = input.render := by
  obtain ⟨i, hi, rfl⟩ := List.mem_mapIdx.mp hc
  obtain ⟨b, hb, hcall⟩ := List.mem_filterMap.mp (List.getElem_mem hi)
  cases b with
  | toolUse id name input =>
    refine ⟨input, List.mem_filterMap.mpr ⟨_, hb, rfl⟩, ?_⟩
    rw [← Option.some.inj hcall]
  | _ => exact nomatch hcall

/-- a message that is not the system's and calls tools with the given inputs -/
def Spoken (inputs : List Json.Value) (m : ChatRelay.Message) : Prop :=
  m.role ≠ .system ∧ ∀ c ∈ m.calls, ∃ input ∈ inputs, c.arguments = input.render

theorem liftRole_cases {word : String} {role : Role} (h : liftRole word = .ok role) :
    (word = "user" ∧ role = .user) ∨ (word = "assistant" ∧ role = .assistant) := by
  unfold liftRole at h
  split at h
  · next hword => exact .inl ⟨hword, (Except.ok.inj h).symm⟩
  · split at h
    · next hword => exact .inr ⟨hword, (Except.ok.inj h).symm⟩
    · exact nomatch h

theorem liftRole_ne {word : String} {role : Role} (h : liftRole word = .ok role) :
    role ≠ .system := by
  rcases liftRole_cases h with ⟨-, rfl⟩ | ⟨-, rfl⟩ <;> exact nofun

theorem spoken_liftBlocks {role : Role} (hrole : role ≠ .system) (bs : List Block) :
    ∀ m ∈ liftBlocks role bs, Spoken (bs.filterMap Block.input?) m := by
  have hresults : ∀ m ∈ bs.filterMap Block.toolMessage?, Spoken (bs.filterMap Block.input?) m := by
    intro m hm
    obtain ⟨b, -, hb⟩ := List.mem_filterMap.mp hm
    cases b with
    | toolResult id output failed =>
      obtain rfl := Option.some.inj hb
      exact ⟨nofun, nofun⟩
    | _ => exact nomatch hb
  intro m hm
  rw [liftBlocks_eq] at hm
  split at hm
  · exact hresults m hm
  · rcases List.mem_append.mp hm with hm | hm
    · exact hresults m hm
    · obtain rfl := List.mem_singleton.mp hm
      refine ⟨hrole, fun c hc => ?_⟩
      rw [calls_saidBy, foldl_addThought_eq] at hc
      exact input_of_mem_callsOf hc

theorem spoken_lift {t : Message} {ms : List ChatRelay.Message} (h : t.lift = .ok ms) :
    ∀ m ∈ ms, Spoken t.content.inputs m := by
  obtain ⟨role, hrole, h⟩ := ok_of_bind h
  have hne := liftRole_ne hrole
  cases hc : t.content with
  | text s =>
    rw [hc] at h
    obtain rfl := Except.ok.inj h
    intro m hm
    obtain rfl := List.mem_singleton.mp hm
    exact ⟨hne, nofun⟩
  | blocks bs =>
    rw [hc] at h
    obtain rfl := Except.ok.inj h
    exact spoken_liftBlocks hne bs

theorem Spoken.mono {inputs more : List Json.Value} {m : ChatRelay.Message} (h : Spoken inputs m)
    (hsub : ∀ v ∈ inputs, v ∈ more) : Spoken more m := by
  refine ⟨h.1, fun c hc => ?_⟩
  obtain ⟨input, hinput, harguments⟩ := h.2 c hc
  exact ⟨input, hsub input hinput, harguments⟩

theorem spoken_liftMessages {ts : List Message} {ms : List ChatRelay.Message}
    (h : liftMessages ts = .ok ms) : ∀ m ∈ ms, Spoken (ts.flatMap (·.content.inputs)) m := by
  induction ts generalizing ms with
  | nil =>
    obtain rfl : [] = ms := Except.ok.inj h
    intro m hm
    exact absurd hm List.not_mem_nil
  | cons t ts ih =>
    obtain ⟨xs, hxs, h⟩ := ok_of_bind h
    obtain ⟨ys, hys, h⟩ := ok_of_bind h
    obtain rfl : xs ++ ys = ms := Except.ok.inj h
    intro m hm
    rw [List.flatMap_cons]
    rcases List.mem_append.mp hm with hm | hm
    · exact (spoken_lift hxs m hm).mono fun v hv => List.mem_append_left _ hv
    · exact (ih hys m hm).mono fun v hv => List.mem_append_right _ hv

theorem inputOf_readsBack {c : ToolCall} {input : Json.Value} (h : c.arguments = input.render)
    (hinput : input.ReadsBack) : (inputOf c).ReadsBack := by
  have hparse : Json.Value.parse? input.render = some input := hinput
  have hof : inputOf c = input := by rw [inputOf, h, hparse, Option.getD_some]
  rw [hof]
  exact hinput

/-! ## the system prompt -/

theorem systemTexts_append {ms : List ChatRelay.Message} (h : ∀ m ∈ ms, m.role ≠ .system)
    (s : Option System) :
    systemTexts (systemMessages s ++ ms) = systemTexts (systemMessages s) := by
  have hnone : ms.filter (·.role = .system) = [] :=
    List.filter_eq_nil_iff.mpr fun m hm => by simpa using h m hm
  rw [systemTexts, List.filter_append, hnone, List.append_nil]
  rfl

theorem filter_ne_system {ms : List ChatRelay.Message} (h : ∀ m ∈ ms, m.role ≠ .system)
    (s : Option System) : (systemMessages s ++ ms).filter (·.role ≠ .system) = ms := by
  have hsystem : (systemMessages s).filter (·.role ≠ .system) = [] := by
    refine List.filter_eq_nil_iff.mpr fun m hm => ?_
    unfold systemMessages at hm
    split at hm
    · split at hm
      · exact nomatch hm
      · obtain rfl := List.mem_singleton.mp hm
        simp [ChatRelay.Message.ofText]
    · exact nomatch hm
  have hms : ms.filter (·.role ≠ .system) = ms :=
    List.filter_eq_self.mpr fun m hm => by simpa using h m hm
  rw [List.filter_append, hsystem, hms, List.nil_append]

/-- the prompt that a request for a backend has -/
def promptOf (texts : List String) : Option System :=
  if texts.isEmpty then none else some (.text (Text.join "\n" texts))

theorem systemMessages_promptOf (s : Option System) :
    systemMessages (promptOf (systemTexts (systemMessages s))) = systemMessages s := by
  unfold systemMessages
  cases s.map System.plainText with
  | none => rfl
  | some text =>
    by_cases htext : text = ""
    · subst htext
      rfl
    · simp [htext, promptOf, systemTexts, ChatRelay.Message.ofText, ChatRelay.Message.plainText,
        System.plainText, Text.join]

/-! ## the other fields -/

theorem effort_budget {b : Budgets} (hlow : b.low < b.medium) (hhigh : b.medium < b.high)
    (e : Effort) : b.effort (b.budget e) = e := by
  have hlowest : b.low < b.high := UInt32.lt_trans hlow hhigh
  unfold Budgets.effort Budgets.budget
  cases e with
  | low => exact if_pos (UInt32.le_refl b.low)
  | medium =>
    show (if b.medium ≤ b.low then Effort.low else _) = _
    rw [if_neg (UInt32.not_le.mpr hlow)]
    exact if_pos (UInt32.le_refl b.medium)
  | high =>
    show (if b.high ≤ b.low then Effort.low else _) = _
    rw [if_neg (UInt32.not_le.mpr hlowest)]
    exact if_neg (UInt32.not_le.mpr hhigh)

/-- a bound that leaves room above the budget, or cannot, is kept -/
theorem lowerTokenBound_lowerTokenBound (bound : TokenCount) (budget : Option TokenCount) :
    lowerTokenBound (lowerTokenBound bound budget) budget = lowerTokenBound bound budget := by
  cases budget with
  | none => rfl
  | some k =>
    unfold lowerTokenBound
    by_cases hle : bound ≤ k
    · simp only [if_pos hle]
      split
      · rfl
      · rfl
    · simp only [if_neg hle]

theorem tools_lift (ts : Option (List Tool)) :
    (ts.map (·.map Tool.lift)).map (·.map lowerTool) = ts := by
  cases ts with
  | none => rfl
  | some ts =>
    show some ((ts.map Tool.lift).map lowerTool) = some ts
    rw [List.map_map]
    exact congrArg some (List.map_id ts)

theorem toolChoice_lift (c : Option Choice) : (c.map Choice.lift).map lowerToolChoice = c := by
  cases c with
  | none => rfl
  | some c => cases c <;> rfl

theorem ite_none_ite_none {α : Type} (thinks : Bool) (a : Option α) :
    (if thinks then none else if thinks then none else a) = if thinks then none else a := by
  cases thinks <;> rfl

theorem toList_ofList? (ts : Option (List String)) :
    ((((ts.bind Stop.ofList?).map Stop.toList).bind Stop.ofList?).map Stop.toList)
      = (ts.bind Stop.ofList?).map Stop.toList := by
  cases h : ts.bind Stop.ofList? with
  | none => rfl
  | some s =>
    obtain ⟨xs, -, hxs⟩ := Option.bind_eq_some_iff.mp h
    rw [Option.map_some, Option.bind_some, Stop.toList_of_ofList? hxs, hxs, Option.map_some,
      Stop.toList_of_ofList? hxs]

/-! ## a whole request -/

theorem lift_lowerRequest {b : Budgets} (hlow : b.low < b.medium) (hhigh : b.medium < b.high)
    {q : Request} (hinputs : ∀ v ∈ q.inputs, v.ReadsBack) {u : ChatRelay.Request}
    (hu : q.lift b = .ok u) :
    ∃ v, (lowerRequest b u).lift b = .ok v ∧ lowerRequest b v = lowerRequest b u := by
  obtain ⟨ms, hms, hu⟩ := ok_of_bind hu
  have hspoken := spoken_liftMessages hms
  have hnosystem : ∀ m ∈ ms, m.role ≠ .system := fun m hm => (hspoken m hm).1
  obtain ⟨xs, hxs, hturns, hroles⟩ := lift_groupTurns fun m hm c hc => by
    obtain ⟨input, hinput, harguments⟩ := (hspoken m hm).2 c hc
    exact inputOf_readsBack harguments (hinputs input hinput)
  have hmessages : (lowerRequest b u).messages = (groupTurns ms).map Group.lower := by
    rw [← Except.ok.inj hu]
    show lowerMessages ((systemMessages q.system ++ ms).filter _) = _
    rw [filter_ne_system hnosystem, lowerMessages_eq]
  have hsystem : (lowerRequest b u).system
      = promptOf (systemTexts (systemMessages q.system)) := by
    rw [← Except.ok.inj hu]
    show promptOf (systemTexts (systemMessages q.system ++ ms)) = _
    rw [systemTexts_append hnosystem]
  have hprompt : systemMessages (lowerRequest b u).system = systemMessages q.system := by
    rw [hsystem, systemMessages_promptOf]
  have heffort : (lowerRequest b u).thinking.bind (Thinking.effort? b) = u.effort := by
    show ((u.effort.map b.budget).map Thinking.enabled).bind (Thinking.effort? b) = u.effort
    cases u.effort with
    | none => rfl
    | some e => exact congrArg some (effort_budget hlow hhigh e)
  have hstop : ((lowerRequest b u).stopSequences.bind Stop.ofList?).map Stop.toList
      = (lowerRequest b u).stopSequences := by
    rw [← Except.ok.inj hu]
    exact toList_ofList? q.stopSequences
  refine ⟨_, by rw [Request.lift, hmessages, hxs]; rfl, ?_⟩
  refine Request.ext rfl ?_ ?_ ?_ ?_ rfl ?_ hstop ?_ ?_ ?_ ?_ ?_
  · show some (lowerTokenBound ((lowerRequest b u).maxTokens.getD defaultMaxTokens)
      (((lowerRequest b u).thinking.bind (Thinking.effort? b)).map b.budget)) = _
    rw [heffort]
    exact congrArg some (lowerTokenBound_lowerTokenBound _ _)
  · show promptOf (systemTexts (systemMessages (lowerRequest b u).system ++ xs)) = _
    rw [systemTexts_append hroles, hprompt, hsystem]
  · show lowerMessages ((systemMessages (lowerRequest b u).system ++ xs).filter _) = _
    rw [filter_ne_system hroles, lowerMessages_eq, hturns, hmessages]
  · show (if (((lowerRequest b u).thinking.bind (Thinking.effort? b)).map b.budget).isSome
      then none else (lowerRequest b u).temperature) = _
    rw [heffort]
    exact ite_none_ite_none _ _
  · show (if (((lowerRequest b u).thinking.bind (Thinking.effort? b)).map b.budget).isSome
      then none else (lowerRequest b u).topK) = _
    rw [heffort]
    exact ite_none_ite_none _ _
  · show (if (if u.stream then some true else none).getD false then some true else none) = _
    cases hstream : u.stream <;> simp [lowerRequest, hstream]
  · show ((lowerRequest b u).tools.map (·.map Tool.lift)).map (·.map lowerTool) = _
    exact tools_lift _
  · show ((lowerRequest b u).toolChoice.map Choice.lift).map lowerToolChoice = _
    exact toolChoice_lift _
  · show (((lowerRequest b u).thinking.bind (Thinking.effort? b)).map b.budget).map
      Thinking.enabled = _
    rw [heffort]
    rfl
  · show ((u.user.map some).bind id).map some = u.user.map some
    cases u.user <;> rfl

theorem passOn_lowered {b : Budgets} {q : Request} {u : ChatRelay.Request} (hu : q.lift b = .ok u) :
    q.passOn b = .ok (lowerRequest b u) := by
  rw [Request.passOn, hu]
  rfl

theorem passThrough_of_passOn {b : Budgets} {w : Request} (h : w.passOn b = .ok w) (k : Nat) :
    w.passThrough b k = .ok w := by
  induction k with
  | zero => rfl
  | succ k ih =>
    rw [Request.passThrough, h]
    exact ih

/-- **Chains of gateways.**  Whatever a gateway sends for a request that it reads, another gateway
reads too and sends as it is, so a chain of gateways sends what one of them sends. -/
theorem passThrough_eq {b : Budgets} (hlow : b.low < b.medium) (hhigh : b.medium < b.high)
    {q : Request} (hinputs : ∀ v ∈ q.inputs, v.ReadsBack) {u : ChatRelay.Request}
    (hu : q.lift b = .ok u) :
    (∃ v, (lowerRequest b u).lift b = .ok v ∧ lowerRequest b v = lowerRequest b u) ∧
    (lowerRequest b u).passOn b = .ok (lowerRequest b u) ∧
    ∀ k, q.passThrough b (k + 1) = .ok (lowerRequest b u) := by
  obtain ⟨v, hv, hagain⟩ := lift_lowerRequest hlow hhigh hinputs hu
  have hsettled : (lowerRequest b u).passOn b = .ok (lowerRequest b u) := by
    rw [passOn_lowered hv, hagain]
  refine ⟨⟨v, hv, hagain⟩, hsettled, fun k => ?_⟩
  rw [Request.passThrough, passOn_lowered hu]
  exact passThrough_of_passOn hsettled k

/-- a request whose turns are mixed and whose thinking is raised to a budget -/
def errand : Request :=
  { model := "m"
    maxTokens := some 100
    system := some (.blocks ["be", "brief"])
    messages := [
      { role := "user", content := .blocks [
          .text "here", .image (.base64 "image/png" "AA=="), .image (.url "data:image/png,x")] },
      { role := "assistant", content := .blocks [
          .toolUse "t" "look" ⟨.object [("at", .text "sky")], by decide⟩,
          .redacted "r", .text "I ", .text "look", .thinking "hm" none] },
      { role := "user", content := .blocks [
          .text "well", .toolResult "t" (.blocks [.text "it is ", .text "blue"]) none] },
      { role := "user", content := .blocks [.toolResult "t" .missing (some true)] }]
    temperature := some 0.5
    stopSequences := some []
    thinking := some (.enabled 9000) }

theorem passThrough_eq_errand :
    ∃ u, errand.lift {} = .ok u ∧ (lowerRequest {} u).maxTokens = some 19096 ∧
      (∀ v ∈ errand.inputs, v.ReadsBack) ∧
      ∀ k, errand.passThrough {} (k + 1) = .ok (lowerRequest {} u) := by
  have hread : ∃ u, errand.lift {} = .ok u ∧ (lowerRequest {} u).maxTokens = some 19096 := by
    decide +kernel
  have hinputs : ∀ v ∈ errand.inputs, v.ReadsBack := by decide +kernel
  obtain ⟨u, hu, hbound⟩ := hread
  obtain ⟨-, -, hchain⟩ := passThrough_eq (by decide) (by decide) hinputs hu
  exact ⟨u, hu, hbound, hinputs, hchain⟩

end ChatRelay.Anthropic
