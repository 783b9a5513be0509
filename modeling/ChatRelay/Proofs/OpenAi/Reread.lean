import ChatRelay.Dialect.OpenRouter
import ChatRelay.Proofs.CanonicalRecord

/-!
# Requests that are written and read again

A request in the shared form is written as chat completions have it, and what was written is read
again.  Lost is what is not written: the top-k, the format that the request came in, reasoning and
its signature, whether a tool failed, stream options without a stream.  Where the shared form says a
thing in more than one way it comes back in one of them: the index of a call is its position, and a
text part alone is plain text.

* `ToolChoice.ofJson_meant`   a tool choice comes back from its free-form value;
* `lift_lowerMessage`         a message, in `OpenAi`;
* `lift_lowerRequest`         a request, in `OpenAi` and in `OpenRouter`;
* `Request.rereads`           both.
-/

namespace ChatRelay

/-- content with a text part alone as plain text -/
def Content.unwrapped : Content → Content
  | .parts [.text t] => .text t
  | c => c

/-- a message as it comes back -/
def Message.reread (m : Message) : Message :=
  { m with
    content := m.content.map Content.unwrapped
    toolCalls := m.toolCalls.map (·.mapIdx fun i c => { c with index := UInt32.ofNat i })
    toolFailed := none
    reasoning := none
    signature := none }

/-- a request as it comes back -/
def Request.reread (q : Request) : Request :=
  { q with
    messages := q.messages.map Message.reread
    params := { q.params with topK := none }
    streamOptions := if q.stream then q.streamOptions else none
    dialect := none }

/-! ## tool choices -/

namespace ToolChoice

/-- what the document of a tool choice means, its keys in order -/
def meant : ToolChoice → Json
  | .mode m => .text (modeWord m)
  | .function kind name =>
    .object [("function", .object [("name", .text name)]), ("type", .text kind)]

theorem normalize?_toJson (c : ToolChoice) : c.toJson.normalize? = some c.meant := by
  cases c with
  | mode m => rfl
  | function kind name =>
    -- the kind is written first; among sorted keys it stands behind the function
    have hlt : "function" < "type" := by decide
    have hsorted (v w : Json) :
        Json.setField "function" w [("type", v)] = [("function", w), ("type", v)] := by
      rw [Json.setField, if_pos hlt]
    exact congrArg (fun fs => some (Json.object fs)) (hsorted _ _)

theorem ofJson_meant (c : ToolChoice) : ofJson c.meant = .ok c := by
  cases c with
  | mode m => exact ofJson_modeWord m
  | function kind name => rfl

end ToolChoice

/-! ## messages -/

theorem Content.unwrapped_cases (c : Content) :
    (∃ t, c = .parts [.text t]) ∨ c.unwrapped = c := by
  unfold unwrapped
  split
  · exact .inl ⟨_, rfl⟩
  · exact .inr rfl

theorem Content.unwrapped_unwrapped (c : Content) : c.unwrapped.unwrapped = c.unwrapped := by
  rcases c.unwrapped_cases with ⟨t, rfl⟩ | h
  · rfl
  · rw [h, h]

namespace OpenAi

theorem collapse_eq (c : Content) : collapse c = c.unwrapped := by
  rcases c.unwrapped_cases with ⟨t, rfl⟩ | h
  · rfl
  · rw [h]
    cases c with
    | text t => rfl
    | parts ps =>
      show Content.ofParts ps = .parts ps
      unfold Content.ofParts
      split
      · exact h
      · rfl

theorem liftRole_word (r : Role) : liftRole r.word = .ok r := by cases r <;> rfl

theorem liftCalls_lowerCall (cs : List ToolCall) :
    liftCalls (cs.map lowerCall) = cs.mapIdx fun i c => { c with index := UInt32.ofNat i } := by
  refine List.ext_getElem? fun i => ?_
  rw [liftCalls, List.getElem?_mapIdx, List.getElem?_map, List.getElem?_mapIdx, Option.map_map]
  rfl

theorem lift_lowerMessage (m : ChatRelay.Message) : (lowerMessage m).lift = .ok m.reread := by
  have hcontent : ((lowerMessage m).content.map collapse).or ((lowerMessage m).refusal.map .text)
      = m.content.map Content.unwrapped := by
    show ((m.content.map collapse).map collapse).or none = _
    rw [Option.or_none, Option.map_map]
    refine Option.map_congr fun c _ => ?_
    rw [Function.comp_apply, collapse_eq, collapse_eq, c.unwrapped_unwrapped]
  have hcalls : (lowerMessage m).toolCalls.map liftCalls
      = m.toolCalls.map (·.mapIdx fun i c => { c with index := UInt32.ofNat i }) := by
    show (m.toolCalls.map (·.map lowerCall)).map liftCalls = _
    rw [Option.map_map]
    exact Option.map_congr fun cs _ => liftCalls_lowerCall cs
  rw [Message.lift, hcontent, hcalls]
  show liftRole m.role.word >>= _ = _
  rw [liftRole_word]
  rfl

theorem liftMessages_lowerMessage (ms : List ChatRelay.Message) :
    liftMessages (ms.map lowerMessage) = .ok (ms.map ChatRelay.Message.reread) := by
  induction ms with
  | nil => rfl
  | cons m ms ih =>
    rw [List.map_cons, liftMessages, lift_lowerMessage, ih]
    rfl

/-! ## requests -/

theorem liftToolChoice_toJson (c : Option ToolChoice) :
    liftToolChoice (c.bind fun c => Json.Value.ofJson? c.toJson) = .ok c := by
  cases c with
  | none => rfl
  | some c =>
    obtain ⟨v, hv, hmeant⟩ := Json.Value.exists_ofJson? c.normalize?_toJson
    rw [Option.bind_some, hv, liftToolChoice, hmeant, c.ofJson_meant]

theorem liftEffort_name (e : Option Effort) : liftEffort (e.map Effort.name) = .ok e := by
  cases e with
  | none => rfl
  | some e =>
    rw [Option.map_some, liftEffort, e.ofWord?_name]

theorem getD_metadata (m : Json.Members) :
    (if m.isEmpty then none else some m).getD .empty = m := by
  cases m with
  | mk fields canonical =>
    cases fields <;> rfl

/-- what is written for a backend of the vendor, read again -/
theorem lift_lowerRequest (q : ChatRelay.Request) : (lowerRequest q).lift = .ok q.reread := by
  have hstream : (lowerRequest q).stream.getD false = q.stream := by
    show (if q.stream then some true else none).getD false = _
    cases q.stream <;> rfl
  have hmetadata : (lowerRequest q).metadata.getD .empty = q.metadata := getD_metadata q.metadata
  rw [Request.lift, hstream, hmetadata]
  show liftMessages (q.messages.map lowerMessage) >>= _ = _
  rw [liftMessages_lowerMessage]
  show liftToolChoice (q.toolChoice.bind _) >>= _ = _
  rw [liftToolChoice_toJson]
  show liftEffort (q.effort.map Effort.name) >>= _ = _
  rw [liftEffort_name]
  rfl

end OpenAi

namespace OpenRouter

theorem effortOr_name (b : Budgets) (plain : Option Effort) (e : Effort) :
    ({ effort := some e.name } : Reasoning).effortOr b plain = .ok (some e) := by
  simp only [Reasoning.effortOr, e.ofWord?_name]

/-- the shared form of a request of the router from that of its base -/
theorem lift_of_base {b : Budgets} {q : Request} {base : ChatRelay.Request}
    (hbase : q.base.lift = .ok base) {effort : Option Effort}
    (heffort : q.reasoning.elim (.ok base.effort) (·.effortOr b base.effort) = .ok effort) :
    q.lift b = .ok { base with
      effort
      streamOptions :=
        if base.stream && q.usage.any (·.wanted) then some { includeUsage := true }
        else base.streamOptions } := by
  rw [Request.lift, hbase]
  cases hreasoning : q.reasoning with
  | none =>
    rw [hreasoning] at heffort
    rw [← Except.ok.inj heffort]
    rfl
  | some x =>
    rw [hreasoning] at heffort
    have hx : x.effortOr b base.effort = .ok effort := heffort
    show x.effortOr b base.effort >>= _ = _
    rw [hx]
    rfl

/-- what is written for the router, read again: a stream is asked for usage -/
theorem lift_lowerRequest (b : Budgets) (q : ChatRelay.Request) :
    (lowerRequest q).lift b = .ok { q.reread with
      streamOptions := if q.stream then some { includeUsage := true } else none } := by
  have hbase : (lowerRequest q).base.lift = .ok { q.reread with effort := none } :=
    OpenAi.lift_lowerRequest { q with effort := none }
  have heffort : (lowerRequest q).reasoning.elim (.ok none) (·.effortOr b none)
      = .ok q.effort := by
    show (q.effort.map fun e => ({ effort := some e.name } : Reasoning)).elim _ _ = _
    cases q.effort with
    | none => rfl
    | some e => exact effortOr_name b none e
  have hoptions : (if q.stream && (lowerRequest q).usage.any (·.wanted)
        then some { includeUsage := true } else q.reread.streamOptions)
      = if q.stream then some { includeUsage := true } else none := by
    unfold Request.reread
    cases q.stream <;> rfl
  rw [lift_of_base hbase heffort, ← hoptions]
  rfl

end OpenRouter

/-- **Written and read again.**  Any request that is written for a backend of either vendor is read
again, and is what it was but for what `Message.reread` and `Request.reread` take away or settle.
The router's form always asks for usage, so that a stream comes back with options that ask for
it. -/
theorem Request.rereads (b : Budgets) (q : Request) :
    (OpenAi.lowerRequest q).lift = .ok q.reread ∧
    (OpenRouter.lowerRequest q).lift b = .ok { q.reread with
      streamOptions := if q.stream then some { includeUsage := true } else none } :=
  ⟨OpenAi.lift_lowerRequest q, OpenRouter.lift_lowerRequest b q⟩

end ChatRelay
