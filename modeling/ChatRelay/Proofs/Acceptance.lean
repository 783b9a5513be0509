import ChatRelay.Caller
import ChatRelay.Proofs.CanonicalRecord
import Mathlib.Tactic.ByContra

/-!
# Requests that are accepted

A body that reads as a request of its format is accepted where it says what every format demands,
a model and messages in known roles, and what its own format demands besides.  Messages are counted
in the shared form, where a system prompt is one of them, so a request of the messages interface may
do without any.  A tool choice is read as any other record is, so that besides the word of a mode
and the object that names a function some other spellings of the two will do.

* `Json.NamesChoice`, `Json.ReadsAsChoice`   tool choices, plain and in every form that is read;
* `WireRequest`                 a body as its format reads it, before anything is checked;
* `WireRequest.Sound`           what is demanded of it apart from messages and the tool choice;
* `Caller.accepts_iff`          which bodies are accepted;
* `Caller.accepts_prompt_alone`  a body without messages that is.
-/

namespace ChatRelay

/-! ## tool choices -/

def modeWords : List String := ["none", "auto", "required"]

namespace Json

/-- the word of a mode, or an object that names a function in an object and says what kind it is as
a text, if at all -/
def NamesChoice : Json → Prop
  | .text s => s ∈ modeWords
  | .object fs =>
    (∃ gs name, ("function", .object gs) ∈ fs ∧ ("name", .text name) ∈ gs) ∧
      ∀ v, ("type", v) ∈ fs → ∃ kind, v = .text kind
  | _ => False

/-- an object that says a name, or an array of a name alone -/
inductive NamesFunction : Json → Prop
  | field {gs : List (String × Json)} {name : String} (h : ("name", .text name) ∈ gs) :
      NamesFunction (.object gs)
  | item (name : String) : NamesFunction (.array [.text name])

/-- an object that names a function and says what kind it is as a text, if at all, or an array of
the kind and what names the function -/
inductive ChoosesFunction : Json → Prop
  | fields {fs : List (String × Json)} {f : Json} (hf : ("function", f) ∈ fs)
      (hname : f.NamesFunction) (hkind : ∀ v, ("type", v) ∈ fs → ∃ kind, v = .text kind) :
      ChoosesFunction (.object fs)
  | items {f : Json} (kind : String) (hname : f.NamesFunction) :
      ChoosesFunction (.array [.text kind, f])

/-- a document that is taken for a tool choice: the word of a mode, also where it is the name of the
only field, which is `null`, or what chooses a function in any form -/
def ReadsAsChoice (j : Json) : Prop :=
  (∃ s ∈ modeWords, j = .text s ∨ j = .object [(s, .null)]) ∨ j.ChoosesFunction

theorem NamesChoice.readsAsChoice {j : Json} (h : j.NamesChoice) : j.ReadsAsChoice := by
  cases j with
  | text s => exact .inl ⟨s, h, .inl rfl⟩
  | object fs =>
    obtain ⟨⟨gs, name, hf, hname⟩, hkind⟩ := h
    exact .inr (.fields hf (.field hname) hkind)
  | _ => exact h.elim

end Json

namespace ToolChoice

open Json (Record)

theorem modeOfWord?_isSome_iff (word : String) :
    (∃ m, modeOfWord? word = some m) ↔ word ∈ modeWords := by
  simp only [modeWords, List.mem_cons, List.not_mem_nil, or_false]
  constructor
  · rintro ⟨m, hm⟩
    by_contra hnot
    rw [not_or, not_or] at hnot
    simp [modeOfWord?, hnot] at hm
  · rintro (rfl | rfl | rfl) <;> exact ⟨_, rfl⟩

theorem modeOfJson_ok_iff (j : Json) :
    (∃ m, modeOfJson j = .ok m) ↔
      ∃ s ∈ modeWords, j = .text s ∨ j = .object [(s, .null)] := by
  rw [modeOfJson, exists_ok_bind]
  refine exists_congr fun word => ?_
  rw [Json.asWord_ok_iff, and_comm, ← modeOfWord?_isSome_iff]
  refine and_congr_left fun _ => ?_
  cases modeOfWord? word with
  | none => exact ⟨nofun, nofun⟩
  | some m => exact ⟨fun _ => ⟨m, rfl⟩, fun _ => ⟨m, rfl⟩⟩

theorem nameOfJson_ok_iff {j : Json} (h : j.canonical = true) :
    (∃ s, nameOfJson j = .ok s) ↔ j.NamesFunction := by
  unfold nameOfJson
  cases j with
  | object gs =>
    have hnodup := (Json.canonical_object h).1
    rw [Record.ofJson_of_nodup hnodup]
    show (∃ s, Record.require ⟨gs⟩ "name" Json.asText = .ok s) ↔ _
    rw [Record.require_ok_iff hnodup]
    simp only [Json.asText_ok_iff]
    constructor
    · rintro ⟨_, hmem, s, rfl⟩
      exact .field hmem
    · rintro ⟨hmem⟩
      exact ⟨_, hmem, _, rfl⟩
  | array items =>
    rcases items with _ | ⟨x, _ | ⟨y, rest⟩⟩
    · exact ⟨nofun, nofun⟩
    · show (∃ s, Json.asText x = .ok s) ↔ _
      rw [Json.asText_ok_iff]
      constructor
      · rintro ⟨s, rfl⟩
        exact .item s
      · rintro ⟨⟩
        exact ⟨_, rfl⟩
    · have hlong : ["name"].length < (x :: y :: rest).length := by simp
      obtain ⟨e, he⟩ := Record.ofJson_long hlong
      rw [he]
      exact ⟨nofun, nofun⟩
  | _ => exact ⟨nofun, nofun⟩

/-- a record chooses a function by what its fields say -/
theorem functionOfJson_ok_iff_of_record {j : Json} {r : Record}
    (hr : Record.ofJson ["type", "function"] j = .ok r) (hnodup : (r.fields.map (·.1)).Nodup)
    (hvalues : ∀ x ∈ r.fields, x.2.canonical = true) :
    (∃ c, functionOfJson j = .ok c) ↔
      (∃ f, ("function", f) ∈ r.fields ∧ f.NamesFunction) ∧
        ∀ v, ("type", v) ∈ r.fields → ∃ kind, v = .text kind := by
  have hread : functionOfJson j
      = r.getD "type" "function" Json.asText >>= fun kind =>
          r.require "function" nameOfJson >>= fun name => pure (.function kind name) := by
    rw [functionOfJson, hr]
    rfl
  rw [hread]
  constructor
  · rintro ⟨c, hc⟩
    obtain ⟨kind, hkind, hrest⟩ := ok_of_bind hc
    obtain ⟨name, hname, -⟩ := ok_of_bind hrest
    obtain ⟨f, hf, hread⟩ := (Record.require_ok_iff hnodup "function").mp ⟨name, hname⟩
    have htype := (Record.getD_ok_iff hnodup "type" "function").mp ⟨kind, hkind⟩
    exact ⟨⟨f, hf, (nameOfJson_ok_iff (hvalues _ hf)).mp hread⟩,
      fun v hv => (Json.asText_ok_iff v).mp (htype v hv)⟩
  · rintro ⟨⟨f, hf, hnames⟩, htype⟩
    have hread := (nameOfJson_ok_iff (hvalues _ hf)).mpr hnames
    obtain ⟨name, hname⟩ := (Record.require_ok_iff hnodup "function").mpr ⟨f, hf, hread⟩
    obtain ⟨kind, hkind⟩ := (Record.getD_ok_iff hnodup "type" "function").mpr
      fun v hv => (Json.asText_ok_iff v).mpr (htype v hv)
    refine ⟨.function kind name, ?_⟩
    rw [hkind, hname]
    rfl

theorem functionOfJson_ok_iff {j : Json} (h : j.canonical = true) :
    (∃ c, functionOfJson j = .ok c) ↔ j.ChoosesFunction := by
  cases j with
  | object fs =>
    obtain ⟨hnodup, hvalues⟩ := Json.canonical_object h
    rw [functionOfJson_ok_iff_of_record (Record.ofJson_of_nodup hnodup _) hnodup
      fun x hx => hvalues x.1 x.2 hx]
    constructor
    · rintro ⟨⟨f, hf, hname⟩, hkind⟩
      exact .fields hf hname hkind
    · rintro ⟨hf, hname, hkind⟩
      exact ⟨⟨_, hf, hname⟩, hkind⟩
  | array items =>
    have hvalues := Json.canonical_array h
    rcases items with _ | ⟨kind, _ | ⟨f, _ | ⟨x, rest⟩⟩⟩
    · exact ⟨nofun, nofun⟩
    · rw [functionOfJson_ok_iff_of_record (r := ⟨[("type", kind)]⟩) rfl (by simp)
        (by simpa using hvalues)]
      exact ⟨fun ⟨⟨f, hf, _⟩, _⟩ => absurd hf (by simp), nofun⟩
    · rw [functionOfJson_ok_iff_of_record (r := ⟨[("type", kind), ("function", f)]⟩) rfl (by simp)
        (by simpa using hvalues)]
      constructor
      · rintro ⟨⟨g, hg, hname⟩, hkind⟩
        obtain rfl : g = f := by simpa using hg
        obtain ⟨word, rfl⟩ := hkind kind (by simp)
        exact .items word hname
      · rintro ⟨⟩
        next word hname => exact ⟨⟨f, by simp, hname⟩, fun v hv => ⟨word, by simpa using hv⟩⟩
    · have hlong : ["type", "function"].length < (kind :: f :: x :: rest).length := by simp
      obtain ⟨e, he⟩ := Record.ofJson_long hlong
      rw [functionOfJson, he]
      exact ⟨nofun, nofun⟩
  | _ => exact ⟨nofun, nofun⟩

/-- a canonical document reads as a tool choice exactly where it is taken for one: a mode, or else a
function -/
theorem ofJson_ok_iff {j : Json} (h : j.canonical = true) :
    (∃ c, ofJson j = .ok c) ↔ j.ReadsAsChoice := by
  rw [Json.ReadsAsChoice, ← modeOfJson_ok_iff, ← functionOfJson_ok_iff h, ofJson, Json.held,
    if_pos (Json.readable_of_canonical j h)]
  cases modeOfJson j with
  | ok m => exact ⟨fun _ => .inl ⟨m, rfl⟩, fun _ => ⟨.mode m, rfl⟩⟩
  | error e => exact ⟨.inr, fun hor => hor.resolve_left nofun⟩

end ToolChoice

/-! ## efforts and roles -/

def effortWords : List String := ["minimal", "low", "medium", "high"]

theorem Effort.ofWord?_isSome_iff (word : String) :
    (∃ e, ofWord? word = some e) ↔ word ∈ effortWords := by
  simp only [effortWords, List.mem_cons, List.not_mem_nil, or_false]
  constructor
  · rintro ⟨e, he⟩
    by_contra hnot
    simp only [not_or] at hnot
    simp [ofWord?, hnot] at he
  · rintro (rfl | rfl | rfl | rfl) <;> exact ⟨_, rfl⟩

namespace OpenAi

def roleWords : List String := ["system", "developer", "user", "assistant", "tool", "function"]

theorem liftRole_ok_iff (word : String) : (∃ r, liftRole word = .ok r) ↔ word ∈ roleWords := by
  simp only [roleWords, List.mem_cons, List.not_mem_nil, or_false]
  constructor
  · rintro ⟨r, hr⟩
    by_contra hnot
    simp only [not_or] at hnot
    simp [liftRole, hnot] at hr
  · rintro (rfl | rfl | rfl | rfl | rfl | rfl) <;> exact ⟨_, rfl⟩

theorem Message.lift_ok_iff (m : Message) : (∃ x, m.lift = .ok x) ↔ m.role ∈ roleWords := by
  rw [Message.lift, exists_ok_bind, ← liftRole_ok_iff]
  exact exists_congr fun r => and_iff_left ⟨_, rfl⟩

theorem liftMessages_ok_iff (ms : List Message) :
    (∃ xs, liftMessages ms = .ok xs) ↔ ∀ m ∈ ms, m.role ∈ roleWords := by
  induction ms with
  | nil => exact ⟨fun _ => List.forall_mem_nil _, fun _ => ⟨[], rfl⟩⟩
  | cons m ms ih =>
    rw [List.forall_mem_cons, ← Message.lift_ok_iff, ← ih, liftMessages, exists_ok_bind]
    rw [← exists_and_right]
    refine exists_congr fun x => and_congr_right fun _ => ?_
    rw [exists_ok_bind]
    exact exists_congr fun xs => and_iff_left ⟨_, rfl⟩

theorem liftMessages_eq_nil {ms : List Message} {xs : List ChatRelay.Message}
    (h : liftMessages ms = .ok xs) : xs = [] ↔ ms = [] := by
  cases ms with
  | nil =>
    rw [← Except.ok.inj h]
    exact ⟨fun _ => rfl, fun _ => rfl⟩
  | cons m ms =>
    obtain ⟨x, -, hrest⟩ := ok_of_bind h
    obtain ⟨ys, -, hys⟩ := ok_of_bind hrest
    rw [← Except.ok.inj hys]
    exact ⟨nofun, nofun⟩

theorem liftToolChoice_ok_iff (v : Option Json.Value) :
    (∃ c, liftToolChoice v = .ok c) ↔ ∀ w ∈ v, w.json.ReadsAsChoice := by
  cases v with
  | none => exact ⟨fun _ => nofun, fun _ => ⟨none, rfl⟩⟩
  | some w =>
    simp only [Option.mem_some_iff, forall_eq']
    rw [← ToolChoice.ofJson_ok_iff w.canonical, liftToolChoice]
    cases ToolChoice.ofJson w.json with
    | ok c => exact ⟨fun _ => ⟨c, rfl⟩, fun _ => ⟨some c, rfl⟩⟩
    | error p => exact ⟨nofun, nofun⟩

theorem liftEffort_ok_iff (word : Option String) :
    (∃ e, liftEffort word = .ok e) ↔ ∀ w ∈ word, w ∈ effortWords := by
  cases word with
  | none => exact ⟨fun _ => nofun, fun _ => ⟨none, rfl⟩⟩
  | some w =>
    simp only [Option.mem_some_iff, forall_eq']
    rw [← Effort.ofWord?_isSome_iff, liftEffort]
    cases Effort.ofWord? w with
    | some e => exact ⟨fun _ => ⟨e, rfl⟩, fun _ => ⟨some e, rfl⟩⟩
    | none => exact ⟨nofun, nofun⟩

theorem Request.lift_ok_iff (q : Request) :
    (∃ u, q.lift = .ok u) ↔ (∀ m ∈ q.messages, m.role ∈ roleWords) ∧
      (∀ v ∈ q.toolChoice, v.json.ReadsAsChoice) ∧
        ∀ w ∈ q.reasoningEffort, w ∈ effortWords := by
  rw [← liftMessages_ok_iff, ← liftToolChoice_ok_iff, ← liftEffort_ok_iff, Request.lift]
  constructor
  · rintro ⟨u, hu⟩
    obtain ⟨xs, hxs, hu⟩ := ok_of_bind hu
    obtain ⟨c, hc, hu⟩ := ok_of_bind hu
    obtain ⟨e, he, -⟩ := ok_of_bind hu
    exact ⟨⟨xs, hxs⟩, ⟨c, hc⟩, ⟨e, he⟩⟩
  · rintro ⟨⟨xs, hxs⟩, ⟨c, hc⟩, ⟨e, he⟩⟩
    rw [hxs, hc, he]
    exact ⟨_, rfl⟩

theorem Request.lift_keeps {q : Request} {u : ChatRelay.Request} (h : q.lift = .ok u) :
    u.model = q.model ∧ (u.messages = [] ↔ q.messages = []) := by
  obtain ⟨xs, hxs, h⟩ := ok_of_bind h
  obtain ⟨c, -, h⟩ := ok_of_bind h
  obtain ⟨e, -, h⟩ := ok_of_bind h
  obtain rfl := Except.ok.inj h
  exact ⟨rfl, liftMessages_eq_nil hxs⟩

end OpenAi

namespace OpenRouter

theorem Reasoning.effortOr_ok_iff (b : Budgets) (plain : Option Effort) (x : Reasoning) :
    (∃ e, x.effortOr b plain = .ok e) ↔ ∀ w ∈ x.effort, w ∈ effortWords := by
  unfold effortOr
  cases x.effort with
  | none =>
    refine ⟨fun _ => nofun, fun _ => ?_⟩
    cases x.maxTokens with
    | none => exact ⟨_, rfl⟩
    | some n => exact ⟨_, rfl⟩
  | some w =>
    simp only [Option.mem_some_iff, forall_eq']
    rw [← Effort.ofWord?_isSome_iff]
    cases Effort.ofWord? w with
    | some e => exact ⟨fun _ => ⟨e, rfl⟩, fun _ => ⟨some e, rfl⟩⟩
    | none => exact ⟨nofun, nofun⟩

theorem Request.lift_ok_iff (b : Budgets) (q : Request) :
    (∃ u, q.lift b = .ok u) ↔ (∃ u, q.base.lift = .ok u) ∧
      ∀ w ∈ q.reasoning.bind (·.effort), w ∈ effortWords := by
  rw [Request.lift, exists_ok_bind, ← exists_and_right]
  refine exists_congr fun base => and_congr_right fun _ => ?_
  cases q.reasoning with
  | none => exact ⟨fun _ => nofun, fun _ => ⟨_, rfl⟩⟩
  | some x =>
    rw [Option.bind_some, ← x.effortOr_ok_iff b base.effort, exists_ok_bind]
    exact exists_congr fun e => and_iff_left ⟨_, rfl⟩

theorem Request.lift_keeps {b : Budgets} {q : Request} {u : ChatRelay.Request}
    (h : q.lift b = .ok u) :
    u.model = q.base.model ∧ (u.messages = [] ↔ q.base.messages = []) := by
  obtain ⟨base, hbase, h⟩ := ok_of_bind h
  have hkeeps := OpenAi.Request.lift_keeps hbase
  cases hreasoning : q.reasoning with
  | none =>
    rw [hreasoning] at h
    obtain rfl := Except.ok.inj h
    exact hkeeps
  | some x =>
    rw [hreasoning] at h
    obtain ⟨e, -, h⟩ := ok_of_bind h
    obtain rfl := Except.ok.inj h
    exact hkeeps

end OpenRouter

namespace Anthropic

def roleWords : List String := ["user", "assistant"]

theorem liftRole_ok_iff (word : String) : (∃ r, liftRole word = .ok r) ↔ word ∈ roleWords := by
  simp only [roleWords, List.mem_cons, List.not_mem_nil, or_false]
  constructor
  · rintro ⟨r, hr⟩
    by_contra hnot
    rw [not_or] at hnot
    simp [liftRole, hnot] at hr
  · rintro (rfl | rfl) <;> exact ⟨_, rfl⟩

/-- a turn is at least one message, also one that says nothing -/
theorem liftBlocks_ne_nil (role : Role) (bs : List Block) : liftBlocks role bs ≠ [] := by
  simp only [liftBlocks]
  split
  · next h =>
    intro hnil
    rw [hnil] at h
    simp at h
  · exact List.append_ne_nil_of_right_ne_nil _ (List.cons_ne_nil _ _)

theorem Message.lift_ok_iff (m : Message) : (∃ xs, m.lift = .ok xs) ↔ m.role ∈ roleWords := by
  rw [Message.lift, exists_ok_bind, ← liftRole_ok_iff]
  refine exists_congr fun r => and_iff_left ?_
  cases m.content with
  | text s => exact ⟨_, rfl⟩
  | blocks bs => exact ⟨_, rfl⟩

theorem Message.lift_ne_nil {m : Message} {xs : List ChatRelay.Message} (h : m.lift = .ok xs) :
    xs ≠ [] := by
  obtain ⟨r, -, h⟩ := ok_of_bind h
  cases hc : m.content with
  | text s =>
    rw [hc] at h
    rw [← Except.ok.inj h]
    exact List.cons_ne_nil _ _
  | blocks bs =>
    rw [hc] at h
    rw [← Except.ok.inj h]
    exact liftBlocks_ne_nil r bs

theorem liftMessages_ok_iff (ms : List Message) :
    (∃ xs, liftMessages ms = .ok xs) ↔ ∀ m ∈ ms, m.role ∈ roleWords := by
  induction ms with
  | nil => exact ⟨fun _ => List.forall_mem_nil _, fun _ => ⟨[], rfl⟩⟩
  | cons m ms ih =>
    rw [List.forall_mem_cons, ← Message.lift_ok_iff, ← ih, liftMessages, exists_ok_bind]
    rw [← exists_and_right]
    refine exists_congr fun x => and_congr_right fun _ => ?_
    rw [exists_ok_bind]
    exact exists_congr fun xs => and_iff_left ⟨_, rfl⟩

theorem liftMessages_eq_nil {ms : List Message} {xs : List ChatRelay.Message}
    (h : liftMessages ms = .ok xs) : xs = [] ↔ ms = [] := by
  cases ms with
  | nil =>
    rw [← Except.ok.inj h]
    exact ⟨fun _ => rfl, fun _ => rfl⟩
  | cons m ms =>
    obtain ⟨x, hx, hrest⟩ := ok_of_bind h
    obtain ⟨ys, -, hys⟩ := ok_of_bind hrest
    rw [← Except.ok.inj hys]
    refine ⟨fun hnil => ?_, nofun⟩
    exact absurd (List.append_eq_nil_iff.mp hnil).1 (Message.lift_ne_nil hx)

/-- the text of the system prompt, empty where there is none -/
def Request.promptText (q : Request) : String := (q.system.map System.plainText).getD ""

theorem systemMessages_eq_nil_iff (q : Request) :
    systemMessages q.system = [] ↔ q.promptText = "" := by
  unfold systemMessages Request.promptText
  cases q.system.map System.plainText with
  | none => exact ⟨fun _ => rfl, fun _ => rfl⟩
  | some s =>
    rw [Option.getD_some]
    show (if s = "" then [] else [Message.ofText .system s]) = [] ↔ s = ""
    rw [ite_eq_left_iff]
    refine ⟨fun h => ?_, fun h hne => absurd h hne⟩
    by_contra hne
    exact nomatch h hne

theorem Request.lift_ok_iff (b : Budgets) (q : Request) :
    (∃ u, q.lift b = .ok u) ↔ ∀ m ∈ q.messages, m.role ∈ roleWords := by
  rw [Request.lift, exists_ok_bind, ← liftMessages_ok_iff]
  exact exists_congr fun xs => and_iff_left ⟨_, rfl⟩

theorem Request.lift_keeps {b : Budgets} {q : Request} {u : ChatRelay.Request}
    (h : q.lift b = .ok u) :
    u.model = q.model ∧ (u.messages = [] ↔ q.messages = [] ∧ q.promptText = "") := by
  obtain ⟨xs, hxs, h⟩ := ok_of_bind h
  obtain rfl := Except.ok.inj h
  refine ⟨rfl, ?_⟩
  show systemMessages q.system ++ xs = [] ↔ _
  rw [List.append_eq_nil_iff, systemMessages_eq_nil_iff, liftMessages_eq_nil hxs]
  exact and_comm

theorem Request.isBounded_iff (q : Request) :
    q.isBounded = true ↔ ∃ n, q.maxTokens = some n ∧ 0 < n := by
  rw [isBounded, Option.any_eq_true]
  simp only [decide_eq_true_eq]

end Anthropic

/-! ## requests of any format -/

/-- a request as it stands in a body -/
inductive WireRequest where
  | openAi (q : OpenAi.Request)
  | openRouter (q : OpenRouter.Request)
  | anthropic (q : Anthropic.Request)

namespace WireRequest

def model : WireRequest → String
  | .openAi q => q.model
  | .openRouter q => q.base.model
  | .anthropic q => q.model

/-- the roles of the messages, in order -/
def roles : WireRequest → List String
  | .openAi q => q.messages.map (·.role)
  | .openRouter q => q.base.messages.map (·.role)
  | .anthropic q => q.messages.map (·.role)

/-- the roles that the format knows -/
def knownRoles : WireRequest → List String
  | .openAi _ | .openRouter _ => OpenAi.roleWords
  | .anthropic _ => Anthropic.roleWords

/-- a positive bound on the tokens of the answer, where the format wants one -/
def HasBound : WireRequest → Prop
  | .openAi _ | .openRouter _ => True
  | .anthropic q => ∃ n, q.maxTokens = some n ∧ 0 < n

/-- the tool choice, where the format leaves it as a free-form value -/
def toolChoice? : WireRequest → Option Json.Value
  | .openAi q => q.toolChoice
  | .openRouter q => q.base.toolChoice
  | .anthropic _ => none

/-- the words given for the effort, in either place -/
def efforts : WireRequest → List String
  | .openAi q => q.reasoningEffort.toList
  | .openRouter q => q.base.reasoningEffort.toList ++ (q.reasoning.bind (·.effort)).toList
  | .anthropic _ => []

/-- the text of a system prompt that stands apart from the messages -/
def promptText : WireRequest → String
  | .openAi _ | .openRouter _ => ""
  | .anthropic q => q.promptText

/-- what is demanded of a request apart from messages and the tool choice -/
structure Sound (w : WireRequest) : Prop where
  model : ∃ c ∈ w.model.toList, Text.isBlank c = false
  roles : ∀ r ∈ w.roles, r ∈ w.knownRoles
  bound : w.HasBound
  efforts : ∀ e ∈ w.efforts, e ∈ effortWords

/-- the tool choice is of a kind, if there is one that the format leaves as a free-form value -/
def Chooses (P : Json → Prop) (w : WireRequest) : Prop := ∀ v ∈ w.toolChoice?, P v.json

/-- something is said: a message, or the text of a system prompt that stands apart -/
def Says (w : WireRequest) : Prop := w.roles ≠ [] ∨ w.promptText ≠ ""

/-- the shared form, before it is checked -/
def lift (b : Budgets) : WireRequest → Except RequestFault Request
  | .openAi q => q.lift
  | .openRouter q => q.lift b
  | .anthropic q => if q.isBounded then q.lift b else .error .noTokenBound

theorem lift_ok_iff (b : Budgets) (w : WireRequest) :
    (∃ u, w.lift b = .ok u) ↔ (∀ r ∈ w.roles, r ∈ w.knownRoles) ∧ w.HasBound ∧
      w.Chooses Json.ReadsAsChoice ∧ ∀ e ∈ w.efforts, e ∈ effortWords := by
  cases w with
  | openAi q =>
    simp only [lift, roles, knownRoles, HasBound, efforts, List.forall_mem_map,
      Option.mem_toList, true_and]
    exact q.lift_ok_iff
  | openRouter q =>
    simp only [lift, roles, knownRoles, HasBound, efforts, List.forall_mem_map,
      List.forall_mem_append, Option.mem_toList, true_and]
    rw [q.lift_ok_iff, q.base.lift_ok_iff, and_assoc, and_assoc]
    exact Iff.rfl
  | anthropic q =>
    simp only [lift, roles, knownRoles, HasBound, Chooses, toolChoice?, efforts,
      List.forall_mem_map, Option.not_mem_none, List.not_mem_nil, false_imp_iff, implies_true,
      and_true]
    rw [← q.lift_ok_iff b, ← q.isBounded_iff]
    by_cases hbound : q.isBounded = true
    · rw [if_pos hbound]
      exact (and_iff_left hbound).symm
    · rw [if_neg hbound]
      refine ⟨fun ⟨u, hu⟩ => ?_, fun h => absurd h.2 hbound⟩
      cases hu

theorem lift_keeps {b : Budgets} {w : WireRequest} {u : Request} (h : w.lift b = .ok u) :
    u.model = w.model ∧ (u.messages = [] ↔ w.roles = [] ∧ w.promptText = "") := by
  cases w with
  | openAi q =>
    rw [lift] at h
    obtain ⟨hmodel, hmessages⟩ := OpenAi.Request.lift_keeps h
    refine ⟨hmodel, hmessages.trans ?_⟩
    rw [roles, List.map_eq_nil_iff]
    exact (and_iff_left rfl).symm
  | openRouter q =>
    rw [lift] at h
    obtain ⟨hmodel, hmessages⟩ := OpenRouter.Request.lift_keeps h
    refine ⟨hmodel, hmessages.trans ?_⟩
    rw [roles, List.map_eq_nil_iff]
    exact (and_iff_left rfl).symm
  | anthropic q =>
    rw [lift] at h
    split at h
    · obtain ⟨hmodel, hmessages⟩ := Anthropic.Request.lift_keeps h
      refine ⟨hmodel, hmessages.trans ?_⟩
      rw [roles, List.map_eq_nil_iff]
      exact Iff.rfl
    · exact nomatch h

end WireRequest

theorem Request.check_ok_iff (q : Request) :
    q.check = .ok () ↔ (∃ c ∈ q.model.toList, Text.isBlank c = false) ∧ q.messages ≠ [] := by
  have hblank : Text.isBlankText q.model = false ↔ ∃ c ∈ q.model.toList, Text.isBlank c = false := by
    rw [Text.isBlankText, List.all_eq_false]
    simp only [Bool.not_eq_true]
  rw [← hblank, check]
  cases Text.isBlankText q.model with
  | true => exact ⟨nofun, fun h => nomatch h.1⟩
  | false =>
    cases hmessages : q.messages with
    | nil => exact ⟨nofun, fun h => absurd rfl h.2⟩
    | cons m ms => exact ⟨fun _ => ⟨rfl, List.cons_ne_nil m ms⟩, fun _ => rfl⟩

namespace Caller

/-- a body as its format reads it, before anything is checked -/
def parseWire (c : Caller) (body : ByteArray) : Except RequestFault WireRequest :=
  match c.dialect with
  | .openAi => (parseBody OpenAi.Request.ofJson body).map .openAi
  | .openRouter => (parseBody OpenRouter.Request.ofJson body).map .openRouter
  | .anthropic => (parseBody Anthropic.Request.ofJson body).map .anthropic

theorem liftBody_of_parseWire {c : Caller} {body : ByteArray} {w : WireRequest}
    (h : c.parseWire body = .ok w) : c.liftBody body = w.lift c.budgets := by
  unfold parseWire at h
  unfold liftBody
  cases hd : c.dialect with
  | openAi | openRouter | anthropic =>
    rw [hd] at h
    obtain ⟨q, hq, rfl⟩ := ok_of_map h
    simp only [hq]
    rfl

theorem readRequest_ok_iff (c : Caller) (body : ByteArray) :
    (∃ u, c.readRequest body = .ok u) ↔ ∃ u, c.liftBody body = .ok u ∧ u.check = .ok () := by
  rw [readRequest, exists_ok_bind]
  refine exists_congr fun u => and_congr_right fun _ => ?_
  rw [exists_ok_bind]
  exact ⟨fun ⟨_, hcheck, _⟩ => hcheck, fun hcheck => ⟨(), hcheck, _, rfl⟩⟩

/-- **Accepted requests.**  A body that reads as a request of its format is accepted exactly where
the request is sound, what it gives as a tool choice is taken for one, and it says something: it has
a message, or the text of a system prompt that stands apart from the messages.  Every other body is
refused.  To have a message, and a tool choice that is a mode or an object that names a function,
decides it except where an accepted request has no message or chooses in another form. -/
theorem accepts_iff (c : Caller) {body : ByteArray} {w : WireRequest}
    (h : c.parseWire body = .ok w) :
    ((∃ u, c.readRequest body = .ok u) ↔ w.Sound ∧ w.Chooses Json.ReadsAsChoice ∧ w.Says) ∧
    (¬ (w.Sound ∧ w.Chooses Json.ReadsAsChoice ∧ w.Says) → ∃ f, c.readRequest body = .error f) ∧
    (((∃ u, c.readRequest body = .ok u) ↔
        w.Sound ∧ w.Chooses Json.NamesChoice ∧ w.roles ≠ []) ↔
      ¬ (w.Sound ∧ w.Chooses Json.ReadsAsChoice ∧ w.Says ∧
        (w.roles = [] ∨ ¬ w.Chooses Json.NamesChoice))) := by
  have haccepts : (∃ u, c.readRequest body = .ok u) ↔
      w.Sound ∧ w.Chooses Json.ReadsAsChoice ∧ w.Says := by
    rw [readRequest_ok_iff, liftBody_of_parseWire h]
    constructor
    · rintro ⟨u, hu, hcheck⟩
      obtain ⟨hmodel, hmessages⟩ := WireRequest.lift_keeps hu
      obtain ⟨hroles, hbound, hchoice, hefforts⟩ := (w.lift_ok_iff c.budgets).mp ⟨u, hu⟩
      obtain ⟨hletter, hsome⟩ := u.check_ok_iff.mp hcheck
      rw [hmodel] at hletter
      rw [Ne, hmessages, not_and_or] at hsome
      exact ⟨⟨hletter, hroles, hbound, hefforts⟩, hchoice, hsome⟩
    · rintro ⟨hsound, hchoice, hsome⟩
      obtain ⟨u, hu⟩ := (w.lift_ok_iff c.budgets).mpr
        ⟨hsound.roles, hsound.bound, hchoice, hsound.efforts⟩
      obtain ⟨hmodel, hmessages⟩ := WireRequest.lift_keeps hu
      refine ⟨u, hu, u.check_ok_iff.mpr ⟨?_, ?_⟩⟩
      · rw [hmodel]
        exact hsound.model
      · rw [Ne, hmessages, not_and_or]
        exact hsome
  refine ⟨haccepts, fun hnot => ?_, ?_⟩
  · cases hread : c.readRequest body with
    | ok u => exact absurd (haccepts.mp ⟨u, hread⟩) hnot
    | error f => exact ⟨f, rfl⟩
  · rw [haccepts]
    constructor
    · rintro hiff ⟨hsound, hchoice, hsays, hodd⟩
      obtain ⟨-, hplain, hroles⟩ := hiff.mp ⟨hsound, hchoice, hsays⟩
      exact hodd.elim hroles fun hnot => hnot hplain
    · intro hnot
      constructor
      · rintro ⟨hsound, hchoice, hsays⟩
        have hplain : ¬ (w.roles = [] ∨ ¬ w.Chooses Json.NamesChoice) :=
          fun hodd => hnot ⟨hsound, hchoice, hsays, hodd⟩
        rw [not_or, not_not] at hplain
        exact ⟨hsound, hplain.2, hplain.1⟩
      · rintro ⟨hsound, hplain, hroles⟩
        exact ⟨hsound, fun v hv => (hplain v hv).readsAsChoice, .inl hroles⟩

-- messages as arrays, and a mode as the name of a field, are as good as the plain spellings
example :
    ((readRequest { dialect := .openAi }
      ("\x7b\"model\":\"m\",\"messages\":[[\"user\",\"q\"]]," ++
        "\"tool_choice\":\x7b\"auto\":null\x7d\x7d").toUTF8).map (·.toolChoice)).toOption
      = some (some (.mode .auto)) := by decide +kernel

/-- a question that says both how to choose among tools and, twice, how hard to think -/
def pressing : ByteArray :=
  ("\x7b\"model\":\"m\",\"messages\":[\x7b\"role\":\"developer\",\"content\":\"q\"\x7d]," ++
    "\"tool_choice\":\"auto\",\"reasoning_effort\":\"minimal\"," ++
    "\"reasoning\":\x7b\"effort\":\"high\"\x7d\x7d").toUTF8

theorem accepts_iff_pressing :
    ∃ w, parseWire { dialect := .openRouter } pressing = .ok w ∧ w.Sound ∧
      ∃ u, readRequest { dialect := .openRouter } pressing = .ok u := by
  have hread : ∃ w, parseWire { dialect := .openRouter } pressing = .ok w ∧
      w.model = "m" ∧ w.roles = ["developer"] ∧ w.knownRoles = OpenAi.roleWords ∧
      w.toolChoice?.map (·.json) = some (.text "auto") ∧ w.efforts = ["minimal", "high"] := by
    decide +kernel
  obtain ⟨w, hw, hmodel, hroles, hknown, hchoice, hefforts⟩ := hread
  have hsound : w.Sound := by
    refine ⟨?_, ?_, ?_, ?_⟩
    · rw [hmodel]
      exact ⟨'m', by simp, by decide⟩
    · rw [hroles, hknown]
      decide
    · cases w with
      | openAi | openRouter => trivial
      | anthropic q =>
        have hwords : Anthropic.roleWords = OpenAi.roleWords := hknown
        exact absurd hwords (by decide)
    · rw [hefforts]
      decide
  have hmode : w.Chooses Json.ReadsAsChoice := by
    intro v hv
    obtain ⟨v', hv', hjson⟩ := Option.map_eq_some_iff.mp hchoice
    obtain rfl := Option.mem_unique hv hv'
    rw [hjson]
    exact .inl ⟨"auto", by decide, .inl rfl⟩
  have hsays : w.Says := .inl (by rw [hroles]; decide)
  exact ⟨w, hw, hsound,
    (accepts_iff { dialect := .openRouter } hw).1.mpr ⟨hsound, hmode, hsays⟩⟩

/-- a system prompt and not one message -/
def promptAlone : ByteArray :=
  "\x7b\"model\":\"m\",\"max_tokens\":1,\"system\":\"x\",\"messages\":[]\x7d".toUTF8

/-- a request without messages is accepted, with its prompt as the message that it has not -/
theorem accepts_prompt_alone :
    ∃ w, parseWire { dialect := .anthropic } promptAlone = .ok w ∧ w.roles = [] ∧
      (∃ u, readRequest { dialect := .anthropic } promptAlone = .ok u ∧
        u.messages = [.ofText .system "x"]) ∧
      ¬ ((∃ u, readRequest { dialect := .anthropic } promptAlone = .ok u) ↔
        w.Sound ∧ w.Chooses Json.NamesChoice ∧ w.roles ≠ []) := by
  have hread : ∃ w, parseWire { dialect := .anthropic } promptAlone = .ok w ∧ w.roles = [] := by
    decide +kernel
  have haccepted : ∃ u, readRequest { dialect := .anthropic } promptAlone = .ok u ∧
      u.messages = [.ofText .system "x"] := by decide +kernel
  obtain ⟨w, hw, hroles⟩ := hread
  obtain ⟨u, hu, hmessages⟩ := haccepted
  exact ⟨w, hw, hroles, ⟨u, hu, hmessages⟩, fun hiff => (hiff.mp ⟨u, hu⟩).2.2 hroles⟩

end Caller
end ChatRelay
