import ChatRelay.Backend.Reply
import ChatRelay.Caller
import ChatRelay.Proofs.JsonText

/-!
# Errors on their way through a relay

A relay may itself be the backend of a relay.  The error that the one writes for its caller is the
error body that the other reads, under the same status and request identifier, and the report
comes through: whole in the envelope of chat completions, without its code in the envelope of
messages, which has no place for one.  Nothing is asked of the texts in the report; a message may
look like JSON, be blank, or hold controls.

* `OpenAi.readError_renderError`, `Anthropic.readError_renderError`   what an envelope says of the
  report it was written for;
* `report_renderError`   a report through a caller and a backend.
-/

namespace ChatRelay

open Json (Reader)

/-! ## the envelope of chat completions -/

/-- an optional field, written as `null` where there is nothing, is read as it was written -/
theorem Json.Record.get?_orNull {α : Type} {read : Reader α} (write : α → Json) {a : Option α}
    (h : ∀ x ∈ a, write x ≠ .null ∧ read (write x) = .ok x) {r : Json.Record} {name : String}
    (hfield : r.find? name = some (Json.orNull a write)) : r.get? name read = .ok a := by
  rw [get?, hfield]
  cases a with
  | none => rfl
  | some x =>
    obtain ⟨hnull, hread⟩ := h x rfl
    rw [Json.orNull, Option.map_some, Option.getD_some]
    split
    · next heq => exact nomatch heq
    · next heq => exact absurd (Option.some.inj heq) hnull
    · next hj =>
      rw [← Option.some.inj hj, hread]
      rfl

namespace OpenAi

/-- an envelope reads back, unless its code is the value that says there is none -/
theorem ErrorDetail.ofEnvelope_toEnvelope {d : ErrorDetail} (h : ∀ v ∈ d.code, v.json ≠ .null) :
    ofEnvelope d.toEnvelope = .ok d := by
  let r : Json.Record := ⟨[("message", .text d.message), ("type", Json.orNull d.kind .text),
    ("param", Json.orNull d.param .text), ("code", Json.orNull d.code (·.json))]⟩
  have hword : ∀ s, Json.text s ≠ .null ∧ Json.asText (.text s) = .ok s := by simp [Json.asText]
  have hkind : r.get? "type" Json.asText = .ok d.kind :=
    Json.Record.get?_orNull .text (fun s _ => hword s) rfl
  have hparam : r.get? "param" Json.asText = .ok d.param :=
    Json.Record.get?_orNull .text (fun s _ => hword s) rfl
  have hcode : r.get? "code" Json.asValue = .ok d.code := by
    refine Json.Record.get?_orNull (·.json) (fun v hv => ⟨h v hv, ?_⟩) rfl
    rw [Json.asValue, Json.Value.ofJson?_json]
  have hfields : ofEnvelope d.toEnvelope = (do
      let kind ← r.get? "type" Json.asText
      let param ← r.get? "param" Json.asText
      let code ← r.get? "code" Json.asValue
      return { message := d.message, kind, param, code }) := rfl
  rw [hfields, hkind, hparam, hcode]
  rfl

theorem plain_renderError (e : ErrorReport) : (renderError e).toEnvelope.plain := by
  cases hcode : e.code <;> simp [renderError, hcode] <;> rfl

theorem depth_renderError (e : ErrorReport) : (renderError e).toEnvelope.depth = 2 := by
  cases hcode : e.code <;> simp [renderError, hcode] <;> rfl

/-- an envelope says the message, the kind and the code of the report it was written for -/
theorem readError_renderError (e fallback : ErrorReport) :
    readError (renderError e).toEnvelope.render fallback
      = { fallback with message := e.message, kind := e.kind, code := e.code } := by
  have hread : ErrorDetail.ofEnvelope (renderError e).toEnvelope = .ok (renderError e) := by
    refine ErrorDetail.ofEnvelope_toEnvelope fun v hv => ?_
    obtain ⟨s, -, rfl⟩ := Option.map_eq_some_iff.1 hv
    exact nofun
  have hcode : (renderError e).code.map codeText = e.code := by
    rw [renderError, Option.map_map]
    exact Option.map_id'
  have hdepth : (renderError e).toEnvelope.depth ≤ Json.maxDepth := by
    rw [depth_renderError]
    decide
  rw [readError, Json.parse_render _ (plain_renderError e) hdepth, hread]
  simp only [hcode]
  rfl

end OpenAi

/-! ## the envelope of messages -/

namespace Anthropic

theorem ErrorDetail.ofEnvelope_toEnvelope (d : ErrorDetail) : ofEnvelope d.toEnvelope = .ok d :=
  rfl

/-- an envelope says the message and the kind of the report it was written for -/
theorem readError_renderError (e fallback : ErrorReport) :
    readError (renderError e).toEnvelope.render fallback
      = { fallback with message := e.message, kind := e.kind } := by
  rw [readError, Json.parse_render _ rfl (Nat.le_of_ble_eq_true rfl),
    ErrorDetail.ofEnvelope_toEnvelope]
  rfl

end Anthropic

/-! ## through a caller and a backend -/

/-- what a backend of chat completions makes of the body that a caller of them is answered -/
theorem report_completions (e : ErrorReport) {c : Caller} {b : Backend}
    (hc : c.dialect ≠ .anthropic) (hb : b.dialect ≠ .anthropic) (status : UInt16)
    (id : Option String) : b.report (.backend status (c.renderError e).body id)
      = { e with status := Fault.validStatus status, requestId := id } := by
  have hbody : (c.renderError e).body = (OpenAi.renderError e).toEnvelope.render := by
    cases hd : c.dialect with
    | anthropic => exact absurd hd hc
    | openAi | openRouter =>
      simp only [Caller.renderError, Http.Answer.ofError, Caller.errorBody, hd]
  have hread : ∀ body fallback,
      Backend.readError b.dialect body fallback = OpenAi.readError body fallback := by
    cases hd : b.dialect with
    | anthropic => exact absurd hd hb
    | openAi | openRouter => exact fun _ _ => rfl
  rw [Backend.report, hread, hbody, OpenAi.readError_renderError]
  rfl

/-- what a backend of messages makes of the body that a caller of them is answered -/
theorem report_messages (e : ErrorReport) {c : Caller} {b : Backend}
    (hc : c.dialect = .anthropic) (hb : b.dialect = .anthropic) (status : UInt16)
    (id : Option String) : b.report (.backend status (c.renderError e).body id)
      = { e with status := Fault.validStatus status, requestId := id, code := none } := by
  have hbody : (c.renderError e).body = (Anthropic.renderError e).toEnvelope.render := by
    simp only [Caller.renderError, Http.Answer.ofError, Caller.errorBody, hc]
  rw [Backend.report, hb, Backend.readError, hbody, Anthropic.readError_renderError]
  rfl

/-- a report under a status of three digits is answered under that status, and comes back whole
from a backend of chat completions, without its code from a backend of messages -/
theorem report_renderError {e : ErrorReport} (hlow : 100 ≤ e.status) (hhigh : e.status ≤ 999)
    (c : Caller) (b : Backend) :
    (c.renderError e).status = e.status ∧
      (c.dialect ≠ .anthropic → b.dialect ≠ .anthropic →
        b.report (.backend e.status (c.renderError e).body e.requestId) = e) ∧
      (c.dialect = .anthropic → b.dialect = .anthropic →
        b.report (.backend e.status (c.renderError e).body e.requestId)
          = { e with code := none }) := by
  have hstatus : Fault.validStatus e.status = e.status := if_pos ⟨hlow, hhigh⟩
  refine ⟨hstatus, fun hc hb => ?_, fun hc hb => ?_⟩
  · rw [report_completions e hc hb, hstatus]
  · rw [report_messages e hc hb, hstatus]

/-- a code that reads like `null`, and a message with a quote, a backslash and a control in it -/
theorem report_renderError_odd_texts :
    let e : ErrorReport := {
      status := 429, kind := "", code := some "null"
      message := " \"\x00\\", requestId := some "r" }
    let openRouter : Caller := { dialect := .openRouter }
    let messages : Caller := { dialect := .anthropic }
    (openRouter.renderError e).status = 429 ∧
    Backend.report { dialect := .openAi, channels := [] }
      (.backend 429 (openRouter.renderError e).body (some "r")) = e ∧
    Backend.report { dialect := .anthropic, channels := [] }
      (.backend 429 (messages.renderError e).body (some "r")) = { e with code := none } := by
  intro e openRouter messages
  have hpassed := report_renderError (e := e) (by decide) (by decide)
  exact ⟨(hpassed openRouter { dialect := .openAi, channels := [] }).1,
    (hpassed openRouter _).2.1 (by decide) (by decide), (hpassed messages _).2.2 rfl rfl⟩

end ChatRelay
