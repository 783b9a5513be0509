import ChatRelay.Conversation.Response
import ChatRelay.Json.Record
import ChatRelay.Text.Blank

/-!
# Faults

What can go wrong between a caller and a backend.  A fault has a status, a kind and a wording, and
becomes an `ErrorReport` for the caller.

* `Fault.message`      the wording;
* `Fault.report`       the report of a fault; the text of an internal fault stays inside;
* `Fault.isRetryable`  whether another attempt could succeed;
* `ok_of_bind`         what two steps do that come to a result;
* `exists_ok_bind`     when they come to one.
-/

namespace ChatRelay

/-- two steps come to a result only if the first comes to one from which the second does -/
theorem ok_of_bind {ε α β : Type} {x : Except ε α} {f : α → Except ε β} {b : β}
    (h : x >>= f = .ok b) : ∃ a, x = .ok a ∧ f a = .ok b := by
  cases x with
  | error e => exact nomatch h
  | ok a => exact ⟨a, rfl, h⟩

/-- two steps come to a result exactly where the first does and the second does from there -/
theorem exists_ok_bind {ε α β : Type} {x : Except ε α} {f : α → Except ε β} :
    (∃ b, x >>= f = .ok b) ↔ ∃ a, x = .ok a ∧ ∃ b, f a = .ok b := by
  constructor
  · rintro ⟨b, hb⟩
    obtain ⟨a, ha, hfa⟩ := ok_of_bind hb
    exact ⟨a, ha, b, hfa⟩
  · rintro ⟨a, ha, b, hb⟩
    refine ⟨b, ?_⟩
    rw [ha]
    exact hb

theorem ok_of_map {ε α β : Type} {x : Except ε α} {f : α → β} {b : β} (h : x.map f = .ok b) :
    ∃ a, x = .ok a ∧ f a = b := by
  cases x with
  | error e => exact nomatch h
  | ok a => exact ⟨a, rfl, Except.ok.inj h⟩

theorem exists_ok_of_isOk {ε α : Type} {x : Except ε α} (h : x.isOk = true) :
    ∃ a, x = .ok a := by
  cases x with
  | error e => exact nomatch h
  | ok a => exact ⟨a, rfl⟩

instance decidableExistsOk {ε α : Type} (x : Except ε α) (P : α → Prop) [DecidablePred P] :
    Decidable (∃ a, x = .ok a ∧ P a) :=
  match x with
  | .ok a => decidable_of_iff (P a) (by simp)
  | .error _ => isFalse nofun

/-- what is wrong with a caller's request -/
inductive RequestFault where
  | malformedBody (problem : Json.Problem)
  | toolChoice (problem : Json.Problem)
  | role (name : String)
  | effortField (word : String)
  | effortOption (word : String)
  | noModel
  | noMessages
  | noTokenBound
  | told (text : String)
  deriving DecidableEq, Repr

/-- the wording of a request fault -/
def RequestFault.message : RequestFault → String
  | .malformedBody p => "malformed request body: " ++ p.message
  | .toolChoice p => "invalid tool_choice: " ++ p.message
  | .role name => "unsupported message role '" ++ name ++ "'"
  | .effortField word => "unsupported reasoning_effort '" ++ word ++ "'"
  | .effortOption word => "unsupported reasoning effort '" ++ word ++ "'"
  | .noModel => "model is required"
  | .noMessages => "messages must not be empty"
  | .noTokenBound => "max_tokens must be a positive integer"
  | .told text => text

/-- what is wrong with a backend's answer, or with the place it is asked at -/
inductive TransformFault where
  | response (problem : Json.Problem)
  | choice (index : UInt32) (cause : RequestFault)
  | endpoint (channel reason : String)
  | noEvents
  | told (text : String)
  deriving DecidableEq, Repr

/-- the wording of a transform fault -/
def TransformFault.message : TransformFault → String
  | .response p => "failed to parse response: " ++ p.message
  | .choice index cause => s!"choice {index.toNat}: invalid request: " ++ cause.message
  | .endpoint channel reason =>
    "invalid endpoint for channel '" ++ channel ++ "': " ++ reason
  | .noEvents => "no stream events"
  | .told text => text

/-- a failed step between caller and backend -/
inductive Fault where
  | invalidRequest (cause : RequestFault)
  | backend (status : UInt16) (message : String) (requestId : Option String)
  | transport (text : String)
  | transform (cause : TransformFault)
  | streaming (text : String)
  | unsupportedFormat (name : String)
  | unknownBackend (name : String)
  | internal (text : String)
  deriving DecidableEq, Repr

namespace Fault

/-- the wording of a fault -/
def message : Fault → String
  | invalidRequest cause => "invalid request: " ++ cause.message
  | backend status text _ => s!"upstream returned {status.toNat}: " ++ text
  | transport text => "transport error: " ++ text
  | transform cause => "transform error: " ++ cause.message
  | streaming text => "streaming error: " ++ text
  | unsupportedFormat name => "unsupported format: " ++ name
  | unknownBackend name => "unknown backend: " ++ name
  | internal text => "internal error: " ++ text

/-- a status of three digits as it is, every other number as 502 -/
def validStatus (status : UInt16) : UInt16 :=
  if 100 ≤ status ∧ status ≤ 999 then status else 502

/-- the status of a fault -/
def status : Fault → UInt16
  | invalidRequest _ | unsupportedFormat _ => 400
  | unknownBackend _ => 404
  | backend status _ _ => validStatus status
  | transport _ | transform _ => 502
  | streaming _ | internal _ => 500

/-- the kind of a failure that a backend answered with a status -/
def backendKind (status : UInt16) : String :=
  if status = 400 ∨ status = 422 then "invalid_request_error"
  else if status = 401 then "authentication_error"
  else if status = 403 then "permission_error"
  else if status = 404 then "not_found_error"
  else if status = 429 then "rate_limit_error"
  else if status = 529 then "overloaded_error"
  else "upstream_error"

/-- the kind of a fault -/
def kind : Fault → String
  | invalidRequest _ | unsupportedFormat _ => "invalid_request_error"
  | unknownBackend _ => "not_found_error"
  | backend status _ _ => backendKind status
  | transport _ => "api_connection_error"
  | transform _ => "upstream_error"
  | streaming _ => "streaming_error"
  | internal _ => "internal_error"

/-- the wording a caller may see -/
def clientMessage : Fault → String
  | internal _ => "an internal error occurred"
  | f => f.message

/-- the request identifier that a backend gave -/
def requestId : Fault → Option String
  | backend _ _ id => id
  | _ => none

/-- whether another attempt could succeed: only when the backend refused or was not reached -/
def isRetryable : Fault → Bool
  | backend .. | transport _ => true
  | _ => false

/-- the report of a fault -/
def report (f : Fault) : ErrorReport :=
  { status := f.status
    kind := f.kind
    message := f.clientMessage
    requestId := f.requestId }

@[simp] theorem report_code (f : Fault) : f.report.code = none := rfl

end Fault

/-- an error body that is no envelope says its message itself, unless it is blank -/
def ErrorReport.withBody (fallback : ErrorReport) (body : String) : ErrorReport :=
  if Text.isBlankText body then fallback else { fallback with message := Text.trim body }

end ChatRelay
