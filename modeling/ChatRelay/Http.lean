import ChatRelay.Fault

/-!
# Calls and answers

What is sent to a backend and what it answers, and what a caller is answered.  The case of a header
name does not matter; the library writes lower case.

* `Auth.masked`       credentials without their secret;
* `Reply.requestId`   the identifier a backend gives a request;
* `Answer.ofError`    an error for a caller, under its status and request identifier.
-/

namespace ChatRelay.Http

/-- credentials of a call -/
inductive Auth where
  | bearer (key : String)
  | header (name key : String)
  deriving DecidableEq, Repr

/-- credentials as they may be shown -/
def Auth.masked : Auth → String
  | .bearer _ => "Bearer(***)"
  | .header name _ => "ApiKey(" ++ name ++ ": ***)"

/-- the header of a JSON body -/
def jsonHeader : String × String := ("content-type", "application/json")

/-- a call to a backend -/
structure Call where
  method : String := "POST"
  url : String
  headers : List (String × String) := [jsonHeader]
  body : String
  auth : Option Auth := none
  deriving DecidableEq, Repr

/-- the answer of a backend -/
structure Reply where
  status : UInt16 := 200
  headers : List (String × String) := []
  body : ByteArray

/-- an empty answer -/
def Reply.empty : Reply := { body := ByteArray.empty }

instance : Inhabited Reply := ⟨.empty⟩

/-- whether a character of a header may be shown: visible ASCII, a space or a tab -/
def isVisible (c : Char) : Bool := (0x20 ≤ c.toNat && c.toNat < 0x7F) || c = '\t'

/-- whether a character may stand in a header -/
def isHeaderChar (c : Char) : Bool := (0x20 ≤ c.toNat && c.toNat ≠ 0x7F) || c = '\t'

/-- the first of the headers with a name in lower case -/
def header? (name : String) (headers : List (String × String)) : Option String :=
  (headers.find? fun h => h.1.toLower == name).map (·.2)

/-- the identifier of a request, none unless all of it can be shown -/
def Reply.requestId (r : Reply) : Option String :=
  ((header? "request-id" r.headers).or (header? "x-request-id" r.headers)).filter
    (·.toList.all isVisible)

/-- what a caller is answered -/
structure Answer where
  status : UInt16 := 200
  headers : List (String × String) := [jsonHeader]
  body : String
  deriving DecidableEq, Repr, Inhabited

/-- an error body under the status and the request identifier of a report -/
def Answer.ofError (e : ErrorReport) (body : String) : Answer :=
  { status := Fault.validStatus e.status
    headers := jsonHeader ::
      ((e.requestId.filter (·.toList.all isHeaderChar)).map (("request-id", ·))).toList
    body }

end ChatRelay.Http
