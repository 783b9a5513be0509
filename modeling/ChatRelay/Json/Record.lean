import ChatRelay.Json.Value

/-!
# Objects as records

A record is an object whose fields are known by name: a known name stands at most once, other names
are passed over unread.  A field is required, has a default, or is optional (then `null` says the
same as leaving it out).  The values of the fields may also stand in an array, in the order of the
names; those left out are the last ones.

A tagged object says in its field `type` which of several records it is; an array says it with its
first item.  Where the document was set aside before it is read (`Access.held`) nothing in it may be
unreadable, and the tag may also be given by its number.

A word out of several may also stand as the name of a field that is `null`.

* `asWord`            a word;
* `Record.ofJson`     the known fields of an object, or of an array;
* `tagOf`, `Record.ofTagged`   the tag of a tagged document, and its record;
* `field`, `fieldOf?`  the fields of an object to be written.
-/

namespace ChatRelay.Json

/-! ## problems -/

/-- why a document is not what its reader expects -/
inductive Problem where
  | brokenText
  | unreadable
  | expected (what : String)
  | missing (field : String)
  | repeated (field : String)
  | unknownTag (tag : String)
  | unknownField (field : String)
  deriving DecidableEq, Repr

/-- the wording of a problem -/
def Problem.message : Problem → String
  | .brokenText => "the text is not JSON"
  | .unreadable => "a part cannot be read"
  | .expected what => s!"expected {what}"
  | .missing field => s!"missing field {field}"
  | .repeated field => s!"repeated field {field}"
  | .unknownTag tag => s!"unknown variant {tag}"
  | .unknownField field => s!"unknown field {field}"

/-- a reader of documents -/
abbrev Reader (α : Type) := Json → Except Problem α

/-- reads a text -/
def parse {α : Type} (read : Reader α) (s : String) : Except Problem α :=
  match ofString? s with
  | some j => read j
  | none => .error .brokenText

/-- reads a byte sequence -/
def parseBytes {α : Type} (read : Reader α) (bytes : ByteArray) : Except Problem α :=
  match ofBytes? bytes with
  | some j => read j
  | none => .error .brokenText

/-! ## plain readers -/

/-- a text -/
def asText : Reader String
  | .text s => .ok s
  | _ => .error (.expected "a string")

/-- a word out of several, which may be the name of the only field of an object -/
def asWord : Reader String
  | .text s | .object [(s, .null)] => .ok s
  | _ => .error (.expected "a word")

/-- a truth value -/
def asBool : Reader Bool
  | .bool b => .ok b
  | _ => .error (.expected "a boolean")

/-- a natural number below `bound`, written as an integer -/
def asNatBelow (bound : Nat) : Reader Nat
  | .number (.int n) =>
    if 0 ≤ n ∧ n < bound then .ok n.toNat else .error (.expected s!"an integer below {bound}")
  | _ => .error (.expected "an integer")

/-- a number of 16 bits -/
def asWord16 : Reader UInt16 := fun j => (asNatBelow 0x10000 j).map UInt16.ofNat

/-- a number of 32 bits -/
def asWord32 : Reader UInt32 := fun j => (asNatBelow 0x100000000 j).map UInt32.ofNat

/-- a number of 64 bits -/
def asWord64 : Reader UInt64 := fun j => (asNatBelow 0x10000000000000000 j).map UInt64.ofNat

/-- a double, also written as an integer -/
def asFloat : Reader Float
  | .number n => .ok n.toFloat
  | _ => .error (.expected "a number")

/-- a free-form value -/
def asValue : Reader Value := fun j =>
  match Value.ofJson? j with
  | some v => .ok v
  | none => .error .unreadable

/-- free-form fields -/
def asMembers : Reader Members := fun j =>
  match Members.ofJson? j with
  | some m => .ok m
  | none => .error (.expected "an object")

/-- every document of a list, in order -/
def readAll {α : Type} (read : Reader α) : List Json → Except Problem (List α)
  | [] => .ok []
  | x :: xs =>
    match read x with
    | .error e => .error e
    | .ok a =>
      match readAll read xs with
      | .error e => .error e
      | .ok as => .ok (a :: as)

/-- an array -/
def asList {α : Type} (read : Reader α) : Reader (List α)
  | .array xs => readAll read xs
  | _ => .error (.expected "an array")

/-- a document that was set aside before it is read: nothing in it may be unreadable -/
def held {α : Type} (read : Reader α) : Reader α := fun j =>
  if j.readable then read j else .error .unreadable

/-! ## records -/

/-- fields, of which the known ones stand at most once -/
structure Record where
  fields : List (String × Json)
  deriving Repr

namespace Record

/-- the first of the names that stands in the fields more than once -/
def repeated? (fields : List (String × Json)) (names : List String) : Option String :=
  names.find? fun name => 1 < fields.countP (·.1 = name)

/-- the fields of an object as a record of the known names -/
def ofFields (known : List String) (fields : List (String × Json)) : Except Problem Record :=
  match repeated? fields known with
  | some name => .error (.repeated name)
  | none => .ok ⟨fields⟩

/-- an object, and no array, as a record of the known names -/
def ofObject (known : List String) : Json → Except Problem Record
  | .object fields => ofFields known fields
  | _ => .error (.expected "an object")

/-- an object as a record of the known names, or an array of what stands under the first of them -/
def ofJson (known : List String) : Json → Except Problem Record
  | .object fields => ofFields known fields
  | .array items =>
    if items.length ≤ known.length then .ok ⟨known.zip items⟩
    else .error (.expected "fewer items")
  | _ => .error (.expected "an object")

/-- the document of a field -/
def find? (r : Record) (name : String) : Option Json := r.fields.lookup name

/-- a field that must be there -/
def require {α : Type} (r : Record) (name : String) (read : Reader α) : Except Problem α :=
  match r.find? name with
  | some j => read j
  | none => .error (.missing name)

/-- a field with a default -/
def getD {α : Type} (r : Record) (name : String) (default : α) (read : Reader α) :
    Except Problem α :=
  match r.find? name with
  | some j => read j
  | none => .ok default

/-- a field that may be left out or `null` -/
def get? {α : Type} (r : Record) (name : String) (read : Reader α) :
    Except Problem (Option α) :=
  match r.find? name with
  | none | some .null => .ok none
  | some j => (read j).map some

end Record

/-! ## tagged documents -/

/-- how a document comes to its reader: straight from the text, or set aside first -/
inductive Access where
  | direct
  | held
  deriving DecidableEq, Repr

/-- the tag among `tags` that the value of a field `type` says -/
def tagNamed (access : Access) (tags : List String) : Json → Except Problem String
  | .text s => if s ∈ tags then .ok s else .error (.unknownTag s)
  | .number (.int n) =>
    match access, tags[n.toNat]? with
    | .held, some tag => if 0 ≤ n then .ok tag else .error (.expected "a variant")
    | _, _ => .error (.expected "a variant")
  | _ => .error (.expected "a variant")

/-- the tag of an object or an array; the rest of it is set aside before it is read -/
def tagOf (access : Access) (tags : List String) : Json → Except Problem String
  | .object fields =>
    if fields.all fun f => f.1 = "type" || f.2.readable then
      match fields.filter (·.1 = "type") with
      | [] => .error (.missing "type")
      | [(_, tag)] => tagNamed access tags tag
      | _ => .error (.repeated "type")
    else .error .unreadable
  | .array [] => .error (.missing "type")
  | .array (tag :: items) =>
    if items.all readable then tagNamed access tags tag else .error .unreadable
  | _ => .error (.expected "an object")

/-- a tagged document as a record of the known names; the tag of an array is not among its items -/
def Record.ofTagged (known : List String) : Json → Except Problem Record
  | .array (_ :: items) => ofJson known (.array items)
  | j => ofJson known j

/-! ## writing -/

/-- a field -/
def field (name : String) (j : Json) : List (String × Json) := [(name, j)]

/-- a field that is left out when there is nothing to write -/
def fieldOf? {α : Type} (name : String) (a : Option α) (write : α → Json) :
    List (String × Json) :=
  match a with
  | some a => [(name, write a)]
  | none => []

@[simp] theorem fieldOf?_none {α : Type} (name : String) (write : α → Json) :
    fieldOf? name none write = [] := rfl
@[simp] theorem fieldOf?_some {α : Type} (name : String) (a : α) (write : α → Json) :
    fieldOf? name (some a) write = [(name, write a)] := rfl

/-- a tagged object -/
def tagged (tag : String) (fields : List (String × Json)) : Json :=
  .object (("type", .text tag) :: fields)

/-- an optional document, `null` for none -/
def orNull {α : Type} (a : Option α) (write : α → Json) : Json := (a.map write).getD .null

/-- a number of 16 bits -/
def ofWord16 (n : UInt16) : Json := ofNat n.toNat
/-- a number of 32 bits -/
def ofWord32 (n : UInt32) : Json := ofNat n.toNat
/-- a number of 64 bits -/
def ofWord64 (n : UInt64) : Json := ofNat n.toNat
/-- a double -/
def ofFloat (x : Float) : Json := .number (.float x)
/-- a list -/
def ofList {α : Type} (write : α → Json) (as : List α) : Json := .array (as.map write)

end ChatRelay.Json
