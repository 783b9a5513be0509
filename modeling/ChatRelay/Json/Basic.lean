import ChatRelay.Json.Number

/-!
# JSON documents as written

`Json` keeps what a text says: the order of fields, fields of one name, the spelling of a number as
integer or double.  A part that the grammar accepts but no reader may look at (a lone surrogate, a
number out of range, a nesting too deep) is `unreadable`; a reader that skips the part does not
mind.

* `readable`  no part is unreadable;
* `depth`     the number of arrays and objects inside one another.
-/

namespace ChatRelay

/-- a JSON document as written -/
inductive Json where
  | null
  | bool (b : Bool)
  | number (n : Json.Number)
  | text (s : String)
  | array (items : List Json)
  | object (fields : List (String × Json))
  | unreadable
  deriving Repr, Inhabited

namespace Json

/-! ## equality -/

mutual
/-- whether two documents are written alike -/
def decEq : (a b : Json) → Decidable (a = b)
  | .null, b => by cases b <;> first | exact isTrue rfl | exact isFalse nofun
  | .unreadable, b => by cases b <;> first | exact isTrue rfl | exact isFalse nofun
  | .bool x, .bool y => decidable_of_iff (x = y) (by simp)
  | .number x, .number y => decidable_of_iff (x = y) (by simp)
  | .text x, .text y => decidable_of_iff (x = y) (by simp)
  | .array xs, .array ys =>
    match decEqItems xs ys with
    | isTrue h => isTrue (by rw [h])
    | isFalse h => isFalse (fun e => h (Json.array.inj e))
  | .object xs, .object ys =>
    match decEqFields xs ys with
    | isTrue h => isTrue (by rw [h])
    | isFalse h => isFalse (fun e => h (Json.object.inj e))
  | .bool _, .null | .bool _, .number _ | .bool _, .text _ | .bool _, .array _
  | .bool _, .object _ | .bool _, .unreadable => isFalse nofun
  | .number _, .null | .number _, .bool _ | .number _, .text _ | .number _, .array _
  | .number _, .object _ | .number _, .unreadable => isFalse nofun
  | .text _, .null | .text _, .bool _ | .text _, .number _ | .text _, .array _
  | .text _, .object _ | .text _, .unreadable => isFalse nofun
  | .array _, .null | .array _, .bool _ | .array _, .number _ | .array _, .text _
  | .array _, .object _ | .array _, .unreadable => isFalse nofun
  | .object _, .null | .object _, .bool _ | .object _, .number _ | .object _, .text _
  | .object _, .array _ | .object _, .unreadable => isFalse nofun

/-- whether two lists of documents are written alike -/
def decEqItems : (xs ys : List Json) → Decidable (xs = ys)
  | [], [] => isTrue rfl
  | [], _ :: _ => isFalse nofun
  | _ :: _, [] => isFalse nofun
  | x :: xs, y :: ys =>
    match decEq x y, decEqItems xs ys with
    | isTrue h, isTrue hs => isTrue (by rw [h, hs])
    | isFalse h, _ => isFalse (fun e => h (List.cons.inj e).1)
    | _, isFalse h => isFalse (fun e => h (List.cons.inj e).2)

/-- whether two lists of fields are written alike -/
def decEqFields : (xs ys : List (String × Json)) → Decidable (xs = ys)
  | [], [] => isTrue rfl
  | [], _ :: _ => isFalse nofun
  | _ :: _, [] => isFalse nofun
  | (k, x) :: xs, (l, y) :: ys =>
    match decEq x y, decEqFields xs ys with
    | isTrue h, isTrue hs =>
      if hk : k = l then isTrue (by rw [hk, h, hs])
      else isFalse (fun e => hk (Prod.mk.inj (List.cons.inj e).1).1)
    | isFalse h, _ => isFalse (fun e => h (Prod.mk.inj (List.cons.inj e).1).2)
    | _, isFalse h => isFalse (fun e => h (List.cons.inj e).2)
end

instance : DecidableEq Json := decEq

/-! ## shape -/

mutual
/-- no part is unreadable -/
def readable : Json → Bool
  | .unreadable => false
  | .array xs => readableItems xs
  | .object fs => readableFields fs
  | _ => true

/-- no part of a list of documents is unreadable -/
def readableItems : List Json → Bool
  | [] => true
  | x :: xs => x.readable && readableItems xs

/-- no part of a list of fields is unreadable -/
def readableFields : List (String × Json) → Bool
  | [] => true
  | (_, v) :: fs => v.readable && readableFields fs
end

mutual
/-- the number of arrays and objects inside one another -/
def depth : Json → Nat
  | .array xs => depthItems xs + 1
  | .object fs => depthFields fs + 1
  | _ => 0

/-- the greatest depth in a list of documents -/
def depthItems : List Json → Nat
  | [] => 0
  | x :: xs => max x.depth (depthItems xs)

/-- the greatest depth in a list of fields -/
def depthFields : List (String × Json) → Nat
  | [] => 0
  | (_, v) :: fs => max v.depth (depthFields fs)
end

/-- a non-negative integer -/
def ofNat (n : Nat) : Json := .number (.int n)

/-- the empty object -/
def empty : Json := .object []

theorem readableItems_eq_all (xs : List Json) : readableItems xs = xs.all readable := by
  induction xs with
  | nil => rfl
  | cons x xs ih => simp [readableItems, ih]

theorem readableFields_eq_all (fs : List (String × Json)) :
    readableFields fs = fs.all (·.2.readable) := by
  induction fs with
  | nil => rfl
  | cons f fs ih => simp [readableFields, ih]

end Json
end ChatRelay
