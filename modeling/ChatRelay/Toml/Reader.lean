import ChatRelay.Toml.Scalar

/-!
# Statements of settings files

A settings file is a list of statements, one a line: headers of tables, headers of entries of
arrays, and keys with values.

* `value?`       a value: a scalar, an array or a table in braces;
* `statements?`  the statements of a file.
-/

namespace ChatRelay.Toml

/-- a key: names with dots between them -/
abbrev Key := List String

/-- what a line says -/
inductive Statement where
  | table (key : Key)
  | entry (key : Key)
  | pair (key : Key) (value : Json)
  deriving DecidableEq

/-- a text without blanks at its beginning -/
def skipLineBlanks (cs : List Char) : List Char := cs.dropWhile isLineBlank

/-- whether a character may stand in a name without quotes -/
def isNameChar (c : Char) : Bool := c.isAlphanum || c = '_' || c = '-'

/-- a name, with or without quotes; one with quotes stands on one line -/
def name? : Step String := fun cs =>
  let name := cs.takeWhile isNameChar
  if name.isEmpty then
    if cs.take 3 = "\"\"\"".toList ∨ (cs.take 3).map Char.toNat = [0x27, 0x27, 0x27] then none
    else string? cs
  else some (String.ofList name, cs.dropWhile isNameChar)

/-- names with dots between them; `fuel` bounds their count -/
def key? : (fuel : Nat) → Step Key
  | 0, _ => none
  | fuel + 1, cs => do
    let (name, rest) ← name? (skipLineBlanks cs)
    match skipLineBlanks rest with
    | '.' :: rest =>
      let (names, rest) ← key? fuel rest
      return (name :: names, rest)
    | rest => return ([name], rest)

/-- the rest of a text behind a comment, if one stands here -/
def skipComment : List Char → List Char
  | '#' :: cs => cs.dropWhile isTextChar
  | cs => cs

/-- a text without blanks, line ends and comments at its beginning; `fuel` bounds its lines -/
def skipLines : (fuel : Nat) → List Char → List Char
  | 0, cs => cs
  | fuel + 1, cs =>
    let rest := skipComment (skipLineBlanks cs)
    match lineEnd? rest with
    | some rest => skipLines fuel rest
    | none => rest

/-! ## tables under construction -/

/-- how a table came to be: by a longer header, by its own, or by a key with dots -/
inductive Origin where
  | implied
  | stated
  | dotted
  deriving DecidableEq, Repr

/-- what stands under a name: a value that is complete, a table, or the entries of an array, the
last first -/
inductive Node where
  | value (j : Json)
  | table (origin : Origin) (fields : List (String × Node))
  | entries (last : List (String × Node)) (before : List (List (String × Node)))

/-- the inside of a table -/
abbrev Fields := List (String × Node)

/-- fields with what stands under a name replaced, in its place -/
def replace (name : String) (node : Node) (fs : Fields) : Fields :=
  fs.map fun f => if f.1 = name then (name, node) else f

/-- fields with a pair more, whose name is new; keys with dots lead into tables that such keys
made -/
def insert? (value : Json) : Key → Fields → Option Fields
  | [], _ => none
  | [name], fs => if (fs.lookup name).isSome then none else some (fs ++ [(name, .value value)])
  | name :: next :: names, fs =>
    match fs.lookup name with
    | none => do
      let inner ← insert? value (next :: names) []
      return fs ++ [(name, .table .dotted inner)]
    | some (.table origin inner) =>
      if origin = .dotted ∨ (origin = .implied ∧ names ≠ []) then do
        let inner ← insert? value (next :: names) inner
        return replace name (.table origin inner) fs
      else none
    | some _ => none

mutual
/-- what stands under a name as a document -/
def Node.toJson : Node → Json
  | .value j => j
  | .table _ fs => .object (fieldsToJson fs)
  | .entries last before => .array (entriesToJson before [.object (fieldsToJson last)])

/-- fields as those of a document -/
def fieldsToJson : List (String × Node) → List (String × Json)
  | [] => []
  | (name, node) :: fs => (name, node.toJson) :: fieldsToJson fs

/-- entries, the last first, as documents in their order -/
def entriesToJson : List (List (String × Node)) → List Json → List Json
  | [], done => done
  | fs :: before, done => entriesToJson before (.object (fieldsToJson fs) :: done)
end

/-! ## values -/

mutual
/-- a value; `fuel` bounds its length -/
def value? : (fuel : Nat) → Step Json
  | 0, _ => none
  | fuel + 1, cs =>
    match cs with
    | '[' :: rest => do
      let (items, rest) ← items? fuel (skipLines rest.length rest)
      return (.array items, rest)
    | '\x7b' :: rest => do
      let (fields, rest) ← inline? fuel [] (skipLines rest.length rest)
      return (.object (fieldsToJson fields), rest)
    | c :: _ =>
      if c = '\"' ∨ c.toNat = 0x27 then do
        let (s, rest) ← string? cs
        return (.text s, rest)
      else bare? cs
    | [] => none

/-- the items of an array up to its bracket; a comma may stand before it -/
def items? : (fuel : Nat) → Step (List Json)
  | 0, _ => none
  | fuel + 1, cs =>
    match cs with
    | ']' :: rest => some ([], rest)
    | cs => do
      let (item, rest) ← value? fuel cs
      match skipLines rest.length rest with
      | ',' :: rest =>
        let (items, rest) ← items? fuel (skipLines rest.length rest)
        return (item :: items, rest)
      | ']' :: rest => return ([item], rest)
      | _ => none

/-- the pairs of a table in braces up to its brace; a comma may stand before it -/
def inline? : (fuel : Nat) → Fields → Step Fields
  | 0, _, _ => none
  | fuel + 1, fields, cs =>
    match cs with
    | '\x7d' :: rest => some (fields, rest)
    | cs => do
      let (key, rest) ← key? cs.length cs
      match rest with
      | '=' :: rest =>
        let (value, rest) ← value? fuel (skipLineBlanks rest)
        let fields ← insert? value key fields
        match skipLines rest.length rest with
        | ',' :: rest => inline? fuel fields (skipLines rest.length rest)
        | '\x7d' :: rest => return (fields, rest)
        | _ => none
      | _ => none
end

/-! ## statements -/

/-- one statement, which begins with no blank -/
def statement? : Step Statement := fun cs =>
  match cs with
  | '[' :: '[' :: rest => do
    let (key, rest) ← key? rest.length rest
    match rest with
    | ']' :: ']' :: rest => return (.entry key, rest)
    | _ => none
  | '[' :: rest => do
    let (key, rest) ← key? rest.length rest
    match rest with
    | ']' :: rest => return (.table key, rest)
    | _ => none
  | cs => do
    let (key, rest) ← key? cs.length cs
    match rest with
    | '=' :: rest =>
      let (value, rest) ← value? (rest.length + 1) (skipLineBlanks rest)
      return (.pair key value, rest)
    | _ => none

/-- the statements of a text, one a line; `fuel` bounds their count -/
def statementsWithin? : (fuel : Nat) → List Char → Option (List Statement)
  | 0, _ => none
  | fuel + 1, cs =>
    match skipLines cs.length cs with
    | [] => some []
    | cs => do
      let (statement, rest) ← statement? cs
      match skipComment (skipLineBlanks rest) with
      | [] => return [statement]
      | rest =>
        let rest ← lineEnd? rest
        let statements ← statementsWithin? fuel rest
        return statement :: statements

/-- the statements of a file -/
def statements? (cs : List Char) : Option (List Statement) :=
  statementsWithin? (cs.length + 1) cs

end ChatRelay.Toml
