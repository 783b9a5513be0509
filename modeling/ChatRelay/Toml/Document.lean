import ChatRelay.Toml.Reader

/-!
# Documents of settings files

The statements of a file are carried out one after the other on the table of the whole file.  A
table is stated once, a name is given once, and an array of entries grows at its end.

* `Toml.read?`  the document of a text.
-/

namespace ChatRelay.Toml

/-- changes the table under a key, whose tables are made where they are missing; entries of an array
are changed in the last one -/
def within? (change : Fields → Option Fields) : Key → Fields → Option Fields
  | [], fs => change fs
  | name :: names, fs =>
    match fs.lookup name with
    | none => do
      let inner ← within? change names []
      return fs ++ [(name, .table .implied inner)]
    | some (.table origin inner) => do
      let inner ← within? change names inner
      return replace name (.table origin inner) fs
    | some (.entries last before) => do
      let last ← within? change names last
      return replace name (.entries last before) fs
    | some (.value _) => none

/-- states a table, which may have been implied before; it then moves to the end -/
def stateTable? (name : String) (fs : Fields) : Option Fields :=
  match fs.lookup name with
  | none => some (fs ++ [(name, .table .stated [])])
  | some (.table .implied inner) =>
    some (fs.filter (·.1 ≠ name) ++ [(name, .table .stated inner)])
  | some _ => none

/-- starts an entry of an array -/
def openRow? (name : String) (fs : Fields) : Option Fields :=
  match fs.lookup name with
  | none => some (fs ++ [(name, .entries [] [])])
  | some (.entries last before) => some (replace name (.entries [] (last :: before)) fs)
  | some _ => none

/-- the last name of a key and those before it -/
def cutLast? (key : Key) : Option (Key × String) := key.getLast?.map (key.dropLast, ·)

/-- the table of a file so far, and the key of the table that pairs go into -/
structure Progress where
  fields : Fields := []
  current : Key := []

/-- one statement carried out -/
def Progress.step? (p : Progress) : Statement → Option Progress
  | .table key => do
    let (path, name) ← cutLast? key
    return { fields := ← within? (stateTable? name) path p.fields, current := key }
  | .entry key => do
    let (path, name) ← cutLast? key
    return { fields := ← within? (openRow? name) path p.fields, current := key }
  | .pair key value => do
    return { p with fields := ← within? (insert? value key) p.current p.fields }

/-- statements carried out in order -/
def Progress.run? : List Statement → Progress → Option Progress
  | [], p => some p
  | s :: ss, p => (p.step? s).bind (run? ss)

/-- a text without the mark that may begin it -/
def dropMark : List Char → List Char
  | '\uFEFF' :: cs => cs
  | cs => cs

/-- the document of a text, none where it is no settings file -/
def read? (s : String) : Option Json := do
  let statements ← statements? (dropMark s.toList)
  let p ← Progress.run? statements {}
  return .object (fieldsToJson p.fields)

end ChatRelay.Toml
