import ChatRelay.Settings.Basic
import ChatRelay.Text.Blank
import ChatRelay.Text.Cut

/-!
# Placeholders

A settings file may name variables of the environment in double braces, each with a default for the
case that it has no text.  Lines that begin with a hash are left alone, and what a variable holds is
not looked at again.  Line ends of two characters become one.

* `Environment`   the variables that are set;
* `placeholder?`  the placeholder that a text begins with;
* `pieces`        a line as single characters and placeholders;
* `expand`        a text with its placeholders replaced, or the first that cannot be.
-/

namespace ChatRelay.Settings

/-- what a variable is set to: a text, or bytes that are none -/
inductive Variable where
  | text (s : String)
  | noText
  deriving DecidableEq, Repr

/-- the variables of the environment that are set -/
abbrev Environment := List (String × Variable)

/-- the text of a variable; one that is not set has none, and neither has one set to other bytes -/
def Environment.text? (env : Environment) (name : String) : Option String :=
  match env.lookup name with
  | some (.text s) => some s
  | some .noText | none => none

/-- what stands between double braces -/
structure Placeholder where
  key : List Char
  fallback : Option (List Char) := none
  deriving DecidableEq, Repr

/-- a character, or a placeholder in its place -/
inductive Piece where
  | plain (c : Char)
  | hole (p : Placeholder)
  deriving DecidableEq, Repr

/-! ## finding placeholders -/

/-- whether a character may stand in a key -/
def isKeyChar (c : Char) : Bool := c.isAlphanum || c = '_' || c = '.'

/-- a text without blanks at its beginning -/
def skipBlanks (cs : List Char) : List Char := cs.dropWhile Text.isBlank

/-- a default behind its bar, if there is one, and the rest -/
def fallback? (cs : List Char) : Option (Option (List Char) × List Char) :=
  match cs with
  | '|' :: rest => do
    let inside ← Text.afterStart? "default(\"".toList (skipBlanks rest)
    let (value, rest) ← Text.cutAt? '\"' inside
    let rest ← Text.afterStart? [')'] rest
    return (some value, rest)
  | cs => some (none, cs)

/-- the placeholder that a text begins with, and the rest -/
def placeholder? (cs : List Char) : Option (Placeholder × List Char) := do
  let inside ← Text.afterStart? "\x7b\x7b".toList cs
  let inside := skipBlanks inside
  let key := inside.takeWhile isKeyChar
  if key.isEmpty then none
  let (fallback, rest) ← fallback? (skipBlanks (inside.dropWhile isKeyChar))
  let rest ← Text.afterStart? "\x7d\x7d".toList (skipBlanks rest)
  return ({ key, fallback }, rest)

/-- a line as pieces; the first `inside` characters belong to a placeholder already found -/
def piecesFrom : (inside : Nat) → List Char → List Piece
  | _, [] => []
  | inside + 1, _ :: cs => piecesFrom inside cs
  | 0, c :: cs =>
    match placeholder? (c :: cs) with
    | some (p, rest) => .hole p :: piecesFrom (cs.length - rest.length) cs
    | none => .plain c :: piecesFrom 0 cs

/-- a line as single characters and placeholders -/
def pieces (cs : List Char) : List Piece := piecesFrom 0 cs

/-! ## replacing them -/

/-- the name of the variable that a key means -/
def variableName? (key : List Char) : Option String :=
  match Text.afterStart? "env.".toList key with
  | some name => if name.isEmpty || name.contains '.' then none else some (String.ofList name)
  | none => none

/-- what stands in a placeholder's place: the text of the variable if it has one, else the default;
without a default either way of having no text is told as not being set -/
def resolve (env : Environment) (p : Placeholder) : Except PlaceholderProblem (List Char) :=
  match variableName? p.key with
  | none => .error (.scope (String.ofList p.key))
  | some name =>
    match env.text? name, p.fallback with
    | some value, _ => .ok value.toList
    | none, some value => .ok value
    | none, none => .error (.unset name)

/-- pieces with every placeholder replaced; the first problem ends it -/
def fill (env : Environment) : List Piece → Except PlaceholderProblem (List Char)
  | [] => .ok []
  | .plain c :: ps => do return c :: (← fill env ps)
  | .hole p :: ps => do
    let value ← resolve env p
    return value ++ (← fill env ps)

/-- whether a line counts as a comment: its first character that is no blank is a hash -/
def isComment (cs : List Char) : Bool := (skipBlanks cs).head? = some '#'

/-- a line with its placeholders replaced -/
def expandLine (env : Environment) (cs : List Char) : Except PlaceholderProblem (List Char) :=
  if isComment cs then .ok cs else fill env (pieces cs)

/-- a line without the carriage return at its end -/
def dropReturn (cs : List Char) : List Char :=
  if cs.getLast? = some '\r' then cs.dropLast else cs

/-- lines with their placeholders replaced; behind the last there is no line end to shorten -/
def expandLines (env : Environment) :
    List (List Char) → Except PlaceholderProblem (List (List Char))
  | [] => .ok []
  | [last] => do return [← expandLine env last]
  | line :: lines => do
    let first ← expandLine env (dropReturn line)
    return first :: (← expandLines env lines)

/-- a text with its placeholders replaced, or the first that cannot be -/
def expand (env : Environment) (s : String) : Except PlaceholderProblem String := do
  let lines ← expandLines env (Text.split (· = '\n') s.toList)
  return String.ofList (Text.glue '\n' lines)

end ChatRelay.Settings
