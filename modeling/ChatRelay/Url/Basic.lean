import ChatRelay.Url.Host

/-!
# Addresses

An absolute address by the rules that browsers use: blanks around it go, tabs and line ends inside
it go, the scheme and the host are brought to one spelling, the port number that a scheme has anyway
is left out, dots in the path are followed, and what may not stand in a part is percent-encoded.

* `Url.parse`   the address of a text, or why it is none;
* `Url.render`  the text of an address.
-/

namespace ChatRelay

/-- where an address leads on its host: parts between slashes, or a text of its own kind -/
inductive UrlPath where
  | plain (text : List Char)
  | parts (parts : List (List Char))
  deriving DecidableEq, Repr

/-- an absolute address -/
structure Url where
  scheme : List Char
  username : List Char := []
  password : List Char := []
  host : Option (List Char) := none
  port : Option Nat := none
  path : UrlPath
  query : Option (List Char) := none
  fragment : Option (List Char) := none
  deriving DecidableEq, Repr

namespace Url

/-! ## schemes -/

/-- the port numbers of the schemes whose hosts are names -/
def standardPorts : List (String × Nat) :=
  [("http", 80), ("https", 443), ("ws", 80), ("wss", 443), ("ftp", 21)]

/-- the port number that a scheme has unless another is given -/
def standardPort? (scheme : List Char) : Option Nat := standardPorts.lookup (String.ofList scheme)

/-- whether a scheme is that of files -/
def isFile (scheme : List Char) : Bool := scheme = "file".toList

/-- whether addresses of a scheme always have a host, be it empty, and a path -/
def isSpecial (scheme : List Char) : Bool := isFile scheme || (standardPort? scheme).isSome

/-- whether a character may stand in a scheme -/
def isSchemeChar (c : Char) : Bool := c.isAlphanum || "+-.".contains c

/-- the scheme of an address, in lower case, and what follows its colon -/
def scheme? (cs : List Char) : Option (List Char × List Char) :=
  match Text.cutAt? ':' cs with
  | some (c :: scheme, rest) =>
    if c.isAlpha && scheme.all isSchemeChar then some ((c :: scheme).map Char.toLower, rest)
    else none
  | _ => none

/-! ## host and port number -/

/-- the two sides of the last at-sign; the first is none where there is no sign -/
def cutAtSign (cs : List Char) : Option (List Char) × List Char :=
  match Text.cutAt? '@' cs.reverse with
  | some (after, before) => (some before.reverse, after.reverse)
  | none => (none, cs)

/-- name and password before a host -/
def userOf (cs : List Char) : List Char × List Char :=
  match Text.cutAt? ':' cs with
  | some (name, password) => (encode inUserinfo name, encode inUserinfo password)
  | none => (encode inUserinfo cs, [])

/-- the host and what follows the colon behind it; colons in brackets do not count -/
def cutAtPort : (inside : Bool) → List Char → List Char × Option (List Char)
  | _, [] => ([], none)
  | inside, c :: cs =>
    if c = ':' ∧ inside = false then ([], some cs)
    else
      let (host, port) := cutAtPort (if c = '[' then true else if c = ']' then false else inside) cs
      (c :: host, port)

/-- a port number, none where there is no digit, and the path that may follow it at once -/
def portOf (cs : List Char) : Except Problem (Option Nat × List Char) :=
  let digits := cs.takeWhile Char.isDigit
  let rest := cs.dropWhile Char.isDigit
  if rest.isEmpty || rest.head? = some '\\' then
    if digits.isEmpty then .ok (none, rest)
    else
      match (digits? 10 digits).filter (· < 65536) with
      | some n => .ok (some n, rest)
      | none => .error .port
  else .error .port

/-- user, host and port number, and what of the path stands in their place -/
structure Authority where
  username : List Char := []
  password : List Char := []
  host : List Char
  port : Option Nat
  rest : List Char
  deriving DecidableEq, Repr

/-- the part of an address between the two slashes and the path; `last` says that nothing follows
it.  Only a scheme of its own kind may do without a host, and then without user and port. -/
def authority (scheme : List Char) (last : Bool) (cs : List Char) : Except Problem Authority := do
  let (user, site) := cutAtSign cs
  let (username, password) := (user.map userOf).getD ([], [])
  let (hostText, portText) := cutAtPort false site
  if hostText.isEmpty && (isSpecial scheme || portText.isSome || !username.isEmpty
      || !password.isEmpty || (user = some [] && !last)) then
    throw .emptyHost
  let host ← if isSpecial scheme then special? hostText else plain? hostText
  let (port, rest) ← portOf (portText.getD [])
  return { username, password, host, port := port.filter (some · ≠ standardPort? scheme), rest }

/-! ## path -/

/-- whether a part of a path stays where it is -/
def isDot (cs : List Char) : Bool := [".".toList, "%2e".toList].contains (cs.map Char.toLower)

/-- whether a part of a path leads one up -/
def isDotDot (cs : List Char) : Bool :=
  ["..".toList, ".%2e".toList, "%2e.".toList, "%2e%2e".toList].contains (cs.map Char.toLower)

/-- the drive that a part of a path names: a letter and a colon or a bar -/
def drive? : List Char → Option (List Char)
  | [c, mark] => if c.isAlpha && ":|".contains mark then some [c, ':'] else none
  | _ => none

/-- the parts before the last one; nothing leads up from a drive -/
def shorten : (done : List (List Char)) → List (List Char)
  | [] => []
  | part :: done => if (drive? part).isSome then part :: done else done

/-- the parts of a path with its dots followed; `done` holds the parts so far, the last first, and
only the first part of a file's path is spelled as a drive -/
def followDots (file : Bool) (done : List (List Char)) : List (List Char) → List (List Char)
  | [] => done.reverse
  | part :: parts =>
    if isDotDot part then
      let shorter := shorten done
      followDots file (if parts.isEmpty then [] :: shorter else shorter) parts
    else if isDot part then followDots file (if parts.isEmpty then [] :: done else done) parts
    else
      let drive := if file && done.isEmpty then drive? part else none
      followDots file (drive.getD (encode inPath part) :: done) parts

/-- whether a character ends a part of a path -/
def isSlash (special : Bool) (c : Char) : Bool := c = '/' || (special && c = '\\')

/-- a text without a slash at its beginning -/
def dropSlash (special : Bool) : List Char → List Char
  | c :: cs => if isSlash special c then cs else c :: cs
  | [] => []

/-- the parts of a path, a slash before the first or not -/
def pathParts (special : Bool) (cs : List Char) : List (List Char) :=
  followDots false [] (Text.split (isSlash special) (dropSlash special cs))

/-! ## files -/

/-- the host that a file's address names, and the text of its path.  A drive stands in no host's
place; the own machine is not named, and the path of an address without a host keeps its slash. -/
def fileSite (cs : List Char) : Except Problem (Option (List Char) × List Char) := do
  if (cs.takeWhile (isSlash true)).length < 2 then return (none, dropSlash true cs)
  let site := (cs.drop 2).takeWhile (!isSlash true ·)
  let path := (cs.drop 2).dropWhile (!isSlash true ·)
  if (drive? site).isSome then return (none, cs.drop 2)
  if site.isEmpty then return (none, path)
  let host ← special? site
  if host = "localhost".toList then return (none, path)
  return (some host, dropSlash true path)

/-- the address of a file: beside a drive no host is named, and empty parts at the front of the path
go -/
def fileLocation (cs : List Char) : Except Problem Url := do
  let (host, path) ← fileSite cs
  let parts := followDots true [] (Text.split (isSlash true) path)
  let hasDrive := (parts.head?.bind drive?).isSome
  let named := parts.dropWhile List.isEmpty
  return {
    scheme := "file".toList
    host := some (if hasDrive then [] else host.getD [])
    path := .parts (if named.isEmpty then [[]] else named) }

/-! ## addresses -/

/-- what stands before the query and the fragment, and these two -/
def cutAtQuery (cs : List Char) : List Char × Option (List Char) × Option (List Char) :=
  let (front, fragment) := match Text.cutAt? '#' cs with
    | some (front, fragment) => (front, some fragment)
    | none => (cs, none)
  match Text.cutAt? '?' front with
  | some (path, query) => (path, some query, fragment)
  | none => (front, none, fragment)

/-- host and path, from what stands between the scheme and the query; `last` says that there is
neither query nor fragment -/
def location (scheme : List Char) (last : Bool) (cs : List Char) : Except Problem Url := do
  if isFile scheme then return ← fileLocation cs
  let special := isSpecial scheme
  let afterSlashes :=
    if special then some (cs.dropWhile (isSlash true)) else Text.afterStart? "//".toList cs
  match afterSlashes with
  | some site =>
    let siteText := site.takeWhile (!isSlash special ·)
    let path := site.dropWhile (!isSlash special ·)
    let a ← authority scheme (last && path.isEmpty) siteText
    let path := a.rest ++ path
    return {
      scheme
      username := a.username
      password := a.password
      host := some a.host
      port := a.port
      path := .parts (if path.isEmpty && !special then [] else pathParts special path) }
  | none =>
    if cs.head? = some '/' then return { scheme, path := .parts (pathParts false cs) }
    else return { scheme, path := .plain (encode inControls cs) }

/-- whether a character goes at the two ends of an address -/
def isOuterBlank (c : Char) : Bool := c.toNat ≤ 0x20

/-- a text without what goes around and inside an address -/
def strip (cs : List Char) : List Char :=
  (((cs.dropWhile isOuterBlank).reverse.dropWhile isOuterBlank).reverse).filter
    (!"\t\n\r".contains ·)

/-- the address of characters -/
def parseChars (cs : List Char) : Except Problem Url := do
  match scheme? (strip cs) with
  | none => throw .noScheme
  | some (scheme, rest) =>
    let (front, query, fragment) := cutAtQuery rest
    let u ← location scheme (query.isNone && fragment.isNone) front
    return { u with
      query := query.map (encode (inQuery (isSpecial scheme)))
      fragment := fragment.map (encode inFragment) }

/-- the address of a text -/
def parse (s : String) : Except Problem Url := parseChars s.toList

/-- a path as it is written -/
def pathChars : UrlPath → List Char
  | .plain text => text
  | .parts [] => []
  | .parts ps => '/' :: Text.glue '/' ps

/-- what keeps a path that begins with two slashes from being taken for a host -/
def pathGuard (u : Url) : List Char :=
  match u.host, u.path with
  | none, .parts ([] :: _ :: _) => "/.".toList
  | _, _ => []

/-- name and password as they are written before a host -/
def userChars (u : Url) : List Char :=
  if u.username.isEmpty && u.password.isEmpty then []
  else u.username ++ (if u.password.isEmpty then [] else ':' :: u.password) ++ ['@']

/-- the host and what belongs to it as they are written -/
def hostChars (u : Url) : List Char :=
  match u.host with
  | none => []
  | some host =>
    "//".toList ++ u.userChars ++ host
      ++ (match u.port with
          | some n => ':' :: Nat.toDigits 10 n
          | none => [])

/-- a part that is there, behind its mark -/
def marked (mark : Char) : Option (List Char) → List Char
  | some cs => mark :: cs
  | none => []

/-- the characters of an address -/
def chars (u : Url) : List Char :=
  u.scheme ++ ':' :: u.hostChars ++ u.pathGuard ++ pathChars u.path ++ marked '?' u.query
    ++ marked '#' u.fragment

/-- the text of an address -/
def render (u : Url) : String := String.ofList u.chars

end Url
end ChatRelay
