import ChatRelay.Http
import ChatRelay.Url.Basic

/-!
# Channels

A channel is one way to reach a backend: a base address and a key of its own.

* `Channel.endpoint`  the address of a path below the base.
-/

namespace ChatRelay

/-- a base address and the key for it -/
structure Channel where
  name : String
  baseUrl : Url
  apiKey : Option String := none
  deriving DecidableEq, Repr

namespace Channel

/-- the text of a path below the base: one slash stands between them -/
def endpointChars (c : Channel) (path : List Char) : List Char :=
  (c.baseUrl.chars.reverse.dropWhile (· = '/')).reverse ++ '/' :: path.dropWhile (· = '/')

/-- the address of a path below the base -/
def endpoint (c : Channel) (path : String) : Except Fault Url :=
  match Url.parseChars (c.endpointChars path.toList) with
  | .ok u => .ok u
  | .error p => .error (.transform (.endpoint c.name p.message))

end Channel
end ChatRelay
