/-!
# What comes from outside

Some answers need the time or an identifier that nobody has used yet.  Both are handed in, so that
everything built from them is a function.
-/

namespace ChatRelay

/-- the time in seconds since 1970, and the unused tokens that identifiers are made of -/
structure Ambient where
  now : UInt64
  token : Nat → String

/-- the `n`-th identifier with the given start -/
def Ambient.identifier (a : Ambient) (start : String) (n : Nat) : String := start ++ a.token n

end ChatRelay
