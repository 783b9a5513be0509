import ChatRelay.Text.Utf8

/-!
# Percent encoding

A character outside ASCII, a control character or a member of the set at hand is written as its
bytes, each as a percent sign and two digits in upper case.

* `encode`      a text with the characters of a set encoded;
* `decode`      the bytes that a text stands for;
* `inFragment`, `inPath`, `inQuery`, `inUserinfo`  the sets.
-/

namespace ChatRelay.Url

/-- the digit of a value below 16 -/
def percentDigit (n : Nat) : Char := Char.ofNat (if n < 10 then n + 48 else n + 55)

/-- a byte encoded -/
def percentByte (b : UInt8) : List Char :=
  ['%', percentDigit (b.toNat / 16), percentDigit (b.toNat % 16)]

/-- control characters and everything outside ASCII, which are always encoded -/
def inControls (c : Char) : Bool := c.toNat < 0x20 || 0x7F ≤ c.toNat

/-- the characters encoded in a fragment -/
def inFragment (c : Char) : Bool := inControls c || " \"<>`".contains c

/-- the characters encoded in a path -/
def inPath (c : Char) : Bool := inFragment c || "#?\x7b\x7d".contains c

/-- the characters encoded before the host -/
def inUserinfo (c : Char) : Bool := inPath c || "/:;=@[\\]^|".contains c

/-- the characters encoded in a query; a quote only where the scheme is special -/
def inQuery (special : Bool) (c : Char) : Bool :=
  inControls c || " \"#<>".contains c || (special && c.toNat = 0x27)

/-- a text with the characters of a set encoded -/
def encode (set : Char → Bool) (cs : List Char) : List Char :=
  cs.flatMap fun c => if set c then (String.utf8EncodeChar c).flatMap percentByte else [c]

/-- the value of a hexadecimal digit -/
def hexValue? (c : Char) : Option Nat :=
  if '0' ≤ c ∧ c ≤ '9' then some (c.toNat - 48)
  else if 'a' ≤ c ∧ c ≤ 'f' then some (c.toNat - 87)
  else if 'A' ≤ c ∧ c ≤ 'F' then some (c.toNat - 55)
  else none

/-- the bytes that a text stands for; a percent sign without two digits is itself -/
def decode : List Char → List UInt8
  | [] => []
  | '%' :: a :: b :: cs =>
    match hexValue? a, hexValue? b with
    | some x, some y => UInt8.ofNat (16 * x + y) :: decode cs
    | _, _ => 0x25 :: decode (a :: b :: cs)
  | c :: cs => String.utf8EncodeChar c ++ decode cs

theorem encode_of_forall {set : Char → Bool} {cs : List Char} (h : ∀ c ∈ cs, set c = false) :
    encode set cs = cs := by
  induction cs with
  | nil => rfl
  | cons c cs ih =>
    have hc := h c (by simp)
    have := ih fun x hx => h x (by simp [hx])
    simp only [encode] at this ⊢
    simp [hc, this]

end ChatRelay.Url
