import ChatRelay.Text.CompositeTable
import ChatRelay.Text.Trait

/-!
# Composition

A letter with marks has many spellings: one character, a shorter one with marks, the marks in one
order or another.  The composed spelling takes every character apart, puts the marks on it into
their order, and then composes whatever can be composed.

* `order`    the marks in their order, which loses no character and adds none (`order_perm`);
* `compose`  the composed spelling of a text.
-/

namespace ChatRelay.Text

/-! ## pairs -/

/-- the characters that are made of two others, with these -/
def composites : List (Char × Char × Char) :=
  (Runs.ofTable (fun cs => spelledChars (cs.drop 1)) compositeTable).filterMap fun (n, parts) =>
    match parts with
    | [a, b] => some (Char.ofNat n, a, b)
    | _ => none

/-- the first syllable of Hangul, and the letters that syllables begin with, go on with and end
with; before the first of the last stands the lack of one -/
def syllable : Nat := 0xAC00
def initialLetter : Nat := 0x1100
def middleLetter : Nat := 0x1161
def finalLetter : Nat := 0x11A7

/-- the two parts of a syllable of Hangul: an open syllable with a final letter, or two letters -/
def syllableParts? (n : Nat) : Option (Nat × Nat) :=
  if n < syllable ∨ syllable + 19 * 21 * 28 ≤ n then none
  else
    let i := n - syllable
    if i % 28 = 0 then some (initialLetter + i / 588, middleLetter + i % 588 / 28)
    else some (n - i % 28, finalLetter + i % 28)

/-- the syllable of Hangul that two parts make -/
def syllableOf? (a b : Nat) : Option Nat :=
  if initialLetter ≤ a ∧ a < initialLetter + 19 ∧ middleLetter ≤ b ∧ b < middleLetter + 21 then
    some (syllable + ((a - initialLetter) * 21 + (b - middleLetter)) * 28)
  else if syllable ≤ a ∧ a < syllable + 19 * 21 * 28 ∧ (a - syllable) % 28 = 0
      ∧ finalLetter < b ∧ b < finalLetter + 28 then
    some (a + (b - finalLetter))
  else none

/-- the two parts of a character that is made of them -/
def parts? (c : Char) : Option (Char × Char) :=
  match syllableParts? c.toNat with
  | some (a, b) => some (Char.ofNat a, Char.ofNat b)
  | none => composites.lookup c

/-- the character that two others make -/
def whole? (a b : Char) : Option Char :=
  match syllableOf? a.toNat b.toNat with
  | some n => some (Char.ofNat n)
  | none => (composites.find? fun w => w.2 = (a, b)).map (·.1)

/-! ## the composed spelling -/

/-- a character taken apart; `depth` bounds how often -/
def apart : (depth : Nat) → Char → List Char
  | 0, c => [c]
  | depth + 1, c =>
    match parts? c with
    | some (a, b) => apart depth a ++ [b]
    | none => [c]

/-- a character put in front of a text whose marks are in order, behind the marks that go before -/
def insertMark (c : Char) : List Char → List Char
  | [] => [c]
  | d :: ds =>
    if (Trait.of d).place ≠ 0 ∧ (Trait.of d).place < (Trait.of c).place then d :: insertMark c ds
    else c :: d :: ds

/-- a text with the marks on every character in their order -/
def order (cs : List Char) : List Char := cs.foldr insertMark []

theorem insertMark_perm (c : Char) (ds : List Char) : (insertMark c ds).Perm (c :: ds) := by
  induction ds with
  | nil => exact .refl _
  | cons d ds ih =>
    rw [insertMark]
    split
    · exact (ih.cons d).trans (.swap c d ds)
    · exact .refl _

theorem order_perm (cs : List Char) : (order cs).Perm cs := by
  induction cs with
  | nil => exact .refl _
  | cons c cs ih => exact (insertMark_perm c _).trans (ih.cons c)

/-- where composing stands: what is done, the last first, the character that marks may still join,
and the marks that stay beside it, the last first -/
structure Joint where
  done : List Char := []
  base : Option Char := none
  marks : List Char := []

/-- what is done when nothing joins any more -/
def Joint.close (j : Joint) : List Char := j.marks ++ j.base.toList ++ j.done

/-- the next character: it joins the base unless a mark between them keeps it away -/
def Joint.step (j : Joint) (c : Char) : Joint :=
  let place := (Trait.of c).place
  let isFree := match j.marks with
    | [] => true
    | mark :: _ => (Trait.of mark).place < place
  match if isFree then j.base.bind (whole? · c) else none with
  | some w => { j with base := some w }
  | none =>
    if place = 0 then { done := j.close, base := some c }
    else { j with marks := c :: j.marks }

/-- the composed spelling of a text; within ASCII there is no other -/
def compose (cs : List Char) : List Char :=
  if cs.all isAscii then cs
  else ((order (cs.flatMap (apart 3))).foldl Joint.step {}).close.reverse

theorem compose_of_ascii {cs : List Char} (h : cs.all isAscii = true) : compose cs = cs := by
  rw [compose, if_pos h]

end ChatRelay.Text
