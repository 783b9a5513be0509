import ChatRelay.HostName.Mapping

/-!
# Labels of host names

A label is what stands between two dots of a name.  It does not begin with a mark.  The two
characters that nobody sees but that change how their neighbours join stand only where they do:
behind a character that joins consonants, or, the one that keeps letters apart, between letters that
would join.  In a name with letters that are written to the left, every label has one direction, and
its ends show which.

* `isWellFormed`   what a label has to fulfil on its own;
* `isDirected`     what it has to fulfil in a name with letters written to the left.
-/

namespace ChatRelay.HostName

open Text

/-! ## a label on its own -/

/-- the place of the sign that joins consonants, among the marks of one character -/
def consonantJoiner : Nat := 9

/-- the character that keeps letters apart, and the one that joins them -/
def nonJoiner : Char := Char.ofNat 0x200C
def joiner : Char := Char.ofNat 0x200D

/-- whether the first character that is not passed over joins the side in question -/
def joins (side : Joining) : List Char → Bool
  | [] => false
  | c :: cs =>
    match (Trait.of c).joining with
    | .both => true
    | .passed => joins side cs
    | j => j = side

/-- whether an unseen character may stand between two stretches of a label, the first of which is
given from its end -/
def mayStandBetween (c : Char) (before after : List Char) : Bool :=
  match before with
  | [] => false
  | last :: _ =>
    (Trait.of last).place = consonantJoiner
      || (c = nonJoiner && joins .behind before && joins .before after)

/-- whether every unseen character of a label may stand where it does; `before` is what stands in
front of them, the last first -/
def joinersStand (before : List Char) : List Char → Bool
  | [] => true
  | c :: cs =>
    ((c ≠ nonJoiner && c ≠ joiner) || mayStandBetween c before cs) && joinersStand (c :: before) cs

/-- what a label has to fulfil on its own -/
def isWellFormed (label : List Char) : Bool :=
  match label with
  | [] => true
  | c :: _ => !(Trait.of c).isMark && joinersStand [] label

/-! ## a label among others -/

/-- the direction of a character -/
def direction (c : Char) : Direction := (Trait.of c).direction

/-- whether a character is written to the left -/
def isLeftward (c : Char) : Bool := [.leftward, .leftwardDigit].contains (direction c)

/-- a label without what is put on its last character -/
def trimMarks (label : List Char) : List Char :=
  (label.reverse.dropWhile (direction · = .inherited)).reverse

/-- whether the ends and the inside of a label agree on its direction; digits of the two kinds do
not stand in one label -/
def isDirected (label : List Char) : Bool :=
  match label with
  | [] => true
  | first :: _ =>
    let directions := label.map direction
    let last := ((trimMarks label).getLast?.getD first)
    match direction first with
    | .rightward =>
      !directions.contains .leftward && !directions.contains .leftwardDigit
        && [.rightward, .digit].contains (direction last)
    | .leftward =>
      !directions.contains .rightward
        && [.leftward, .digit, .leftwardDigit].contains (direction last)
        && !(directions.contains .digit && directions.contains .leftwardDigit)
    | _ => false

end ChatRelay.HostName
