/-!
# Blank characters

`isBlank` is the Unicode property White_Space, as a table of its code points.  Trimming takes
blanks off both ends of a text and leaves the inside alone.
-/

namespace ChatRelay.Text

/-- the characters with the Unicode property White_Space -/
def isBlank (c : Char) : Bool :=
  let n := c.toNat
  (9 ≤ n && n ≤ 13) || n == 0x20 || n == 0x85 || n == 0xA0 || n == 0x1680
    || (0x2000 ≤ n && n ≤ 0x200A) || n == 0x2028 || n == 0x2029 || n == 0x202F || n == 0x205F
    || n == 0x3000

/-- the characters of a text without the blanks at its two ends -/
def trimChars (cs : List Char) : List Char :=
  ((cs.dropWhile isBlank).reverse.dropWhile isBlank).reverse

@[simp] theorem trimChars_nil : trimChars [] = [] := rfl

/-- a text without the blanks at its two ends -/
def trim (s : String) : String := String.ofList (trimChars s.toList)

/-- a text of blanks only, the empty text among them -/
def isBlankText (s : String) : Bool := s.toList.all isBlank

/-- a character that is not blank is not trimmed off -/
theorem mem_trimChars {c : Char} {cs : List Char} (hc : c ∈ cs) (hblank : isBlank c = false) :
    c ∈ trimChars cs := by
  have hkept {ds : List Char} (h : c ∈ ds) : c ∈ ds.dropWhile isBlank := by
    have hsplit : c ∈ ds.takeWhile isBlank ++ ds.dropWhile isBlank := by
      rwa [List.takeWhile_append_dropWhile]
    refine (List.mem_append.mp hsplit).resolve_left fun htake => ?_
    rw [List.all_eq_true.mp List.all_takeWhile c htake] at hblank
    exact nomatch hblank
  exact List.mem_reverse.mpr (hkept (List.mem_reverse.mpr (hkept hc)))

end ChatRelay.Text
