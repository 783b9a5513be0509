/-!
# Token counts

Counts are words of 32 bits.  A sum that does not fit stays at the greatest count and a difference
below zero at none, so no report of usage ever wraps.

* `plus`, `minus`    the saturating operations;
* `toNat_plus`, `toNat_minus`, `toNat_max`, `toNat_min`   the same on natural numbers.
-/

namespace ChatRelay

/-- a number of tokens -/
abbrev TokenCount := UInt32

namespace TokenCount

/-- the greatest count -/
def top : TokenCount := 4294967295

/-- the sum, at most the greatest count -/
def plus (a b : TokenCount) : TokenCount :=
  if a.toNat + b.toNat ≤ top.toNat then a + b else top

/-- the difference, at least none -/
def minus (a b : TokenCount) : TokenCount := if b ≤ a then a - b else 0

theorem toNat_top : top.toNat = 4294967295 := rfl

theorem toNat_plus (a b : TokenCount) :
    (plus a b).toNat = min (a.toNat + b.toNat) 4294967295 := by
  unfold plus
  rw [toNat_top]
  split
  · next h => rw [UInt32.toNat_add, Nat.mod_eq_of_lt (by omega)]; omega
  · next h => rw [toNat_top]; omega

theorem toNat_minus (a b : TokenCount) : (minus a b).toNat = a.toNat - b.toNat := by
  unfold minus
  split
  · next h => exact UInt32.toNat_sub_of_le a b h
  · next h =>
    have := UInt32.not_le.mp h
    rw [UInt32.lt_iff_toNat_lt] at this
    simp only [UInt32.toNat_zero]
    omega

theorem toNat_max (a b : TokenCount) : (max a b).toNat = max a.toNat b.toNat := by
  show (if a ≤ b then b else a).toNat = _
  split
  · next h => rw [UInt32.le_iff_toNat_le] at h; omega
  · next h => rw [UInt32.le_iff_toNat_le] at h; omega

theorem toNat_min (a b : TokenCount) : (min a b).toNat = min a.toNat b.toNat := by
  show (if a ≤ b then a else b).toNat = _
  split
  · next h => rw [UInt32.le_iff_toNat_le] at h; omega
  · next h => rw [UInt32.le_iff_toNat_le] at h; omega

theorem max_min (a b cap : TokenCount) : max (min a cap) (min b cap) = min (max a b) cap := by
  refine UInt32.toNat_inj.mp ?_
  rw [toNat_max, toNat_min, toNat_min, toNat_min, toNat_max]
  omega

end TokenCount
end ChatRelay
