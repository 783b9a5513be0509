import ChatRelay.Proofs.Url.Spelling

/-!
# What hosts look like

A host that was read is eight pieces in brackets, four numbers or a name.  None of its characters
ends what stands in front of a path, and only pieces have colons in them.

* `SiteChar`, `NameChar`   the characters in front of a path, and in names and numbers;
* `digits?_toDigits`       the digits of a number have its value;
* `HostForm`               what a host that was read is;
* `hostForm_of_special`    it is nothing else;
* `HostText`               what its text looks like.
-/

namespace ChatRelay.Url

variable {c : Char} {cs host : List Char} {n : Nat}

/-! ## characters -/

/-- a character that may stand in front of the path -/
def SiteChar (c : Char) : Prop := 0x20 < c.toNat ∧ c ∉ ['/', '\\', '?', '#']

/-- a character that may stand in a name or a number -/
def NameChar (c : Char) : Prop :=
  0x20 < c.toNat ∧ c ∉ ['/', '\\', '?', '#', '@', ':', '[', ']']

instance (c : Char) : Decidable (SiteChar c) := inferInstanceAs (Decidable (_ ∧ _))

instance (c : Char) : Decidable (NameChar c) := inferInstanceAs (Decidable (_ ∧ _))

theorem NameChar.ne {x : Char} (h : NameChar c) (hx : ¬ NameChar x) : c ≠ x :=
  fun hc => hx (hc ▸ h)

theorem NameChar.siteChar (h : NameChar c) : SiteChar c :=
  ⟨h.1, fun hc => h.2 (List.mem_append_left ['@', ':', '[', ']'] hc)⟩

theorem SiteChar.ne {x : Char} (h : SiteChar c) (hx : ¬ SiteChar x) : c ≠ x :=
  fun hc => hx (hc ▸ h)

theorem SiteChar.isSlash (h : SiteChar c) : isSlash true c = false := by
  have hslash : c ≠ '/' := h.ne (by decide)
  have hback : c ≠ '\\' := h.ne (by decide)
  rw [Url.isSlash, decide_eq_false hslash, decide_eq_false hback]
  rfl

theorem nameChar_of_isForbiddenInName (h : isForbiddenInName c = false) : NameChar c := by
  simp only [isForbiddenInName, isForbidden, Bool.or_eq_false_iff, decide_eq_false_iff_not,
    String.contains_char_eq] at h
  obtain ⟨⟨⟨hcontrol, -, hmarks⟩, -⟩, -⟩ := h
  have hlist : ∀ x ∈ [' ', '/', '\\', '?', '#', '@', ':', '[', ']'],
      x ∈ "\t\n\r #/:<>?@[\\]^|".toList := by simp
  have hblank : c.toNat ≠ 0x20 := fun hc =>
    hmarks (hlist c (Char.toNat_inj.mp (show c.toNat = ' '.toNat from hc) ▸ List.mem_cons_self))
  exact ⟨by omega, fun hc => hmarks (hlist c (List.mem_cons_of_mem ' ' hc))⟩

/-! ## digits -/

theorem exists_digitChar_of_mem_toDigits {base : Nat} (hbase : 1 < base)
    (h : c ∈ Nat.toDigits base n) : ∃ k < base, c = Nat.digitChar k := by
  induction n using Nat.strongRecOn with
  | ind n ih =>
    rw [Nat.toDigits_eq_if hbase] at h
    split at h
    · next hn => exact ⟨n, hn, List.mem_singleton.mp h⟩
    · next hn =>
      rcases List.mem_append.mp h with h | h
      · exact ih (n / base) (Nat.div_lt_self (by omega) hbase) h
      · exact ⟨n % base, Nat.mod_lt n (by omega), List.mem_singleton.mp h⟩

theorem nameChar_of_mem_toDigits {base : Nat} (hbase : 1 < base) (hmax : base ≤ 16)
    (h : c ∈ Nat.toDigits base n) : NameChar c := by
  obtain ⟨k, hk, rfl⟩ := exists_digitChar_of_mem_toDigits hbase h
  have hdigit : ∀ k < 16, NameChar (Nat.digitChar k) := by decide
  exact hdigit k (by omega)

theorem digits?_append_singleton (base : Nat) (cs : List Char) (c : Char) :
    digits? base (cs ++ [c]) = (digits? base cs).bind fun n =>
      (hexValue? c).bind fun d => if d < base then some (base * n + d) else none := by
  rw [digits?, List.foldl_append]
  rfl

/-- the digits of a number have its value -/
theorem digits?_toDigits {base : Nat} (hbase : 1 < base) (hmax : base ≤ 16) (n : Nat) :
    digits? base (Nat.toDigits base n) = some n := by
  have hdigit : ∀ k < 16, hexValue? (Nat.digitChar k) = some k := by decide
  induction n using Nat.strongRecOn with
  | ind n ih =>
    rw [Nat.toDigits_eq_if hbase]
    split
    · next hn =>
      show digits? base ([] ++ [Nat.digitChar n]) = _
      rw [digits?_append_singleton, hdigit n (by omega)]
      show (if n < base then some (base * 0 + n) else none) = _
      rw [if_pos hn, Nat.mul_zero, Nat.zero_add]
    · next hn =>
      have hlast : n % base < base := Nat.mod_lt n (by omega)
      have hless : n / base < n := Nat.div_lt_self (by omega) hbase
      rw [digits?_append_singleton, ih (n / base) hless, hdigit _ (by omega)]
      show (if n % base < base then some (base * (n / base) + n % base) else none) = _
      rw [if_pos hlast, Nat.div_add_mod]

/-- a number is below the power of the base for its digits -/
theorem lt_of_digits? {base : Nat} (h : digits? base cs = some n) : n < base ^ cs.length := by
  induction cs using List.reverseRecOn generalizing n with
  | nil =>
    obtain rfl : 0 = n := Option.some.inj h
    exact Nat.one_pos
  | append_singleton cs c ih =>
    rw [digits?_append_singleton] at h
    obtain ⟨m, hm, h⟩ := Option.bind_eq_some_iff.mp h
    obtain ⟨d, -, h⟩ := Option.bind_eq_some_iff.mp h
    split at h
    · next hd =>
      obtain rfl := Option.some.inj h
      have hfront : base * (m + 1) ≤ base * base ^ cs.length := Nat.mul_le_mul_left base (ih hm)
      rw [List.length_append, List.length_singleton, Nat.pow_succ', Nat.mul_add] at *
      omega
    · cases h

/-! ## the numbers of hosts -/

theorem lt_of_addressOf? {ns : List Nat} {left : Nat} (h : addressOf? ns left = some n) :
    n < 256 ^ left := by
  induction ns generalizing left n with
  | nil => cases h
  | cons m ns ih =>
    cases ns with
    | nil =>
      rw [addressOf?] at h
      split at h
      · next hlt =>
        obtain rfl := Option.some.inj h
        exact hlt
      · cases h
    | cons next ns =>
      rw [addressOf?] at h
      · split at h
        · next hm =>
          obtain ⟨r, hr, rfl⟩ := Option.map_eq_some_iff.mp h
          have hlt : r < 256 ^ (left - 1) := ih hr
          have hpow : 256 ^ left = 256 * 256 ^ (left - 1) := by
            rw [← Nat.pow_succ', Nat.succ_eq_add_one, Nat.sub_add_cancel (by omega)]
          have hle : (m + 1) * 256 ^ (left - 1) ≤ 256 * 256 ^ (left - 1) :=
            Nat.mul_le_mul_right _ hm.1
          rw [Nat.add_mul, Nat.one_mul] at hle
          show m * 256 ^ (left - 1) + r < _
          omega
        · cases h
      · exact List.cons_ne_nil next ns

theorem lt_of_piece? (h : piece? cs = some n) : n < 65536 := by
  rw [piece?] at h
  split at h
  · cases h
  · next hlength =>
    have hpow : 16 ^ cs.length ≤ 16 ^ 4 := Nat.pow_le_pow_right (by decide) (by omega)
    exact Nat.lt_of_lt_of_le (lt_of_digits? h) hpow

theorem lt_of_byte? (h : byte? cs = some n) : n < 256 := by
  rw [byte?] at h
  split at h
  · cases h
  · exact of_decide_eq_true (Option.filter_eq_some_iff.mp h).2

theorem lt_of_lastPieces? {ps : List Nat} (h : lastPieces? cs = some ps) : ∀ p ∈ ps, p < 65536 := by
  rw [lastPieces?] at h
  split at h
  · next a b x y hmap =>
    obtain rfl := Option.some.inj h
    have hbyte (m : Nat) (hm : some m ∈ [some a, some b, some x, some y]) : m < 256 := by
      rw [← hmap] at hm
      obtain ⟨part, -, hpart⟩ := List.mem_map.mp hm
      exact lt_of_byte? hpart
    have ha := hbyte a (by simp)
    have hb := hbyte b (by simp)
    have hx := hbyte x (by simp)
    have hy := hbyte y (by simp)
    intro p hp
    simp only [List.mem_cons, List.not_mem_nil, or_false] at hp
    omega
  · cases h

theorem lt_of_pieces? {parts : List (List Char)} {ps : List Nat} (h : pieces? parts = some ps) :
    ∀ p ∈ ps, p < 65536 := by
  induction parts generalizing ps with
  | nil =>
    obtain rfl := Option.some.inj h
    exact List.forall_mem_nil _
  | cons part parts ih =>
    cases parts with
    | nil =>
      rw [pieces?] at h
      split at h
      · exact lt_of_lastPieces? h
      · obtain ⟨p, hp, rfl⟩ := Option.map_eq_some_iff.mp h
        exact List.forall_mem_singleton.mpr (lt_of_piece? hp)
    | cons next parts =>
      rw [pieces?] at h
      · obtain ⟨p, hp, h⟩ := Option.bind_eq_some_iff.mp h
        obtain ⟨more, hmore, h⟩ := Option.bind_eq_some_iff.mp h
        obtain rfl := Option.some.inj h
        exact List.forall_mem_cons.mpr ⟨lt_of_piece? hp, ih hmore⟩
      · exact List.cons_ne_nil next parts

theorem lt_of_piecesOf? {ps : List Nat} (h : piecesOf? cs = some ps) : ∀ p ∈ ps, p < 65536 := by
  rw [piecesOf?] at h
  split at h
  · obtain rfl := Option.some.inj h
    exact List.forall_mem_nil _
  · exact lt_of_pieces? h

/-- eight pieces are eight, each of 16 bits -/
theorem bounds_of_eightPieces? {ps : List Nat} (h : eightPieces? cs = some ps) :
    ps.length = 8 ∧ ∀ p ∈ ps, p < 65536 := by
  rw [eightPieces?] at h
  split at h
  · obtain ⟨hps, hlength⟩ := Option.filter_eq_some_iff.mp h
    exact ⟨of_decide_eq_true hlength, lt_of_piecesOf? hps⟩
  · obtain ⟨front, hfront, h⟩ := Option.bind_eq_some_iff.mp h
    obtain ⟨back, hback, h⟩ := Option.bind_eq_some_iff.mp h
    split at h
    · cases h
    · next hroom =>
      obtain rfl := Option.some.inj h
      rw [Bool.or_eq_true, not_or, decide_eq_true_eq] at hroom
      refine ⟨?_, List.forall_mem_append.mpr ⟨List.forall_mem_append.mpr
        ⟨lt_of_piecesOf? hfront, fun p hp => ?_⟩, lt_of_piecesOf? hback⟩⟩
      · rw [List.length_append, List.length_append, List.length_replicate]
        omega
      · rw [List.eq_of_mem_replicate hp]
        decide

/-! ## hosts that were read -/

/-- what a host that was read is -/
inductive HostForm : List Char → Prop
  | pieces {ps : List Nat} : ps.length = 8 → (∀ p ∈ ps, p < 65536) →
      HostForm ('[' :: eightPieces ps ++ [']'])
  | numbers {n : Nat} : n < 2 ^ 32 → HostForm (fourNumbers n)
  | name {text cs : List Char} : HostName.ascii? text = some cs → cs ≠ [] →
      (∀ c ∈ cs, isForbiddenInName c = false) → endsInNumber cs = false → HostForm cs

theorem hostForm_of_special (h : special? cs = .ok host) : HostForm host := by
  rw [special?] at h
  split at h
  · rw [bracketHost] at h
    split at h
    · next ps hps =>
      obtain rfl := Except.ok.inj h
      obtain ⟨inner, -, hps⟩ := Option.bind_eq_some_iff.mp hps
      obtain ⟨hlength, hbound⟩ := bounds_of_eightPieces? hps
      exact .pieces hlength hbound
    · cases h
  · split at h
    · cases h
    · next name hname =>
      split at h
      · cases h
      · next hempty =>
        split at h
        · cases h
        · next hallowed =>
          split at h
          · split at h
            · next n hn =>
              obtain rfl := Except.ok.inj h
              obtain ⟨ns, -, hn⟩ := Option.bind_eq_some_iff.mp hn
              exact .numbers (lt_of_addressOf? hn)
            · cases h
          · next hnumber =>
            obtain rfl := Except.ok.inj h
            exact .name hname (fun hnil => hempty (List.isEmpty_iff.mpr hnil))
              (fun c hc => Bool.eq_false_iff.mpr fun hc' =>
                hallowed (List.any_eq_true.mpr ⟨c, hc, hc'⟩))
              (Bool.eq_false_iff.mpr hnumber)

/-! ## their texts -/

/-- what hosts look like: a name or numbers, or pieces in brackets, and only these have colons -/
inductive HostText : List Char → Prop
  | name {cs : List Char} : cs ≠ [] → (∀ c ∈ cs, NameChar c) → HostText cs
  | pieces {cs : List Char} : (∀ c ∈ cs, NameChar c ∨ c = ':') → HostText ('[' :: cs ++ [']'])

namespace HostText

theorem ne_nil (h : HostText host) : host ≠ [] := by
  cases h with
  | name hne _ => exact hne
  | pieces _ => exact List.cons_ne_nil _ _

theorem char (h : HostText host) (hc : c ∈ host) : NameChar c ∨ c ∈ [':', '[', ']'] := by
  cases h with
  | name _ hall => exact .inl (hall c hc)
  | pieces hall =>
    rw [List.cons_append, List.mem_cons, List.mem_append, List.mem_singleton] at hc
    rcases hc with rfl | hc | rfl
    · exact .inr (by decide)
    · exact (hall c hc).imp_right fun hcolon => by rw [hcolon]; exact List.mem_cons_self
    · exact .inr (by decide)

theorem siteChar (h : HostText host) (hc : c ∈ host) : SiteChar c := by
  have hmarks : ∀ c ∈ [':', '[', ']'], SiteChar c := by simp [SiteChar]
  exact (h.char hc).elim NameChar.siteChar (hmarks c)

theorem ne_at (h : HostText host) (hc : c ∈ host) : c ≠ '@' := by
  have hmarks : ∀ c ∈ [':', '[', ']'], c ≠ '@' := by simp
  exact (h.char hc).elim (fun hc => hc.ne (by decide)) (hmarks c)

end HostText

theorem mem_fourNumbers (h : c ∈ fourNumbers n) : NameChar c := by
  rcases Text.mem_of_mem_glue h with rfl | ⟨text, htext, hc⟩
  · decide
  · obtain ⟨b, -, rfl⟩ := List.mem_map.mp htext
    exact nameChar_of_mem_toDigits (by decide) (by decide) hc

theorem mem_pieceChars {ps : List Nat} (h : c ∈ pieceChars ps) : NameChar c ∨ c = ':' := by
  rcases Text.mem_of_mem_glue h with rfl | ⟨text, htext, hc⟩
  · exact .inr rfl
  · obtain ⟨p, -, rfl⟩ := List.mem_map.mp htext
    exact .inl (nameChar_of_mem_toDigits (by decide) (by decide) hc)

theorem mem_eightPieces {ps : List Nat} (h : c ∈ eightPieces ps) : NameChar c ∨ c = ':' := by
  rw [eightPieces] at h
  dsimp only at h
  split at h
  · exact mem_pieceChars h
  · have hcolons : ∀ c ∈ "::".toList, c = ':' := by simp
    rcases List.mem_append.mp h with h | h
    · rcases List.mem_append.mp h with h | h
      · exact mem_pieceChars h
      · exact .inr (hcolons c h)
    · exact mem_pieceChars h

theorem HostForm.text (h : HostForm host) : HostText host := by
  cases h with
  | pieces _ _ => exact .pieces fun c => mem_eightPieces
  | numbers _ => exact .name (by simp [fourNumbers, Text.glue]) fun c => mem_fourNumbers
  | name _ hne hallowed _ =>
    exact .name hne fun c hc => nameChar_of_isForbiddenInName (hallowed c hc)

end ChatRelay.Url
