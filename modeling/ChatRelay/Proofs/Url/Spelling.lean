import ChatRelay.Url.Basic
import Mathlib

/-!
# How the parts of an address are spelled

What an address keeps is spelled so that reading it again changes nothing: no character is left that
would be encoded, and no part of a path that would be followed.  Encoding neither makes a part that
is followed nor unmakes one.

* `Kept`              a text in which nothing is encoded;
* `kept_encode`       an encoded text is such a text;
* `isDot_encode`      encoding a part of a path leaves it followed or not;
* `Spelled`           a path that stands in an address as it is;
* `spelled_append`    two such paths with a slash between them;
* `pathChars_parts`   such a path is read and written again.
-/

namespace ChatRelay.Url

variable {set : Char → Bool} {c : Char} {cs ds : List Char}

/-! ## encoded texts -/

/-- whether nothing in a text is encoded -/
def Kept (set : Char → Bool) (cs : List Char) : Prop := ∀ c ∈ cs, set c = false

theorem kept_nil : Kept set [] := fun _ hc => nomatch hc

/-- the characters that encoding writes -/
def isEscape (c : Char) : Bool := c = '%' || (List.range 16).any fun n => c = percentDigit n

theorem isEscape_of_mem_percentByte {b : UInt8} (h : c ∈ percentByte b) : isEscape c = true := by
  have hdigit : ∀ n < 16, isEscape (percentDigit n) = true := by decide
  have hlt := b.toNat_lt
  simp only [percentByte, List.mem_cons, List.not_mem_nil, or_false] at h
  rcases h with rfl | rfl | rfl
  · rfl
  · exact hdigit _ (by omega)
  · exact hdigit _ (by omega)

theorem encode_cons (set : Char → Bool) (c : Char) (cs : List Char) :
    encode set (c :: cs)
      = (if set c then (String.utf8EncodeChar c).flatMap percentByte else [c]) ++ encode set cs :=
  List.flatMap_cons

theorem mem_encode (h : c ∈ encode set cs) : c ∈ cs ∧ set c = false ∨ isEscape c = true := by
  obtain ⟨d, hd, hc⟩ := List.mem_flatMap.mp h
  split at hc
  · obtain ⟨b, -, hb⟩ := List.mem_flatMap.mp hc
    exact .inr (isEscape_of_mem_percentByte hb)
  · next hset =>
    obtain rfl := List.mem_singleton.mp hc
    exact .inl ⟨hd, by simpa using hset⟩

/-- whether a set leaves what encoding writes as it is -/
def Stable (set : Char → Bool) : Prop := ∀ c, isEscape c = true → set c = false

theorem stable_of_forall (hpercent : set '%' = false)
    (hdigit : ∀ n < 16, set (percentDigit n) = false) : Stable set := by
  intro c hc
  simp only [isEscape, Bool.or_eq_true, decide_eq_true_eq, List.any_eq_true, List.mem_range] at hc
  rcases hc with rfl | ⟨n, hn, rfl⟩
  · exact hpercent
  · exact hdigit n hn

theorem inFragment_eq : inFragment = fun c =>
    inControls c || decide (c ∈ [' ', '"', '<', '>', '`']) :=
  funext fun c => by rw [inFragment, String.contains_char_eq]; rfl

theorem inPath_eq : inPath = fun c => inFragment c || decide (c ∈ ['#', '?', '\x7b', '\x7d']) :=
  funext fun c => by rw [inPath, String.contains_char_eq]; rfl

theorem inUserinfo_eq : inUserinfo = fun c =>
    inPath c || decide (c ∈ ['/', ':', ';', '=', '@', '[', '\\', ']', '^', '|']) :=
  funext fun c => by rw [inUserinfo, String.contains_char_eq]; rfl

theorem inQuery_eq : inQuery = fun special c =>
    inControls c || decide (c ∈ [' ', '"', '#', '<', '>']) || (special && c.toNat = 0x27) :=
  funext fun special => funext fun c => by rw [inQuery, String.contains_char_eq]; rfl

theorem stable_inFragment : Stable inFragment := by
  rw [inFragment_eq]
  exact stable_of_forall (by decide) (by decide)

theorem stable_inPath : Stable inPath := by
  rw [inPath_eq, inFragment_eq]
  exact stable_of_forall (by decide) (by decide)

theorem stable_inUserinfo : Stable inUserinfo := by
  rw [inUserinfo_eq, inPath_eq, inFragment_eq]
  exact stable_of_forall (by decide) (by decide)

theorem stable_inQuery (special : Bool) : Stable (inQuery special) := by
  rw [inQuery_eq]
  cases special <;> exact stable_of_forall (by decide) (by decide)

/-- in an encoded text nothing is encoded -/
theorem kept_encode (h : Stable set) (cs : List Char) : Kept set (encode set cs) := by
  intro c hc
  rcases mem_encode hc with ⟨-, hc⟩ | hc
  · exact hc
  · exact h c hc

theorem encode_of_kept (h : Kept set cs) : encode set cs = cs := encode_of_forall h

/-- a character that is not always encoded is a blank or comes behind it -/
theorem lt_of_inControls (h : inControls c = false) (hblank : c ≠ ' ') : 0x20 < c.toNat := by
  have hcontrol : ¬ c.toNat < 0x20 := of_decide_eq_false (Bool.or_eq_false_iff.mp h).1
  have hne : c.toNat ≠ 0x20 := fun hc => hblank (Char.toNat_inj.mp hc)
  omega

theorem lt_of_inFragment (h : inFragment c = false) : 0x20 < c.toNat := by
  rw [inFragment_eq, Bool.or_eq_false_iff, decide_eq_false_iff_not] at h
  exact lt_of_inControls h.1 fun hc => h.2 (by simp [hc])

theorem lt_of_inPath (h : inPath c = false) : 0x20 < c.toNat :=
  lt_of_inFragment (Bool.or_eq_false_iff.mp h).1

theorem lt_of_inQuery {special : Bool} (h : inQuery special c = false) : 0x20 < c.toNat := by
  rw [inQuery_eq, Bool.or_eq_false_iff, Bool.or_eq_false_iff, decide_eq_false_iff_not] at h
  exact lt_of_inControls h.1.1 fun hc => h.1.2 (by simp [hc])

/-! ## parts that are followed -/

/-- whether a text consists of dots, each of them as such or encoded -/
def isDots : List Char → Bool
  | [] => true
  | '.' :: cs => isDots cs
  | '%' :: '2' :: e :: cs => (e = 'e' || e = 'E') && isDots cs
  | _ :: _ => false

/-- a character comes from itself or from the capital letter when letters lose their case -/
theorem eq_or_of_toLower {d : Char} (h : c.toLower = d) :
    c = d ∨ 65 ≤ c.toNat ∧ c.toNat ≤ 90 ∧ d.toNat = c.toNat + 32 := by
  rw [Char.toLower] at h
  split at h
  · next hupper =>
    obtain ⟨hlow, hhigh⟩ := hupper
    have hlow : 65 ≤ c.toNat := hlow
    have hhigh : c.toNat ≤ 90 := hhigh
    refine .inr ⟨hlow, hhigh, ?_⟩
    have hd : d.toNat = (c.toNat + 32) % 2 ^ 32 := by
      rw [← h]
      rfl
    omega
  · exact .inl h

theorem eq_of_toLower {d : Char} (h : c.toLower = d) (hd : d.toNat < 97) : c = d := by
  rcases eq_or_of_toLower h with h | ⟨hlow, -, h⟩
  · exact h
  · omega

theorem eq_or_of_toLower_e (h : c.toLower = 'e') : c = 'e' ∨ c = 'E' := by
  rcases eq_or_of_toLower h with h | ⟨-, -, h⟩
  · exact .inl h
  · have hcapital : 'e'.toNat = 'E'.toNat + 32 := rfl
    exact .inr (Char.toNat_inj.mp (by omega))

/-- capital letters do not matter -/
theorem isDots_of_map_toLower (h : isDots (cs.map Char.toLower) = true) : isDots cs = true := by
  generalize hds : cs.map Char.toLower = ds at h
  fun_induction isDots ds generalizing cs with
  | case1 => rw [List.map_eq_nil_iff.mp hds]; rfl
  | case2 ds ih =>
    obtain ⟨x, cs, rfl, hx, hcs⟩ := List.map_eq_cons_iff.mp hds
    obtain rfl := eq_of_toLower hx (by decide)
    show isDots cs = true
    exact ih hcs h
  | case3 e ds ih =>
    obtain ⟨x, cs, rfl, hx, hcs⟩ := List.map_eq_cons_iff.mp hds
    obtain ⟨y, cs', rfl, hy, hcs'⟩ := List.map_eq_cons_iff.mp hcs
    obtain ⟨z, rest, rfl, hz, hrest⟩ := List.map_eq_cons_iff.mp hcs'
    obtain rfl := eq_of_toLower hx (by decide)
    obtain rfl := eq_of_toLower hy (by decide)
    rw [Bool.and_eq_true, Bool.or_eq_true, decide_eq_true_eq, decide_eq_true_eq] at h
    have hz : z = 'e' ∨ z = 'E' := by
      rcases h.1 with rfl | rfl
      · exact eq_or_of_toLower_e hz
      · exact .inr (eq_of_toLower hz (by decide))
    rw [isDots, ih hrest h.2, Bool.and_true]
    simpa using hz
  | case4 => exact nomatch h

theorem isDots_of_isDot (h : isDot cs = true) : isDots cs = true := by
  refine isDots_of_map_toLower ?_
  have hall : ∀ ds ∈ [".".toList, "%2e".toList], isDots ds = true := by decide
  exact hall _ (List.contains_iff_mem.mp h)

theorem isDots_of_isDotDot (h : isDotDot cs = true) : isDots cs = true := by
  refine isDots_of_map_toLower ?_
  have hall : ∀ ds ∈ ["..".toList, ".%2e".toList, "%2e.".toList, "%2e%2e".toList],
      isDots ds = true := by decide
  exact hall _ (List.contains_iff_mem.mp h)

/-- the first byte of a character that is encoded in a path is not that of a dot -/
theorem utf8EncodeChar_of_inPath (h : inPath c = true) :
    ∃ b bytes, String.utf8EncodeChar c = b :: bytes ∧ b.toNat ≠ 0x2E := by
  have hdot : c.val.toNat ≠ 0x2E := by
    intro hc
    obtain rfl : c = '.' := Char.toNat_inj.mp hc
    rw [inPath_eq, inFragment_eq] at h
    exact absurd h (by decide)
  unfold String.utf8EncodeChar
  dsimp only
  split
  · refine ⟨_, _, rfl, ?_⟩
    rw [UInt8.toNat_ofNat']
    omega
  · split
    · refine ⟨_, _, rfl, ?_⟩
      rw [UInt8.toNat_ofNat']
      omega
    · split
      · refine ⟨_, _, rfl, ?_⟩
        rw [UInt8.toNat_ofNat']
        omega
      · refine ⟨_, _, rfl, ?_⟩
        rw [UInt8.toNat_ofNat']
        omega

/-- what stands behind a percent sign in a text of dots -/
theorem isDots_percent {x y : Char} (h : isDots ('%' :: x :: y :: cs) = true) :
    x = '2' ∧ (y = 'e' ∨ y = 'E') ∧ isDots cs = true := by
  unfold isDots at h
  split at h
  · next heq => exact absurd heq (by simp)
  · next heq => exact absurd (List.cons.inj heq).1 (by decide)
  · next heq =>
    obtain ⟨-, rfl, rfl, rfl⟩ : '%' = '%' ∧ x = '2' ∧ y = _ ∧ cs = _ := by simpa using heq
    simpa using h
  · exact nomatch h

/-- the first character of an encoded text was there before, or it begins an encoded one -/
theorem encode_eq_cons {x : Char} {xs : List Char} (h : encode set cs = x :: xs) :
    (∃ ds, cs = x :: ds ∧ encode set ds = xs) ∨
      ∃ c ds, set c = true ∧ (String.utf8EncodeChar c).flatMap percentByte ++ ds = x :: xs := by
  cases cs with
  | nil => exact nomatch h
  | cons c cs =>
    rw [encode_cons] at h
    split at h
    · next hc => exact .inr ⟨c, _, hc, h⟩
    · obtain ⟨rfl, hrest⟩ := List.cons.inj h
      exact .inl ⟨cs, rfl, hrest⟩

/-- a character that is encoded in a path does not become a dot -/
theorem isDots_of_inPath (hc : inPath c = true) :
    isDots ((String.utf8EncodeChar c).flatMap percentByte ++ ds) = false := by
  obtain ⟨b, bytes, hbytes, hb⟩ := utf8EncodeChar_of_inPath hc
  rw [hbytes, List.flatMap_cons, List.append_assoc]
  refine Bool.eq_false_iff.mpr fun h => hb ?_
  obtain ⟨hhigh, hlow, -⟩ := isDots_percent h
  have htwo : ∀ n < 16, percentDigit n = '2' → n = 2 := by decide
  have hfourteen : ∀ n < 16, percentDigit n = 'e' ∨ percentDigit n = 'E' → n = 14 := by decide
  have hlt := b.toNat_lt
  have hdiv := htwo _ (by omega) hhigh
  have hmod := hfourteen _ (by omega) hlow
  omega

theorem exists_encoded (c : Char) :
    ∃ cs, (String.utf8EncodeChar c).flatMap percentByte = '%' :: cs := by
  obtain ⟨b, bytes, hbytes⟩ := List.exists_cons_of_ne_nil (String.utf8EncodeChar_ne_nil (c := c))
  rw [hbytes]
  exact ⟨_, rfl⟩

theorem eq_nil_of_encode (h : encode set cs = []) : cs = [] := by
  cases cs with
  | nil => rfl
  | cons c cs =>
    obtain ⟨ds, hds⟩ := exists_encoded c
    rw [encode_cons, hds] at h
    split at h
    · exact nomatch h
    · exact nomatch h

/-- a text of dots is encoded nowhere -/
theorem encode_of_isDots (h : isDots (encode inPath cs) = true) : encode inPath cs = cs := by
  -- the first character of an encoded text of dots is one that stood there before
  have hkept {cs : List Char} {x : Char} {xs : List Char} (hcs : encode inPath cs = x :: xs)
      (hx : isDots (x :: xs) = true ∨ x ≠ '%') : ∃ ds, cs = x :: ds ∧ encode inPath ds = xs := by
    refine (encode_eq_cons hcs).resolve_right fun ⟨c, ds, hc, hds⟩ => ?_
    rcases hx with hx | hx
    · rw [← hds, isDots_of_inPath hc] at hx
      exact nomatch hx
    · obtain ⟨rest, hrest⟩ := exists_encoded c
      rw [hrest] at hds
      exact hx (List.cons.inj hds).1.symm
  generalize hds : encode inPath cs = ds at h
  fun_induction isDots ds generalizing cs with
  | case1 => exact (eq_nil_of_encode hds).symm
  | case2 ds ih =>
    obtain ⟨cs, rfl, hcs⟩ := hkept hds (.inl h)
    rw [ih hcs h]
  | case3 e ds ih =>
    have hparts : (e = 'e' ∨ e = 'E') ∧ isDots ds = true := by simpa using h
    have he : e ≠ '%' := by
      rcases hparts.1 with rfl | rfl <;> decide
    obtain ⟨behind, rfl, hbehind⟩ := hkept hds (.inl h)
    obtain ⟨digit, rfl, hdigit⟩ := hkept hbehind (.inr (by decide))
    obtain ⟨cs, rfl, hcs⟩ := hkept hdigit (.inr he)
    rw [ih hcs hparts.2]
  | case4 => exact nomatch h

theorem isDot_encode (h : isDot cs = false) : isDot (encode inPath cs) = false :=
  Bool.eq_false_iff.mpr fun hdot => by
    rw [encode_of_isDots (isDots_of_isDot hdot), h] at hdot
    exact nomatch hdot

theorem isDotDot_encode (h : isDotDot cs = false) : isDotDot (encode inPath cs) = false :=
  Bool.eq_false_iff.mpr fun hdots => by
    rw [encode_of_isDots (isDots_of_isDotDot hdots), h] at hdots
    exact nomatch hdots

/-! ## paths that stand as they are -/

/-- whether a part of a path stands in an address as it is -/
structure Settled (part : List Char) : Prop where
  kept : Kept inPath part
  slashless : ∀ c ∈ part, isSlash true c = false
  isDot : isDot part = false
  isDotDot : isDotDot part = false

theorem settled_nil : Settled [] where
  kept := kept_nil
  slashless := fun _ hc => nomatch hc
  isDot := by decide
  isDotDot := by decide

theorem settled_encode (hslash : ∀ c ∈ cs, isSlash true c = false) (hdot : isDot cs = false)
    (hdots : isDotDot cs = false) : Settled (encode inPath cs) where
  kept := kept_encode stable_inPath cs
  slashless c hc := by
    rcases mem_encode hc with ⟨hc, -⟩ | hc
    · exact hslash c hc
    · exact stable_of_forall (by decide) (by decide) c hc
  isDot := isDot_encode hdot
  isDotDot := isDotDot_encode hdots

variable {parts done : List (List Char)} {part : List Char}

theorem mem_of_mem_shorten (h : part ∈ shorten done) : part ∈ done := by
  cases done with
  | nil => exact h
  | cons last done =>
    rw [shorten] at h
    split at h
    · exact h
    · exact List.mem_cons_of_mem last h

/-- where dots were followed, all parts stand as they are -/
theorem settled_followDots (hdone : ∀ part ∈ done, Settled part)
    (hslash : ∀ part ∈ parts, ∀ c ∈ part, isSlash true c = false) :
    ∀ part ∈ followDots false done parts, Settled part := by
  induction parts generalizing done with
  | nil => exact fun part hpart => hdone part (List.mem_reverse.mp hpart)
  | cons part parts ih =>
    have hrest : ∀ part ∈ parts, ∀ c ∈ part, isSlash true c = false := fun x hx =>
      hslash x (List.mem_cons_of_mem part hx)
    have hcons {x : List Char} {done : List (List Char)} (hx : Settled x)
        (hdone : ∀ part ∈ done, Settled part) : ∀ part ∈ x :: done, Settled part :=
      List.forall_mem_cons.mpr ⟨hx, hdone⟩
    have hshorter : ∀ part ∈ shorten done, Settled part := fun x hx =>
      hdone x (mem_of_mem_shorten hx)
    rw [followDots]
    split
    · refine ih ?_ hrest
      split
      · exact hcons settled_nil hshorter
      · exact hshorter
    · next hdots =>
      split
      · refine ih ?_ hrest
        split
        · exact hcons settled_nil hdone
        · exact hdone
      · next hdot =>
        have hpart : Settled (encode inPath part) := settled_encode
          (hslash part List.mem_cons_self) (Bool.eq_false_iff.mpr hdot)
          (Bool.eq_false_iff.mpr hdots)
        exact ih (hcons hpart hdone) hrest

theorem followDots_ne_nil (file : Bool) (h : parts ≠ [] ∨ done ≠ []) :
    followDots file done parts ≠ [] := by
  induction parts generalizing done with
  | nil => exact fun hnil => h.resolve_left (fun h => h rfl) (List.reverse_eq_nil_iff.mp hnil)
  | cons part parts ih =>
    have hnext (x : List Char) (done : List (List Char)) :
        parts ≠ [] ∨ (if parts.isEmpty then x :: done else done) ≠ [] := by
      cases parts with
      | nil => exact .inr (List.cons_ne_nil x done)
      | cons next parts => exact .inl (List.cons_ne_nil next parts)
    rw [followDots]
    split
    · exact ih (hnext _ _)
    · split
      · exact ih (hnext _ _)
      · exact ih (.inr (List.cons_ne_nil _ _))

/-- parts that stand as they are are followed nowhere -/
theorem followDots_of_settled (h : ∀ part ∈ parts, Settled part) :
    followDots false done parts = done.reverse ++ parts := by
  induction parts generalizing done with
  | nil => exact (List.append_nil _).symm
  | cons part parts ih =>
    have hpart : Settled part := h part List.mem_cons_self
    rw [followDots, hpart.isDotDot, hpart.isDot]
    show followDots false (encode inPath part :: done) parts = _
    rw [encode_of_kept hpart.kept, ih fun x hx => h x (List.mem_cons_of_mem part hx),
      List.reverse_cons, List.append_assoc, List.singleton_append]

/-- whether a text between slashes stands in an address as it is -/
def Spelled (cs : List Char) : Prop := ∀ part ∈ Text.split (· = '/') cs, Settled part

theorem spelled_nil : Spelled [] := fun part hpart => by
  obtain rfl : part = [] := List.mem_singleton.mp hpart
  exact settled_nil

/-- two texts with a slash between them stand as they are where both do -/
theorem spelled_append {xs ys : List Char} :
    Spelled (xs ++ '/' :: ys) ↔ Spelled xs ∧ Spelled ys := by
  rw [Spelled, Text.split_append_cons (by decide), List.forall_mem_append]
  rfl

/-- the characters of a text that stands as it is -/
theorem Spelled.char (h : Spelled cs) (hc : c ∈ cs) :
    c = '/' ∨ inPath c = false ∧ isSlash true c = false := by
  rcases Text.mem_split_of_mem (· = '/') hc with hslash | ⟨part, hpart, hmem⟩
  · exact .inl (of_decide_eq_true hslash)
  · exact .inr ⟨(h part hpart).kept c hmem, (h part hpart).slashless c hmem⟩

theorem Spelled.lt (h : Spelled cs) : ∀ c ∈ cs, 0x20 < c.toNat := by
  intro c hc
  rcases h.char hc with rfl | ⟨hpath, -⟩
  · decide
  · exact lt_of_inPath hpath

theorem Spelled.dropWhile (h : Spelled cs) : Spelled (cs.dropWhile (· = '/')) := by
  induction cs with
  | nil => exact h
  | cons c cs ih =>
    by_cases hc : c = '/'
    · subst hc
      have hbehind : Spelled ([] ++ '/' :: cs) := h
      simpa using ih (spelled_append.mp hbehind).2
    · rwa [List.dropWhile_cons_of_neg (by simpa using hc)]

theorem Spelled.rdropWhile (h : Spelled cs) : Spelled (cs.rdropWhile (· = '/')) := by
  induction cs using List.reverseRecOn with
  | nil => exact h
  | append_singleton cs c ih =>
    by_cases hc : c = '/'
    · subst hc
      rw [List.rdropWhile_concat_pos _ _ _ (by decide)]
      exact ih (spelled_append.mp h).1
    · rwa [List.rdropWhile_concat_neg _ _ _ (by simpa using hc)]

/-- parts that stand as they are do so between slashes -/
theorem spelled_glue (hne : parts ≠ []) (h : ∀ part ∈ parts, Settled part) :
    Spelled (Text.glue '/' parts) := by
  have hslash : ∀ part ∈ parts, ∀ c ∈ part, decide (c = '/') = false := fun part hpart c hc =>
    (Bool.or_eq_false_iff.mp ((h part hpart).slashless c hc)).1
  rw [Spelled, Text.split_glue (by decide) hne hslash]
  exact h

/-- a path that stands as it is comes back when it is read and written again -/
theorem pathChars_parts (h : Spelled cs) :
    pathChars (.parts (pathParts true ('/' :: cs))) = '/' :: cs := by
  have hsplit : Text.split (isSlash true) cs = Text.split (· = '/') cs :=
    Text.split_congr fun c hc => by
      rcases h.char hc with rfl | ⟨-, hslash⟩
      · rfl
      · rw [hslash, (Bool.or_eq_false_iff.mp hslash).1]
  obtain ⟨part, parts, hparts⟩ := List.exists_cons_of_ne_nil (Text.split_ne_nil (· = '/') cs)
  have hfollow : pathParts true ('/' :: cs) = Text.split (· = '/') cs := by
    show followDots false [] (Text.split (isSlash true) cs) = _
    rw [hsplit, followDots_of_settled h]
    rfl
  rw [hfollow, hparts, pathChars, ← hparts, Text.glue_split]
  exact List.cons_ne_nil _ _

end ChatRelay.Url
