import ChatRelay.Proofs.Addresses
import ChatRelay.Proofs.Url.Names

/-!
# Hosts that are read back

Four numbers and eight pieces are read back from their texts, and so is a name.

* `special?_fourNumbers`      four numbers are read back;
* `eightPieces?_eightPieces`  eight pieces are read back;
* `HostForm.reads`            so is every host that was read, if it is legible.
-/

namespace ChatRelay.Url

open Text HostName

variable {c : Char} {cs host : List Char} {n : Nat} {ps : List Nat}

theorem ne_dot_of_mem_toDigits {base : Nat} (hbase : 1 < base) (hmax : base ≤ 16)
    (h : c ∈ Nat.toDigits base n) : c ≠ '.' := by
  obtain ⟨k, hk, rfl⟩ := exists_digitChar_of_mem_toDigits hbase h
  have hdigit : ∀ k < 16, Nat.digitChar k ≠ '.' := by decide
  exact hdigit k (by omega)

/-! ## four numbers -/

/-- the four bytes of a number -/
def quad (n : Nat) : List Nat := [n / 0x1000000 % 256, n / 0x10000 % 256, n / 0x100 % 256, n % 256]

theorem mem_fourNumbers_digit (h : c ∈ fourNumbers n) :
    c = '.' ∨ ∃ k < 10, c = Nat.digitChar k := by
  refine (mem_of_mem_glue h).imp_right fun ⟨text, htext, hc⟩ => ?_
  obtain ⟨b, -, rfl⟩ := List.mem_map.mp htext
  exact exists_digitChar_of_mem_toDigits (by decide) hc

theorem split_fourNumbers (n : Nat) :
    split (· = '.') (fourNumbers n) = (quad n).map (Nat.toDigits 10) := by
  show split (· = '.') (glue '.' ((quad n).map (Nat.toDigits 10))) = _
  refine split_glue (by decide) (by simp [quad]) fun part hpart c hc => decide_eq_false ?_
  obtain ⟨b, -, rfl⟩ := List.mem_map.mp hpart
  exact ne_dot_of_mem_toDigits (by decide) (by decide) hc

theorem lone_fourNumbers (n : Nat) : Lone (fourNumbers n) where
  ascii := fun c hc => by
    have hdigit : ∀ k < 10, isAscii (Nat.digitChar k) = true := by decide
    rcases mem_fourNumbers_digit hc with rfl | ⟨k, hk, rfl⟩
    · decide
    · exact hdigit k hk
  lower := fun c hc => by
    have hdigit : ∀ k < 10, (Nat.digitChar k).toLower = Nat.digitChar k := by decide
    rcases mem_fourNumbers_digit hc with rfl | ⟨k, hk, rfl⟩
    · decide
    · exact hdigit k hk
  labels := fun label hlabel hstart => by
    rw [split_fourNumbers] at hlabel
    obtain ⟨b, -, rfl⟩ := List.mem_map.mp hlabel
    have hx : 'x' ∈ Nat.toDigits 10 b := hstart.subset (by decide)
    obtain ⟨k, hk, hdigit⟩ := exists_digitChar_of_mem_toDigits (by decide) hx
    have hne : ∀ k < 10, 'x' ≠ Nat.digitChar k := by decide
    exact hne k hk hdigit

theorem hostNumber?_toDigits : ∀ b < 256, hostNumber? (Nat.toDigits 10 b) = some b := by
  decide +kernel

theorem mapM_quad (n : Nat) :
    ((quad n).map (Nat.toDigits 10)).mapM hostNumber? = some (quad n) := by
  have hbyte : ∀ b ∈ quad n, b < 256 := by
    intro b hb
    simp only [quad, List.mem_cons, List.not_mem_nil, or_false] at hb
    omega
  have hread : ∀ b ∈ quad n, (hostNumber? ∘ Nat.toDigits 10) b = some (id b) := fun b hb =>
    hostNumber?_toDigits b (hbyte b hb)
  rw [List.mapM_map, mapM_eq_some hread, List.map_id]

theorem addressOf?_quad (h : n < 2 ^ 32) : addressOf? (quad n) 4 = some n := by
  have hbyte (m : Nat) : m % 256 < 256 := Nat.mod_lt m (by decide)
  simp [quad, addressOf?, hbyte]
  omega

theorem hostParts_fourNumbers (n : Nat) :
    hostParts (fourNumbers n) = (quad n).map (Nat.toDigits 10) := by
  have hlast : ((quad n).map (Nat.toDigits 10)).getLast? ≠ some [] := by
    simp [quad, Nat.toDigits_ne_nil]
  rw [hostParts, split_fourNumbers]
  exact if_neg fun h => hlast h.2

theorem endsInNumber_fourNumbers (n : Nat) : endsInNumber (fourNumbers n) = true := by
  have hlast : ((quad n).map (Nat.toDigits 10)).getLast? = some (Nat.toDigits 10 (n % 256)) := by
    simp [quad]
  have hdigits : (Nat.toDigits 10 (n % 256)).all (fun c => '0' ≤ c && c ≤ '9') = true := by
    have hdigit : ∀ k < 10,
        (decide ('0' ≤ Nat.digitChar k) && decide (Nat.digitChar k ≤ '9')) = true := by decide
    refine List.all_eq_true.mpr fun c hc => ?_
    obtain ⟨k, hk, rfl⟩ := exists_digitChar_of_mem_toDigits (by decide) hc
    exact hdigit k hk
  rw [endsInNumber, hostParts_fourNumbers, hlast]
  simp only [hdigits]
  rw [decide_eq_true Nat.toDigits_ne_nil]
  rfl

/-- four numbers are read back from their text -/
theorem special?_fourNumbers (h : n < 2 ^ 32) :
    special? (fourNumbers n) = .ok (fourNumbers n) := by
  have hplain : ∀ c ∈ fourNumbers n, isPlainChar c = true := fun c hc => by
    have hdigit : ∀ k < 10, isPlainChar (Nat.digitChar k) = true := by decide
    rcases mem_fourNumbers_digit hc with rfl | ⟨k, hk, rfl⟩
    · decide
    · exact hdigit k hk
  have hself : ascii? (fourNumbers n) = some (fourNumbers n) := ascii?_of_lone (lone_fourNumbers n)
  rw [special?_of_ascii? (lone_fourNumbers n).ascii hself (HostForm.numbers h).text.ne_nil
    fun c hc => isForbiddenInName_of_isPlainChar (hplain c hc)]
  simp only [endsInNumber_fourNumbers, hostParts_fourNumbers, mapM_quad, Option.bind_some,
    addressOf?_quad h]
  rfl

/-! ## eight pieces -/

theorem piece?_toDigits {p : Nat} (h : p < 65536) : piece? (Nat.toDigits 16 p) = some p := by
  have hmax : (Nat.toDigits 16 p).length ≤ 4 :=
    (Nat.length_toDigits_le_iff (by decide) (by decide)).mpr h
  have hmin : (Nat.toDigits 16 p).length ≠ 0 := Nat.pos_iff_ne_zero.mp Nat.length_toDigits_pos
  rw [piece?, if_neg (by omega), digits?_toDigits (by decide) (by decide)]

theorem pieces?_toDigits (h : ∀ p ∈ ps, p < 65536) :
    pieces? (ps.map (Nat.toDigits 16)) = some ps := by
  induction ps with
  | nil => rfl
  | cons p ps ih =>
    have hp : piece? (Nat.toDigits 16 p) = some p := piece?_toDigits (h p List.mem_cons_self)
    cases ps with
    | nil =>
      have hdot : (Nat.toDigits 16 p).contains '.' = false := by
        rw [← Bool.not_eq_true, List.contains_iff_mem]
        exact fun hc => ne_dot_of_mem_toDigits (by decide) (by decide) hc rfl
      show (if (Nat.toDigits 16 p).contains '.' then lastPieces? (Nat.toDigits 16 p)
        else (piece? (Nat.toDigits 16 p)).map ([·])) = _
      rw [hdot, hp]
      rfl
    | cons next ps =>
      have hmore := ih fun x hx => h x (List.mem_cons_of_mem p hx)
      show (do
        let m ← piece? (Nat.toDigits 16 p)
        let ms ← pieces? ((next :: ps).map (Nat.toDigits 16))
        return m :: ms) = _
      rw [hp, hmore]
      rfl

theorem pieceChars_cons {p : Nat} (h : ps ≠ []) :
    pieceChars (p :: ps) = Nat.toDigits 16 p ++ ':' :: pieceChars ps :=
  glue_cons (fun hnil => h (List.map_eq_nil_iff.mp hnil)) ':'

theorem ne_colon_of_mem_toDigits {p : Nat} (hc : c ∈ Nat.toDigits 16 p) : c ≠ ':' :=
  (nameChar_of_mem_toDigits (by decide) (by decide) hc).ne (by decide)

/-- pieces do not begin with a colon -/
theorem exists_pieceChars (h : ps ≠ []) : ∃ c cs, pieceChars ps = c :: cs ∧ c ≠ ':' := by
  obtain ⟨p, ps, rfl⟩ := List.exists_cons_of_ne_nil h
  obtain ⟨c, cs, hdigits⟩ := List.exists_cons_of_ne_nil (Nat.toDigits_ne_nil (n := p) (b := 16))
  have hc : c ≠ ':' := ne_colon_of_mem_toDigits (p := p) (by rw [hdigits]; exact List.mem_cons_self)
  by_cases hps : ps = []
  · refine ⟨c, cs, ?_, hc⟩
    rw [hps]
    exact hdigits
  · refine ⟨c, cs ++ ':' :: pieceChars ps, ?_, hc⟩
    rw [pieceChars_cons hps, hdigits, List.cons_append]

theorem dot_not_mem_pieceChars (ps : List Nat) : '.' ∉ pieceChars ps := fun hdot => by
  rcases mem_of_mem_glue hdot with hcolon | ⟨text, htext, hdot⟩
  · exact absurd hcolon (by decide)
  · obtain ⟨p, -, rfl⟩ := List.mem_map.mp htext
    exact ne_dot_of_mem_toDigits (by decide) (by decide) hdot rfl

theorem piecesOf?_pieceChars (h : ∀ p ∈ ps, p < 65536) : piecesOf? (pieceChars ps) = some ps := by
  by_cases hps : ps = []
  · rw [hps]
    rfl
  · obtain ⟨c, cs, hchars, -⟩ := exists_pieceChars hps
    have hsplit : split (· = ':') (pieceChars ps) = ps.map (Nat.toDigits 16) := by
      refine split_glue (by decide) (fun hnil => hps (List.map_eq_nil_iff.mp hnil))
        fun part hpart c hc => decide_eq_false ?_
      obtain ⟨p, -, rfl⟩ := List.mem_map.mp hpart
      exact ne_colon_of_mem_toDigits hc
    have hnonempty : (pieceChars ps).isEmpty = false := by rw [hchars]; rfl
    rw [piecesOf?, hnonempty, hsplit, pieces?_toDigits h]
    rfl

theorem cutAtGap?_cons {rest : List Char} (h : c ≠ ':' ∨ rest.head? ≠ some ':') :
    cutAtGap? (c :: rest) = (cutAtGap? rest).map fun w => (c :: w.1, w.2) := by
  rw [cutAtGap?]
  rintro cs rfl rfl
  exact h.elim (fun h => h rfl) fun h => h rfl

theorem cutAtGap?_append (h : ∀ c ∈ cs, c ≠ ':') (rest : List Char) :
    cutAtGap? (cs ++ rest) = (cutAtGap? rest).map fun w => (cs ++ w.1, w.2) := by
  induction cs with
  | nil => exact Option.map_id_apply.symm
  | cons c cs ih =>
    rw [List.cons_append, cutAtGap?_cons (.inl (h c List.mem_cons_self)),
      ih fun x hx => h x (List.mem_cons_of_mem c hx), Option.map_map]
    rfl

/-- no two colons in a row stand between pieces -/
theorem cutAtGap?_pieceChars (ps : List Nat) (rest : List Char) :
    cutAtGap? (pieceChars ps ++ rest)
      = (cutAtGap? rest).map fun w => (pieceChars ps ++ w.1, w.2) := by
  induction ps with
  | nil => exact Option.map_id_apply.symm
  | cons p ps ih =>
    have hdigits : ∀ c ∈ Nat.toDigits 16 p, c ≠ ':' := fun c hc => ne_colon_of_mem_toDigits hc
    by_cases hps : ps = []
    · rw [hps]
      exact cutAtGap?_append hdigits rest
    · obtain ⟨c, cs, hchars, hc⟩ := exists_pieceChars hps
      have hhead : (pieceChars ps ++ rest).head? ≠ some ':' := by
        rw [hchars]
        exact fun h => hc (Option.some.inj h)
      rw [pieceChars_cons hps, List.append_assoc, cutAtGap?_append hdigits, List.cons_append,
        cutAtGap?_cons (.inr hhead), ih, Option.map_map, Option.map_map]
      simp only [Function.comp_def, List.append_assoc, List.cons_append]

theorem zeros_spec (ps : List Nat) : ∃ back, ps = List.replicate (zeros ps) 0 ++ back := by
  refine ⟨ps.dropWhile (· = 0), ?_⟩
  have hzero : ps.takeWhile (· = 0) = List.replicate (zeros ps) 0 :=
    List.eq_replicate_iff.mpr ⟨rfl, fun p hp => by simpa using List.mem_takeWhile_imp hp⟩
  rw [← hzero, List.takeWhile_append_dropWhile]

/-- the stretch of zeros that is left out stands in the list -/
theorem longestZeros_spec (start : Nat) (ps : List Nat) :
    ∃ front back, ps = front ++ List.replicate (longestZeros start ps).2 0 ++ back ∧
      (longestZeros start ps).1 = start + front.length := by
  induction ps generalizing start with
  | nil => exact ⟨[], [], rfl, rfl⟩
  | cons p ps ih =>
    rw [longestZeros]
    split
    · obtain ⟨back, hback⟩ := zeros_spec (p :: ps)
      exact ⟨[], back, hback, rfl⟩
    · obtain ⟨front, back, hps, hstart⟩ := ih (start + 1)
      refine ⟨p :: front, back, congrArg (p :: ·) hps, ?_⟩
      rw [hstart, List.length_cons]
      omega

/-- pieces without a gap are read if they are eight -/
theorem eightPieces?_pieceChars (hlength : ps.length = 8) (hbound : ∀ p ∈ ps, p < 65536) :
    eightPieces? (pieceChars ps) = some ps := by
  have hgap : cutAtGap? (pieceChars ps) = none := by
    have hnone := cutAtGap?_pieceChars ps []
    rwa [List.append_nil] at hnone
  rw [eightPieces?, hgap]
  simp only [piecesOf?_pieceChars hbound]
  exact Option.filter_eq_some_iff.mpr ⟨rfl, decide_eq_true hlength⟩

/-- pieces with a gap are read with zeros in it, which make them eight -/
theorem eightPieces?_gap {front back : List Nat} {count : Nat} (hfront : ∀ p ∈ front, p < 65536)
    (hback : ∀ p ∈ back, p < 65536) (hcount : 0 < count)
    (htotal : front.length + count + back.length = 8) :
    eightPieces? (pieceChars front ++ "::".toList ++ pieceChars back)
      = some (front ++ List.replicate count 0 ++ back) := by
  have hgap : cutAtGap? (pieceChars front ++ "::".toList ++ pieceChars back)
      = some (pieceChars front, pieceChars back) := by
    rw [List.append_assoc, cutAtGap?_pieceChars]
    show some (pieceChars front ++ [], pieceChars back) = _
    rw [List.append_nil]
  have hdot : (pieceChars front).contains '.' = false := by
    rw [← Bool.not_eq_true, List.contains_iff_mem]
    exact dot_not_mem_pieceChars front
  have hroom : decide (7 < front.length + back.length) = false := decide_eq_false (by omega)
  have hzeros : 8 - front.length - back.length = count := by omega
  rw [eightPieces?, hgap]
  simp only [piecesOf?_pieceChars hfront, piecesOf?_pieceChars hback, hdot]
  show (if false || decide (7 < front.length + back.length) then none
    else some (front ++ List.replicate (8 - front.length - back.length) 0 ++ back)) = _
  rw [hroom, hzeros]
  rfl

/-- eight pieces are read back from their text -/
theorem eightPieces?_eightPieces (hlength : ps.length = 8) (hbound : ∀ p ∈ ps, p < 65536) :
    eightPieces? (eightPieces ps) = some ps := by
  obtain ⟨front, back, hps, hstart⟩ := longestZeros_spec 0 ps
  rw [eightPieces]
  generalize longestZeros 0 ps = stretch at hps hstart
  obtain ⟨start, count⟩ := stretch
  dsimp only at hps hstart ⊢
  split
  · exact eightPieces?_pieceChars hlength hbound
  · next hcount =>
    obtain rfl : start = front.length := hstart.trans (Nat.zero_add _)
    have htake : ps.take front.length = front := by
      rw [hps, List.append_assoc, List.take_left]
    have hdrop : ps.drop (front.length + count) = back := by
      rw [hps, List.drop_left' (by simp)]
    have htotal : front.length + count + back.length = 8 := by
      rw [← hlength, hps, List.length_append, List.length_append, List.length_replicate]
    rw [htake, hdrop, eightPieces?_gap _ _ (by omega) htotal, ← hps]
    · exact fun p hp =>
        hbound p (hps ▸ List.mem_append_left _ (List.mem_append_left _ hp))
    · exact fun p hp => hbound p (hps ▸ List.mem_append_right _ hp)

theorem special?_eightPieces (hlength : ps.length = 8) (hbound : ∀ p ∈ ps, p < 65536) :
    special? ('[' :: eightPieces ps ++ [']']) = .ok ('[' :: eightPieces ps ++ [']']) := by
  have hbracketed : bracketed? ('[' :: eightPieces ps ++ [']']) = some (eightPieces ps) := by
    rw [List.cons_append, bracketed?, List.getLast?_concat, if_pos rfl, List.dropLast_concat]
  have hhead : ('[' :: eightPieces ps ++ [']']).head? = some '[' := rfl
  rw [special?, if_pos hhead, bracketHost, hbracketed, Option.bind_some,
    eightPieces?_eightPieces hlength hbound]

/-- **A host that was read** is read as itself, if it is legible. -/
theorem HostForm.reads (h : HostForm host) (hlegible : Legible host) :
    special? host = .ok host := by
  cases h with
  | pieces hlength hbound => exact special?_eightPieces hlength hbound
  | numbers hn => exact special?_fourNumbers hn
  | name hname hne hallowed hnumber =>
    obtain ⟨hascii, hself⟩ := ascii?_of_ascii? hname hlegible
    exact special?_of_name hascii hself hne hallowed hnumber

end ChatRelay.Url
