import ChatRelay.Json.Printer
import ChatRelay.Json.Record

/-!
# JSON that is written and read again

A plain document (every number in it an integer of 64 bits, and nothing unreadable) is read from its
compact text as it was written, whatever its strings hold, as long as it nests no deeper than
documents may.

* `string?_escapeChars`   a string, and what follows its quote;
* `numeral?_intChars`     an integer, where the document it is ends behind it;
* `document?_chars`       a document, and what follows it;
* `ofString?_render`      a whole text;
* `parse_render`          what a reader of documents makes of it.
-/

namespace ChatRelay.Json

open Text (Symbol)

/-! ## plain documents -/

mutual
/-- no part of a document is unreadable, and every number is an integer of 64 bits -/
def plain : Json → Bool
  | .number (.float _) | .unreadable => false
  | .number (.int n) => (Number.int n).canonical
  | .array xs => plainItems xs
  | .object fs => plainFields fs
  | .null | .bool _ | .text _ => true

/-- every document of a list is plain -/
def plainItems : List Json → Bool
  | [] => true
  | x :: xs => x.plain && plainItems xs

/-- the value of every field is plain -/
def plainFields : List (String × Json) → Bool
  | [] => true
  | (_, v) :: fs => v.plain && plainFields fs
end

mutual
theorem readable_of_plain : (j : Json) → j.plain = true → j.readable = true
  | .null, _ | .bool _, _ | .text _, _ | .number _, _ => rfl
  | .array xs, h => readableItems_of_plain xs h
  | .object fs, h => readableFields_of_plain fs h

theorem readableItems_of_plain : (xs : List Json) → plainItems xs = true →
    readableItems xs = true
  | [], _ => rfl
  | x :: xs, h => by
    rw [plainItems, Bool.and_eq_true] at h
    rw [readableItems, readable_of_plain x h.1, readableItems_of_plain xs h.2]
    rfl

theorem readableFields_of_plain : (fs : List (String × Json)) → plainFields fs = true →
    readableFields fs = true
  | [], _ => rfl
  | (_, v) :: fs, h => by
    rw [plainFields, Bool.and_eq_true] at h
    rw [readableFields, readable_of_plain v h.1, readableFields_of_plain fs h.2]
    rfl
end

/-- the symbols of some characters -/
def symbolsOf (cs : List Char) : List Symbol := cs.map some

@[simp] theorem symbolsOf_nil : symbolsOf [] = [] := rfl
@[simp] theorem symbolsOf_cons (c : Char) (cs : List Char) :
    symbolsOf (c :: cs) = some c :: symbolsOf cs := rfl
@[simp] theorem symbolsOf_append (as bs : List Char) :
    symbolsOf (as ++ bs) = symbolsOf as ++ symbolsOf bs := List.map_append

/-! ## strings -/

theorem hexUnit?_control : ∀ n < 0x20,
    hexUnit? '0' '0' (hexDigitChar (n / 16)) (hexDigitChar (n % 16)) = some n := by decide

theorem assemble?_symbol (c : Char) (ps : List Piece) :
    assemble? (.symbol (some c) :: ps) = (assemble? ps).map (c :: ·) := rfl

theorem assemble?_control {n : Nat} (h : n < 0x20) (ps : List Piece) :
    assemble? (.unit n :: ps) = (assemble? ps).map (Char.ofNat n :: ·) := by
  have hhigh : isHighSurrogate n = false := by simp [isHighSurrogate]; omega
  have hlow : isLowSurrogate n = false := by simp [isLowSurrogate]; omega
  cases ps with
  | nil => simp [assemble?, hhigh, hlow]
  | cons p ps => cases p <;> simp [assemble?, hhigh, hlow]

theorem pieces?_short {e x : Char} (hx : shortEscape? e = some x) (tail : List Symbol) :
    pieces? (some '\\' :: some e :: tail)
      = (pieces? tail).map fun (ps, rest) => (.symbol (some x) :: ps, rest) := by
  have hu : e ≠ 'u' := by
    rintro rfl
    exact nomatch hx
  rw [pieces?, hx]
  · cases pieces? tail <;> rfl
  · intro _ _ _ _ _ _ he
    exact hu he

theorem pieces?_control {n : Nat} (h : n < 0x20) (tail : List Symbol) :
    pieces? (symbolsOf ['\\', 'u', '0', '0', hexDigitChar (n / 16), hexDigitChar (n % 16)] ++ tail)
      = (pieces? tail).map fun (ps, rest) => (.unit n :: ps, rest) := by
  show pieces? (some '\\' :: some 'u' :: some '0' :: some '0' :: some _ :: some _ :: tail) = _
  rw [pieces?, hexUnit?_control n h]
  cases pieces? tail <;> rfl

theorem pieces?_plain {c : Char} (hquote : c ≠ '\"') (hslash : c ≠ '\\') (hc : ¬ c.toNat < 0x20)
    (tail : List Symbol) : pieces? (some c :: tail)
      = (pieces? tail).map fun (ps, rest) => (.symbol (some c) :: ps, rest) := by
  rw [pieces?]
  · simp [hslash, hc]
  all_goals simp_all

/-- a character as it stands in a string is one piece, and the piece is the character again -/
theorem exists_piece (c : Char) : ∃ p,
    (∀ tail, pieces? (symbolsOf (escapeChar c) ++ tail)
      = (pieces? tail).map fun (ps, rest) => (p :: ps, rest)) ∧
    ∀ ps, assemble? (p :: ps) = (assemble? ps).map (c :: ·) := by
  have hshort : ∀ e, shortEscape? e = some c → escapeChar c = ['\\', e] → ∃ p,
      (∀ tail, pieces? (symbolsOf (escapeChar c) ++ tail)
        = (pieces? tail).map fun (ps, rest) => (p :: ps, rest)) ∧
      ∀ ps, assemble? (p :: ps) = (assemble? ps).map (c :: ·) := by
    intro e he hescape
    refine ⟨.symbol (some c), fun tail => ?_, assemble?_symbol c⟩
    rw [hescape]
    exact pieces?_short he tail
  by_cases hquote : c = '\"'
  · exact hshort '\"' (by rw [hquote]; rfl) (by rw [hquote]; rfl)
  by_cases hslash : c = '\\'
  · exact hshort '\\' (by rw [hslash]; rfl) (by rw [hslash]; rfl)
  by_cases hb : c = '\x08'
  · exact hshort 'b' (by rw [hb]; rfl) (by rw [hb]; rfl)
  by_cases hf : c = '\x0c'
  · exact hshort 'f' (by rw [hf]; rfl) (by rw [hf]; rfl)
  by_cases hn : c = '\n'
  · exact hshort 'n' (by rw [hn]; rfl) (by rw [hn]; rfl)
  by_cases hr : c = '\r'
  · exact hshort 'r' (by rw [hr]; rfl) (by rw [hr]; rfl)
  by_cases ht : c = '\t'
  · exact hshort 't' (by rw [ht]; rfl) (by rw [ht]; rfl)
  have hescape : escapeChar c = if c.toNat < 0x20 then
      ['\\', 'u', '0', '0', hexDigitChar (c.toNat / 16), hexDigitChar (c.toNat % 16)]
      else [c] := by
    rw [escapeChar, if_neg hquote, if_neg hslash, if_neg hb, if_neg hf, if_neg hn, if_neg hr,
      if_neg ht]
  by_cases hc : c.toNat < 0x20
  · refine ⟨.unit c.toNat, fun tail => ?_, fun ps => ?_⟩
    · rw [hescape, if_pos hc]
      exact pieces?_control hc tail
    · rw [assemble?_control hc, Char.ofNat_toNat]
  · refine ⟨.symbol (some c), fun tail => ?_, assemble?_symbol c⟩
    rw [hescape, if_neg hc]
    exact pieces?_plain hquote hslash hc tail

theorem string?_escapeChars (s : String) (tail : List Symbol) :
    string? (symbolsOf (escapeChars s.toList) ++ some '\"' :: tail) = some (some s, tail) := by
  have hpieces : ∀ cs : List Char, ∃ ps,
      pieces? (symbolsOf (escapeChars cs) ++ some '\"' :: tail) = some (ps, tail) ∧
        assemble? ps = some cs := by
    intro cs
    induction cs with
    | nil => exact ⟨[], rfl, rfl⟩
    | cons c cs ih =>
      obtain ⟨ps, hps, hassemble⟩ := ih
      obtain ⟨p, hp, hchar⟩ := exists_piece c
      refine ⟨p :: ps, ?_, by rw [hchar, hassemble]; rfl⟩
      rw [escapeChars_cons, symbolsOf_append, List.append_assoc, hp, hps]
      rfl
  obtain ⟨ps, hps, hassemble⟩ := hpieces s.toList
  have hstring : (assemble? ps).map String.ofList = some s := by
    rw [hassemble, Option.map_some, String.ofList_toList]
  rw [string?, hps, ← hstring]
  rfl

/-! ## integers -/

/-- what may stand behind a document: nothing, or what ends an item or a field -/
def closes : List Symbol → Bool
  | [] => true
  | x :: _ => x = some ',' || x = some ']' || x = some '\x7d'

/-- the digits that a list of characters stands for -/
def digitsOf (cs : List Char) : List Nat := cs.map fun c => c.toNat - 48

theorem digit?_of_isDigit {c : Char} (h : c.isDigit = true) :
    digit? (some c) = some (c.toNat - 48) := by
  simp only [Char.isDigit, Bool.and_eq_true, decide_eq_true_eq] at h
  exact if_pos h

theorem digits_of_closes {rest : List Symbol} (h : closes rest) : digits rest = ([], rest) := by
  match rest with
  | [] => rfl
  | x :: rest =>
    simp only [closes, Bool.or_eq_true, decide_eq_true_eq] at h
    obtain (rfl | rfl) | rfl := h <;> rfl

theorem digits_append {cs : List Char} (h : ∀ c ∈ cs, c.isDigit = true) {rest : List Symbol}
    (hrest : closes rest) : digits (symbolsOf cs ++ rest) = (digitsOf cs, rest) := by
  induction cs with
  | nil => exact digits_of_closes hrest
  | cons c cs ih =>
    rw [symbolsOf_cons, List.cons_append, digits, digit?_of_isDigit (h c (by simp)),
      ih fun d hd => h d (List.mem_cons_of_mem _ hd)]
    rfl

theorem isDigit_of_mem_digitChars {n : Nat} {c : Char} (h : c ∈ digitChars n) :
    c.isDigit = true :=
  Nat.isDigit_of_mem_toDigits (by decide) (by decide) h

theorem ofDigits_digitsOf_digitChars (n : Nat) : ofDigits (digitsOf (digitChars n)) = n := by
  rw [ofDigits, digitsOf, List.foldl_map]
  exact Nat.ofDigitChars_toDigits (by decide) (by decide)

/-- the decimal digits of a number are a zero alone, or start with none -/
theorem digitChars_front (n : Nat) :
    (∃ d, digitChars n = [d]) ∨ ∃ d ds, digitChars n = d :: ds ∧ d.toNat - 48 ≠ 0 := by
  induction n using Nat.strongRecOn with
  | ind n ih =>
    by_cases hn : n < 10
    · exact .inl ⟨_, Nat.toDigits_of_lt_base hn⟩
    · have hten : 10 ≤ n := Nat.not_lt.mp hn
      have hsplit : digitChars n = digitChars (n / 10) ++ [(n % 10).digitChar] :=
        Nat.toDigits_of_base_le (by decide) hten
      have hlt : n / 10 < n := Nat.div_lt_self (by omega) (by decide)
      right
      obtain ⟨d, hd⟩ | ⟨d, ds, hds, hne⟩ := ih (n / 10) hlt
      · refine ⟨d, [(n % 10).digitChar], by rw [hsplit, hd]; rfl, fun hzero => ?_⟩
        have hvalue := ofDigits_digitsOf_digitChars (n / 10)
        rw [hd] at hvalue
        have hvalue : 10 * 0 + (d.toNat - 48) = n / 10 := hvalue
        omega
      · exact ⟨d, _, by rw [hsplit, hds]; rfl, hne⟩

theorem whole?_of_digits {input rest : List Symbol} {d : Nat} {ds : List Nat}
    (hdigits : digits input = (d :: ds, rest)) (hfront : ds = [] ∨ d ≠ 0) :
    whole? input = some (d :: ds, rest) := by
  rw [whole?, hdigits]
  split
  · next heq => exact nomatch heq
  · next e es heq =>
    obtain ⟨⟨hzero, hmore⟩, -⟩ := by simpa only [Prod.mk.injEq, List.cons.injEq] using heq
    obtain hnil | hne := hfront
    · exact nomatch hmore.symm.trans hnil
    · exact absurd hzero hne
  · next heq => rw [← (Prod.mk.inj heq).1, ← (Prod.mk.inj heq).2]

theorem whole?_digitChars (n : Nat) {rest : List Symbol} (h : closes rest) :
    whole? (symbolsOf (digitChars n) ++ rest) = some (digitsOf (digitChars n), rest) := by
  have hdigits : digits (symbolsOf (digitChars n) ++ rest) = (digitsOf (digitChars n), rest) :=
    digits_append (fun c => isDigit_of_mem_digitChars) h
  obtain ⟨d, hd⟩ | ⟨d, ds, hds, hne⟩ := digitChars_front n
  · rw [hd] at hdigits ⊢
    exact whole?_of_digits hdigits (.inl rfl)
  · rw [hds] at hdigits ⊢
    exact whole?_of_digits hdigits (.inr hne)

/-- behind an integer stands neither a point nor an exponent -/
theorem no_fraction {rest : List Symbol} (h : closes rest) :
    fraction? rest = some (none, rest) ∧ exponent? rest = some (none, rest) := by
  match rest with
  | [] => exact ⟨rfl, rfl⟩
  | x :: rest =>
    simp only [closes, Bool.or_eq_true, decide_eq_true_eq] at h
    obtain (rfl | rfl) | rfl := h <;> exact ⟨rfl, rfl⟩

/-- the numeral of an integer: its sign and its digits -/
def Numeral.ofInt (n : Int) : Numeral where
  negative := n < 0
  whole := digitsOf (digitChars n.natAbs)
  fraction := none
  exponent := none

theorem numeral?_intChars (n : Int) {rest : List Symbol} (h : closes rest) :
    numeral? (symbolsOf (intChars n) ++ rest) = some (Numeral.ofInt n, rest) := by
  obtain ⟨hfraction, hexponent⟩ := no_fraction h
  have hwhole := whole?_digitChars n.natAbs h
  by_cases hn : n < 0
  · rw [intChars, if_pos hn, symbolsOf_cons, List.cons_append, numeral?, Numeral.ofInt,
      decide_eq_true hn]
    simp only [hwhole, hfraction, hexponent, Option.bind_eq_bind, Option.bind_some,
      Option.pure_def]
  · rw [intChars, if_neg hn, Numeral.ofInt, decide_eq_false hn]
    have hplus : ∀ cs, symbolsOf (digitChars n.natAbs) ++ rest ≠ some '-' :: cs := by
      intro cs heq
      have hmem : '-' ∈ digitChars n.natAbs := by
        cases hchars : digitChars n.natAbs with
        | nil => exact absurd hchars Nat.toDigits_ne_nil
        | cons c ds =>
          rw [hchars] at heq
          rw [← Option.some.inj (List.cons.inj heq).1]
          exact List.mem_cons_self
      exact nomatch isDigit_of_mem_digitChars hmem
    generalize symbolsOf (digitChars n.natAbs) ++ rest = input at hwhole hplus ⊢
    unfold numeral?
    split
    next negative body hsign =>
    split at hsign
    · next cs => exact absurd rfl (hplus cs)
    · obtain ⟨rfl, rfl⟩ := Prod.mk.inj hsign
      simp only [hwhole, hfraction, hexponent, Option.bind_eq_bind, Option.bind_some,
        Option.pure_def]

theorem Numeral.number?_ofInt {n : Int} (h : (Number.int n).canonical = true) :
    (Numeral.ofInt n).number? = some (.int n) := by
  simp only [Number.canonical, Bool.and_eq_true, decide_eq_true_eq] at h
  unfold Numeral.number? Numeral.ofInt
  simp only [ofDigits_digitsOf_digitChars]
  by_cases hn : n < 0
  · rw [decide_eq_true hn]
    have hrange : 0 < n.natAbs ∧ n.natAbs ≤ 0x8000000000000000 := by omega
    have hback : -(n.natAbs : Int) = n := by omega
    simp only [if_pos hrange, hback]
  · rw [decide_eq_false hn]
    have hrange : n.natAbs < 0x10000000000000000 := by omega
    have hback : (n.natAbs : Int) = n := by omega
    simp only [if_pos hrange, hback]

/-! ## documents -/

theorem skipBlanks_cons {c : Char} (h : isJsonBlank (some c) = false) (rest : List Symbol) :
    skipBlanks (some c :: rest) = some c :: rest := by
  rw [skipBlanks, List.dropWhile_cons_of_neg (by simp [h])]

/-- an integer starts with its sign or with a digit -/
theorem intChars_front (n : Int) : ∃ c cs, intChars n = c :: cs ∧ (c = '-' ∨ c.isDigit = true) := by
  unfold intChars
  split
  · exact ⟨_, _, rfl, .inl rfl⟩
  · cases hchars : digitChars n.natAbs with
    | nil => exact absurd hchars Nat.toDigits_ne_nil
    | cons c cs =>
      have hmem : c ∈ digitChars n.natAbs := by
        rw [hchars]
        exact List.mem_cons_self
      exact ⟨c, cs, rfl, .inr (isDigit_of_mem_digitChars hmem)⟩

/-- no number starts with a sign or letter by which other documents are known, or with a blank -/
theorem ne_of_numeric {c : Char} (h : c = '-' ∨ c.isDigit = true) :
    ∀ d ∈ ['\"', '[', ']', '\x7b', 'n', 't', 'f', ' ', '\t', '\n', '\r'], c ≠ d := by
  rintro d hd rfl
  have hother : ['\"', '[', ']', '\x7b', 'n', 't', 'f', ' ', '\t', '\n', '\r'].all
      (fun d => d ≠ '-' && !d.isDigit) = true := rfl
  have hc := List.all_eq_true.mp hother c hd
  rw [Bool.and_eq_true, decide_eq_true_eq, Bool.not_eq_true'] at hc
  obtain hsign | hdigit := h
  · exact hc.1 hsign
  · rw [hdigit] at hc
    exact nomatch hc.2

theorem isJsonBlank_of_numeric {c : Char} (h : c = '-' ∨ c.isDigit = true) :
    isJsonBlank (some c) = false := by
  have hne := ne_of_numeric h
  rw [isJsonBlank]
  all_goals exact fun heq => hne _ (by decide) (Option.some.inj heq)

/-- a plain document starts with a character that is no blank and closes nothing -/
theorem exists_front {j : Json} (h : j.plain) : ∃ c cs,
    j.chars = c :: cs ∧ isJsonBlank (some c) = false ∧ c ≠ ']' := by
  cases j with
  | unreadable => exact nomatch h
  | number n =>
    cases n with
    | float x => exact nomatch h
    | int n =>
      obtain ⟨c, cs, hchars, hc⟩ := intChars_front n
      exact ⟨c, cs, hchars, isJsonBlank_of_numeric hc, ne_of_numeric hc _ (by decide)⟩
  | null => exact ⟨'n', _, rfl, rfl, by decide⟩
  | bool b =>
    cases b with
    | true => exact ⟨'t', _, rfl, rfl, by decide⟩
    | false => exact ⟨'f', _, rfl, rfl, by decide⟩
  | text s => exact ⟨'\"', _, rfl, rfl, by decide⟩
  | array xs => exact ⟨'[', _, rfl, rfl, by decide⟩
  | object fs => exact ⟨'\x7b', _, rfl, rfl, by decide⟩

/-- the items of an array, after the first one -/
def moreItems : List Json → List Char
  | [] => []
  | y :: ys => ',' :: itemChars (y :: ys)

theorem itemChars_cons (x : Json) (xs : List Json) :
    itemChars (x :: xs) = x.chars ++ moreItems xs := by
  cases xs with
  | nil => exact (List.append_nil _).symm
  | cons y ys => rfl

/-- the fields of an object, after the first one -/
def moreFields : List (String × Json) → List Char
  | [] => []
  | f :: fs => ',' :: fieldChars (f :: fs)

theorem fieldChars_cons (k : String) (v : Json) (fs : List (String × Json)) :
    fieldChars ((k, v) :: fs) = quoteChars k ++ ':' :: v.chars ++ moreFields fs := by
  cases fs with
  | nil => exact (List.append_nil _).symm
  | cons f fs => rfl

/-- what starts with a sign or a digit is read as a numeral -/
theorem document?_numeral {c : Char} (h : c = '-' ∨ c.isDigit = true) (fuel levels : Nat)
    (input : List Symbol) : document? (fuel + 1) levels (some c :: input)
      = (numeral? (some c :: input)).map fun (t, tail) =>
          (t.number?.elim .unreadable .number, tail) := by
  have hne := ne_of_numeric h
  rw [document?, skipBlanks_cons (isJsonBlank_of_numeric h)]
  split
  iterate 6
    next heq => exact absurd (Option.some.inj (List.cons.inj heq).1) (hne _ (by decide))
  · rfl

/-- an array whose first item starts after its bracket is read item by item -/
theorem document?_array {c : Char} (hblank : isJsonBlank (some c) = false) (hclose : c ≠ ']')
    (fuel levels : Nat) (input : List Symbol) :
    document? (fuel + 1) levels (some '[' :: some c :: input)
      = (items? fuel (levels - 1) (some c :: input)).map fun (xs, tail) =>
          (if levels = 0 then .unreadable else .array xs, tail) := by
  rw [document?, skipBlanks_cons rfl]
  simp only [skipBlanks_cons hblank]
  split
  · rename_i heq
    exact absurd (Option.some.inj (List.cons.inj heq).1) hclose
  · rfl

/-- an object with a field is read field by field -/
theorem document?_object (fuel levels : Nat) (input : List Symbol) :
    document? (fuel + 1) levels (some '\x7b' :: some '\"' :: input)
      = (fields? fuel (levels - 1) (some '\"' :: input)).map fun (fs, tail) =>
          (if levels = 0 then .unreadable else fs.elim .unreadable .object, tail) := by
  rw [document?, skipBlanks_cons rfl]
  rfl

/-- a field whose value is read is read, and what follows decides whether it is the last -/
theorem fields?_field (k : String) {v : Json} {fuel levels : Nat} {tail : List Symbol}
    (hv : document? fuel levels (symbolsOf v.chars ++ tail) = some (v, tail)) :
    fields? (fuel + 1) levels (symbolsOf (quoteChars k ++ ':' :: v.chars) ++ tail)
      = match skipBlanks tail with
        | some ',' :: rest => (fields? fuel levels rest).map fun (fs, rest) =>
            (fs.map ((k, v) :: ·), rest)
        | some '\x7d' :: rest => some (some [(k, v)], rest)
        | _ => none := by
  have hinput : symbolsOf (quoteChars k ++ ':' :: v.chars) ++ tail
      = some '\"' :: (symbolsOf (escapeChars k.toList)
        ++ some '\"' :: some ':' :: (symbolsOf v.chars ++ tail)) := by
    simp [quoteChars]
  rw [fields?, hinput, skipBlanks_cons rfl]
  simp only [string?_escapeChars, skipBlanks_cons (c := ':') rfl, hv]
  rfl

mutual
theorem document?_chars : ∀ (j : Json) (fuel levels : Nat) (rest : List Symbol), j.plain →
    j.depth ≤ levels → 2 * j.chars.length ≤ fuel → closes rest →
      document? fuel levels (symbolsOf j.chars ++ rest) = some (j, rest)
  | j, 0, levels, rest, hj, hdepth, hfuel, hrest => by
    obtain ⟨c, cs, hchars, -⟩ := exists_front hj
    simp [hchars] at hfuel
  | .null, fuel + 1, levels, rest, hj, hdepth, hfuel, hrest => by
    simp [document?, chars, skipBlanks, isJsonBlank, word?]
  | .bool true, fuel + 1, levels, rest, hj, hdepth, hfuel, hrest => by
    simp [document?, chars, skipBlanks, isJsonBlank, word?]
  | .bool false, fuel + 1, levels, rest, hj, hdepth, hfuel, hrest => by
    simp [document?, chars, skipBlanks, isJsonBlank, word?]
  | .number (.int n), fuel + 1, levels, rest, hj, hdepth, hfuel, hrest => by
    have hnumeral := numeral?_intChars n hrest
    obtain ⟨c, cs, hchars, hc⟩ := intChars_front n
    rw [chars, Number.chars, hchars, symbolsOf_cons, List.cons_append]
    rw [hchars, symbolsOf_cons, List.cons_append] at hnumeral
    rw [document?_numeral hc, hnumeral, Option.map_some]
    simp only [Numeral.number?_ofInt hj, Option.elim_some]
  | .text s, fuel + 1, levels, rest, hj, hdepth, hfuel, hrest => by
    simp [document?, chars, quoteChars, skipBlanks, isJsonBlank, string?_escapeChars]
  | .array [], fuel + 1, levels, rest, hj, hdepth, hfuel, hrest => by
    have hlevels : levels ≠ 0 := Nat.ne_of_gt hdepth
    simp [document?, chars, itemChars, skipBlanks, isJsonBlank, hlevels]
  | .array (x :: xs), fuel + 1, levels, rest, hj, hdepth, hfuel, hrest => by
    have hlevels : levels ≠ 0 := Nat.ne_of_gt (Nat.lt_of_lt_of_le (Nat.succ_pos _) hdepth)
    have hitems := items?_itemChars x xs fuel (levels - 1) rest hj
      (Nat.le_sub_one_of_lt hdepth) (by simp [chars] at hfuel; omega)
    obtain ⟨c, cs, hfront, hblank, hclose⟩ :=
      exists_front (Bool.and_eq_true_iff.1 hj).1
    rw [itemChars_cons, hfront] at hitems
    rw [chars, itemChars_cons, hfront]
    simp only [List.cons_append, List.append_assoc, symbolsOf_cons, symbolsOf_append,
      symbolsOf_nil, List.nil_append] at hitems ⊢
    rw [document?_array hblank hclose, hitems]
    simp only [Option.map_some, if_neg hlevels]
  | .object [], fuel + 1, levels, rest, hj, hdepth, hfuel, hrest => by
    have hlevels : levels ≠ 0 := Nat.ne_of_gt hdepth
    simp [document?, chars, fieldChars, skipBlanks, isJsonBlank, hlevels]
  | .object ((k, v) :: fs), fuel + 1, levels, rest, hj, hdepth, hfuel, hrest => by
    have hlevels : levels ≠ 0 := Nat.ne_of_gt (Nat.lt_of_lt_of_le (Nat.succ_pos _) hdepth)
    have hfields := fields?_fieldChars k v fs fuel (levels - 1) rest hj
      (Nat.le_sub_one_of_lt hdepth) (by simp [chars] at hfuel; omega)
    rw [fieldChars_cons, quoteChars] at hfields
    rw [chars, fieldChars_cons, quoteChars]
    simp only [List.cons_append, List.append_assoc, symbolsOf_cons, symbolsOf_append,
      symbolsOf_nil, List.nil_append] at hfields ⊢
    rw [document?_object, hfields]
    simp only [Option.map_some, if_neg hlevels, Option.elim_some]

theorem items?_itemChars : ∀ (x : Json) (xs : List Json) (fuel levels : Nat) (rest : List Symbol),
    plainItems (x :: xs) → depthItems (x :: xs) ≤ levels →
    2 * (itemChars (x :: xs)).length < fuel →
      items? fuel levels (symbolsOf (itemChars (x :: xs)) ++ some ']' :: rest)
        = some (x :: xs, rest)
  | x, xs, 0, levels, rest, hxs, hdepth, hfuel => absurd hfuel (Nat.not_lt_zero _)
  | x, [], fuel + 1, levels, rest, hxs, hdepth, hfuel => by
    have hx := document?_chars x fuel levels (some ']' :: rest)
      (Bool.and_eq_true_iff.1 hxs).1 (Nat.le_trans (Nat.le_max_left _ _) hdepth)
      (by simp [itemChars] at hfuel; omega) rfl
    rw [itemChars, items?, hx]
    rfl
  | x, y :: ys, fuel + 1, levels, rest, hxs, hdepth, hfuel => by
    have hx := document?_chars x fuel levels
      (some ',' :: (symbolsOf (itemChars (y :: ys)) ++ some ']' :: rest))
      (Bool.and_eq_true_iff.1 hxs).1 (Nat.le_trans (Nat.le_max_left _ _) hdepth)
      (by simp [itemChars] at hfuel; omega) rfl
    have hys := items?_itemChars y ys fuel levels rest (Bool.and_eq_true_iff.1 hxs).2
      (Nat.le_trans (Nat.le_max_right _ _) hdepth) (by simp [itemChars] at hfuel ⊢; omega)
    rw [itemChars, items?, symbolsOf_append, symbolsOf_cons, List.append_assoc, List.cons_append,
      hx]
    simp only [skipBlanks_cons (c := ',') rfl, hys]
    rfl

theorem fields?_fieldChars : ∀ (k : String) (v : Json) (fs : List (String × Json))
    (fuel levels : Nat) (rest : List Symbol), plainFields ((k, v) :: fs) →
    depthFields ((k, v) :: fs) ≤ levels → 2 * (fieldChars ((k, v) :: fs)).length < fuel →
      fields? fuel levels (symbolsOf (fieldChars ((k, v) :: fs)) ++ some '\x7d' :: rest)
        = some (some ((k, v) :: fs), rest)
  | k, v, fs, 0, levels, rest, hfs, hdepth, hfuel => absurd hfuel (Nat.not_lt_zero _)
  | k, v, [], fuel + 1, levels, rest, hfs, hdepth, hfuel => by
    have hv := document?_chars v fuel levels (some '\x7d' :: rest)
      (Bool.and_eq_true_iff.1 hfs).1 (Nat.le_trans (Nat.le_max_left _ _) hdepth)
      (by simp [fieldChars] at hfuel; omega) rfl
    rw [fieldChars, fields?_field k hv]
    rfl
  | k, v, (l, w) :: fs, fuel + 1, levels, rest, hfs, hdepth, hfuel => by
    have hv := document?_chars v fuel levels
      (some ',' :: (symbolsOf (fieldChars ((l, w) :: fs)) ++ some '\x7d' :: rest))
      (Bool.and_eq_true_iff.1 hfs).1 (Nat.le_trans (Nat.le_max_left _ _) hdepth)
      (by simp [fieldChars] at hfuel; omega) rfl
    have hws := fields?_fieldChars l w fs fuel levels rest (Bool.and_eq_true_iff.1 hfs).2
      (Nat.le_trans (Nat.le_max_right _ _) hdepth) (by simp [fieldChars] at hfuel ⊢; omega)
    rw [fieldChars, symbolsOf_append, symbolsOf_cons, List.append_assoc, List.cons_append,
      fields?_field k hv, skipBlanks_cons rfl]
    simp only [hws]
    rfl
end

/-- a plain document is read from its text as it was written -/
theorem ofString?_render {j : Json} (h : j.plain) (hdepth : j.depth ≤ maxDepth) :
    ofString? j.render = some j := by
  have hsymbols : Text.Utf8.ofString j.render = symbolsOf j.chars ++ [] := by
    rw [List.append_nil, Text.Utf8.ofString, render, String.toList_ofList]
    rfl
  have hread := document?_chars j (2 * (symbolsOf j.chars ++ []).length + 2) maxDepth [] h
    hdepth (by simp [symbolsOf]) rfl
  rw [ofString?, read?, hsymbols, hread]
  rfl

/-- a reader makes of the text of a document what it makes of the document -/
theorem parse_render {α : Type} (read : Reader α) {j : Json} (h : j.plain)
    (hdepth : j.depth ≤ maxDepth) : parse read j.render = read j := by
  rw [parse, ofString?_render h hdepth]

end ChatRelay.Json
