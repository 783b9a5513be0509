import ChatRelay.Fault
import ChatRelay.Settings.Placeholder
import ChatRelay.Toml.Document
import Mathlib

/-!
# Placeholders, found and replaced

A placeholder is written in one way up to the blanks in it, and no text begins with two of them.  So
a settings text reads in exactly one way as characters that stand for themselves and placeholders:
line by line, from the left, a placeholder wherever one begins, nothing in a line that counts as a
comment.  Expansion takes the pieces of this reading and puts the text of a variable, or the default
where the variable has none, in the place of every placeholder.  Where a placeholder has neither,
the first such one is the problem that is reported.

Lines are told apart by how they begin alone, and variables by whether they hold a text.  So a line
of a string that begins with a hash is left alone, and a variable that is set to other bytes is
treated as one that is not set.

* `placeholder?_eq_some_iff`   what stands between the braces of a placeholder;
* `reads_iff`                  the one reading of a text;
* `fill_eq_ok_iff`, `fill_eq_error_iff`   what becomes of the pieces of a reading;
* `expand_reading`             what becomes of a text;
* `expand_passes_over`         a variable and a line that are not what they are taken for.
-/

namespace ChatRelay.Settings

variable {env : Environment} {p q : Placeholder} {cs line rest w value : List Char}
  {ps qs : List Piece}

/-! ## how placeholders are written -/

/-- a text of blanks -/
def Blanks (cs : List Char) : Prop := ∀ c ∈ cs, Text.isBlank c = true

/-- how a default is written, if there is one -/
inductive WrittenFallback : Option (List Char) → List Char → Prop
  | absent : WrittenFallback none []
  | present {gap value : List Char} (hgap : Blanks gap) (hvalue : '\"' ∉ value) :
      WrittenFallback (some value)
        ('|' :: (gap ++ ("default(\"".toList ++ (value ++ "\")".toList))))

/-- how a placeholder is written -/
inductive Placeholder.Written (p : Placeholder) : List Char → Prop
  | intro {front middle back written : List Char} (hne : p.key ≠ [])
      (hkey : ∀ c ∈ p.key, isKeyChar c = true) (hfront : Blanks front) (hmiddle : Blanks middle)
      (hwritten : WrittenFallback p.fallback written) (hback : Blanks back) :
      p.Written ("\x7b\x7b".toList ++
        (front ++ (p.key ++ (middle ++ (written ++ (back ++ "\x7d\x7d".toList))))))

theorem skipBlanks_append {gap : List Char} (h : Blanks gap) (cs : List Char) :
    skipBlanks (gap ++ cs) = skipBlanks cs :=
  List.dropWhile_append_of_pos h

theorem skipBlanks_of_head {c : Char} (h : Text.isBlank c = false) (cs : List Char) :
    skipBlanks (c :: cs) = c :: cs := by
  rw [skipBlanks, List.dropWhile_cons, if_neg (Bool.eq_false_iff.mp h)]

theorem exists_blanks (cs : List Char) : ∃ gap, Blanks gap ∧ cs = gap ++ skipBlanks cs :=
  ⟨cs.takeWhile Text.isBlank, fun _ hc => List.mem_takeWhile_imp hc,
    List.takeWhile_append_dropWhile.symm⟩

theorem isBlank_of_isKeyChar {c : Char} (h : isKeyChar c = true) : Text.isBlank c = false := by
  simp only [isKeyChar, Char.isAlphanum, Char.isAlpha, Char.isUpper, Char.isLower, Char.isDigit,
    Bool.or_eq_true, Bool.and_eq_true, decide_eq_true_eq] at h
  change (((65 ≤ c.toNat ∧ c.toNat ≤ 90 ∨ 97 ≤ c.toNat ∧ c.toNat ≤ 122) ∨
    48 ≤ c.toNat ∧ c.toNat ≤ 57) ∨ c = '_') ∨ c = '.' at h
  rcases h with (h | rfl) | rfl
  · simp only [Text.isBlank, Bool.or_eq_false_iff, Bool.and_eq_false_iff, decide_eq_false_iff_not,
      beq_eq_false_iff_ne]
    omega
  · decide
  · decide

/-- where a default may stand, there is none unless a bar begins it -/
theorem fallback?_of_head {c : Char} (h : c ≠ '|') (cs : List Char) :
    fallback? (c :: cs) = some (none, c :: cs) := by
  rw [fallback?]
  rintro rest ⟨rfl, -⟩
  exact h rfl

/-- behind a default that is written nothing is looked at -/
theorem fallback?_of_bar {gap : List Char} (hgap : Blanks gap) (hvalue : '\"' ∉ value)
    (rest : List Char) :
    fallback? ('|' :: (gap ++ ("default(\"".toList ++ (value ++ "\")".toList))) ++ rest)
      = some (some value, rest) := by
  have hinside : skipBlanks (gap ++ ("default(\"".toList ++ (value ++ ("\")".toList ++ rest))))
      = "default(\"".toList ++ (value ++ ("\")".toList ++ rest)) := by
    rw [skipBlanks_append hgap]
    exact skipBlanks_of_head (by decide) _
  have hcut : Text.cutAt? '\"' (value ++ ("\")".toList ++ rest)) = some (value, ')' :: rest) :=
    Text.cutAt?_append hvalue _
  simp only [List.cons_append, List.append_assoc, fallback?, hinside, Text.afterStart?_append,
    Option.bind_eq_bind, Option.bind_some, hcut]
  rfl

theorem written_of_fallback? {f : Option (List Char)} (h : fallback? cs = some (f, rest)) :
    ∃ written, WrittenFallback f written ∧ cs = written ++ rest := by
  rw [fallback?.eq_def] at h
  split at h
  · next tail =>
    simp only [Option.bind_eq_bind, Option.bind_eq_some_iff, Option.pure_def, Option.some.injEq,
      Prod.mk.injEq, Prod.exists] at h
    obtain ⟨inside, hinside, value, more, hcut, last, hlast, rfl, rfl⟩ := h
    obtain ⟨gap, hgap, htail⟩ := exists_blanks tail
    refine ⟨_, .present hgap (Text.not_mem_of_cutAt? hcut), ?_⟩
    rw [htail, Text.eq_append_of_afterStart? hinside, Text.eq_append_of_cutAt? hcut,
      Text.eq_append_of_afterStart? hlast]
    simp only [List.cons_append, List.append_assoc]
    rfl
  · obtain ⟨rfl, rfl⟩ := Prod.mk.inj (Option.some.inj h)
    exact ⟨[], .absent, rfl⟩

/-- behind the key of a placeholder nothing follows that could belong to it -/
theorem exists_cons_behind_key {f : Option (List Char)} {middle written back : List Char}
    (hmiddle : Blanks middle) (hwritten : WrittenFallback f written) (hback : Blanks back)
    (rest : List Char) : ∃ c cs, middle ++ (written ++ (back ++ '\x7d' :: rest)) = c :: cs ∧
      isKeyChar c = false := by
  have hblank : ∀ c, Text.isBlank c = true → isKeyChar c = false := fun c hc =>
    Bool.eq_false_iff.mpr fun hkey => absurd hc (Bool.eq_false_iff.mp (isBlank_of_isKeyChar hkey))
  cases middle with
  | cons c middle => exact ⟨c, _, rfl, hblank c (hmiddle c List.mem_cons_self)⟩
  | nil =>
    cases hwritten with
    | present => exact ⟨'|', _, rfl, by decide⟩
    | absent =>
      cases back with
      | cons c back => exact ⟨c, _, rfl, hblank c (hback c List.mem_cons_self)⟩
      | nil => exact ⟨'\x7d', _, rfl, by decide⟩

theorem placeholder?_written (h : p.Written w) (rest : List Char) :
    placeholder? (w ++ rest) = some (p, rest) := by
  obtain ⟨key, f⟩ := p
  cases h with
  | @intro front middle back written hne hkey hfront hmiddle hwritten hback =>
    dsimp only at hne hkey hwritten ⊢
    obtain ⟨k, key, rfl⟩ := List.exists_cons_of_ne_nil hne
    obtain ⟨c, cs, hbehind, hc⟩ :=
      exists_cons_behind_key hmiddle hwritten hback ('\x7d' :: rest)
    have hinside : skipBlanks (front ++ (k :: key ++ c :: cs)) = k :: key ++ c :: cs := by
      rw [skipBlanks_append hfront]
      exact skipBlanks_of_head (isBlank_of_isKeyChar (hkey k List.mem_cons_self)) _
    have htake : (k :: key ++ c :: cs).takeWhile isKeyChar = k :: key := by
      rw [List.takeWhile_append_of_pos hkey, List.takeWhile_cons, if_neg (Bool.eq_false_iff.mp hc),
        List.append_nil]
    have hdrop : (k :: key ++ c :: cs).dropWhile isKeyChar = c :: cs := by
      rw [List.dropWhile_append_of_pos hkey, List.dropWhile_cons, if_neg (Bool.eq_false_iff.mp hc)]
    have hclosing : skipBlanks ('\x7d' :: '\x7d' :: rest) = "\x7d\x7d".toList ++ rest :=
      skipBlanks_of_head (by decide) _
    have hfallback : ∃ tail, fallback? (skipBlanks (c :: cs)) = some (f, tail) ∧
        skipBlanks tail = "\x7d\x7d".toList ++ rest := by
      rw [← hbehind, skipBlanks_append hmiddle]
      cases hwritten with
      | absent =>
        -- without a default the blanks on both sides of its place are skipped at once
        refine ⟨_, ?_, hclosing⟩
        rw [List.nil_append, skipBlanks_append hback, skipBlanks_of_head (by decide)]
        exact fallback?_of_head (by decide) _
      | @present gap value hgap hvalue =>
        refine ⟨back ++ '\x7d' :: '\x7d' :: rest, ?_, by rw [skipBlanks_append hback, hclosing]⟩
        rw [List.cons_append, skipBlanks_of_head (by decide)]
        exact fallback?_of_bar hgap hvalue _
    obtain ⟨tail, htail, hend⟩ := hfallback
    have hwhole : "\x7b\x7b".toList ++ (front ++ (k :: key ++ (middle ++ (written ++
        (back ++ "\x7d\x7d".toList))))) ++ rest
          = "\x7b\x7b".toList ++ (front ++ (k :: key ++ c :: cs)) := by
      rw [← hbehind]
      simp only [List.append_assoc, List.cons_append]
      rfl
    rw [hwhole]
    simp only [placeholder?, Text.afterStart?_append, Option.bind_eq_bind, Option.bind_some,
      hinside, htake, hdrop, htail, hend, List.isEmpty_cons, Bool.false_eq_true, if_false]
    rfl

theorem exists_written_of_placeholder? (h : placeholder? cs = some (p, rest)) :
    ∃ w, p.Written w ∧ cs = w ++ rest := by
  simp only [placeholder?, Option.bind_eq_bind, Option.bind_eq_some_iff, Option.pure_def] at h
  obtain ⟨inside, hinside, h⟩ := h
  split at h
  · exact nomatch h
  · next hne =>
    simp only [Option.bind_eq_some_iff, Option.some.injEq, Prod.mk.injEq,
      Prod.exists] at h
    obtain ⟨f, behind, hfallback, last, hlast, rfl, rfl⟩ := h
    obtain ⟨front, hfront, hkeyed⟩ := exists_blanks inside
    obtain ⟨middle, hmiddle, hbar⟩ :=
      exists_blanks ((skipBlanks inside).dropWhile isKeyChar)
    obtain ⟨written, hwritten, htail⟩ := written_of_fallback? hfallback
    obtain ⟨back, hback, hclosing⟩ := exists_blanks behind
    refine ⟨_, .intro (fun hnil => hne (List.isEmpty_iff.mpr hnil))
      (fun _ hc => List.mem_takeWhile_imp hc) hfront hmiddle hwritten hback, ?_⟩
    calc cs = "\x7b\x7b".toList ++ inside := Text.eq_append_of_afterStart? hinside
      _ = "\x7b\x7b".toList ++ (front ++ ((skipBlanks inside).takeWhile isKeyChar
            ++ (skipBlanks inside).dropWhile isKeyChar)) := by
          rw [List.takeWhile_append_dropWhile, ← hkeyed]
      _ = "\x7b\x7b".toList ++ (front ++ ((skipBlanks inside).takeWhile isKeyChar
            ++ (middle ++ (written ++ (back ++ ("\x7d\x7d".toList ++ last)))))) := by
          rw [← Text.eq_append_of_afterStart? hlast, ← hclosing, ← htail, ← hbar]
      _ = _ := by simp only [List.append_assoc]

/-- a text begins with a placeholder where one is written at its beginning -/
theorem placeholder?_eq_some_iff :
    placeholder? cs = some (p, rest) ↔ ∃ w, p.Written w ∧ cs = w ++ rest := by
  constructor
  · exact exists_written_of_placeholder?
  · rintro ⟨w, hw, rfl⟩
    exact placeholder?_written hw rest

theorem placeholder?_eq_none_iff :
    placeholder? cs = none ↔ ∀ p w, Placeholder.Written p w → ¬ w <+: cs := by
  constructor
  · rintro hnone p w hw ⟨rest, rfl⟩
    exact nomatch hnone.symm.trans (placeholder?_written hw rest)
  · intro h
    refine Option.eq_none_iff_forall_ne_some.mpr fun found hfound => ?_
    obtain ⟨w, hw, rfl⟩ := exists_written_of_placeholder? hfound
    exact h found.1 w hw (List.prefix_append w found.2)

/-! ## the reading of a line -/

/-- a line read from the left: a placeholder wherever one begins, a character where none does -/
inductive Marked : List Char → List Piece → Prop
  | nil : Marked [] []
  | plain {c : Char} {cs : List Char} {ps : List Piece}
      (hnone : ∀ p w, Placeholder.Written p w → ¬ w <+: c :: cs) (h : Marked cs ps) :
      Marked (c :: cs) (.plain c :: ps)
  | hole {p : Placeholder} {w cs : List Char} {ps : List Piece} (hw : p.Written w)
      (h : Marked cs ps) : Marked (w ++ cs) (.hole p :: ps)

theorem piecesFrom_append (w cs : List Char) : piecesFrom w.length (w ++ cs) = pieces cs := by
  induction w with
  | nil => rfl
  | cons c w ih => exact ih

theorem Placeholder.Written.ne_nil (h : p.Written w) : w ≠ [] := by
  cases h
  exact List.cons_ne_nil _ _

theorem pieces_hole (hw : p.Written w) (cs : List Char) :
    pieces (w ++ cs) = .hole p :: pieces cs := by
  obtain ⟨c, w, rfl⟩ := List.exists_cons_of_ne_nil hw.ne_nil
  have hfound : placeholder? (c :: (w ++ cs)) = some (p, cs) := placeholder?_written hw cs
  have hlength : (w ++ cs).length - cs.length = w.length := by
    rw [List.length_append, Nat.add_sub_cancel]
  rw [pieces, List.cons_append, piecesFrom, hfound]
  show Piece.hole p :: piecesFrom ((w ++ cs).length - cs.length) (w ++ cs) = _
  rw [hlength, piecesFrom_append]

theorem pieces_plain {c : Char} (h : placeholder? (c :: cs) = none) :
    pieces (c :: cs) = .plain c :: pieces cs := by
  rw [pieces, piecesFrom, h]
  rfl

theorem marked_pieces (cs : List Char) : Marked cs (pieces cs) := by
  induction hn : cs.length using Nat.strong_induction_on generalizing cs with
  | _ n ih =>
    cases cs with
    | nil => exact .nil
    | cons c cs =>
      cases hfound : placeholder? (c :: cs) with
      | none =>
        rw [pieces_plain hfound]
        exact .plain (placeholder?_eq_none_iff.mp hfound)
          (ih cs.length (by rw [← hn]; exact Nat.lt_succ_self _) cs rfl)
      | some found =>
        obtain ⟨w, hw, hcs⟩ := placeholder?_eq_some_iff.mp hfound
        have hpos : 0 < w.length := List.length_pos_iff.mpr hw.ne_nil
        have hlt : found.2.length < n := by
          rw [← hn, hcs, List.length_append]
          omega
        rw [hcs, pieces_hole hw]
        exact .hole hw (ih found.2.length hlt found.2 rfl)

/-- a line has one reading -/
theorem marked_iff : Marked line ps ↔ ps = pieces line := by
  constructor
  · intro h
    induction h with
    | nil => rfl
    | plain hnone _ ih => rw [pieces_plain (placeholder?_eq_none_iff.mpr hnone), ih]
    | hole hw _ ih => rw [pieces_hole hw, ih]
  · rintro rfl
    exact marked_pieces line

/-! ## the reading of a text -/

/-- a line whose first character that is no blank marks it as a comment -/
def IsCommentLine (line : List Char) : Prop := ∃ gap rest, Blanks gap ∧ line = gap ++ '#' :: rest

/-- the pieces of a line; in a comment every character stands for itself -/
inductive LineReads : List Char → List Piece → Prop
  | comment {line : List Char} (h : IsCommentLine line) : LineReads line (line.map .plain)
  | setting {line : List Char} {ps : List Piece} (hline : ¬ IsCommentLine line)
      (h : Marked line ps) : LineReads line ps

/-- the pieces of a text: those of its lines with line ends of one character between them, also
where the text has line ends of two -/
inductive Reads : List Char → List Piece → Prop
  | last {line : List Char} {ps : List Piece} (hline : '\n' ∉ line) (h : LineReads line ps) :
      Reads line ps
  | short {line rest : List Char} {ps qs : List Piece} (hline : '\n' ∉ line)
      (hreturn : ¬ ['\r'] <:+ line) (h : LineReads line ps) (hrest : Reads rest qs) :
      Reads (line ++ '\n' :: rest) (ps ++ .plain '\n' :: qs)
  | long {line rest : List Char} {ps qs : List Piece} (hline : '\n' ∉ line)
      (h : LineReads line ps) (hrest : Reads rest qs) :
      Reads (line ++ '\r' :: '\n' :: rest) (ps ++ .plain '\n' :: qs)

/-- a line as pieces, comments left alone -/
def linePieces (line : List Char) : List Piece :=
  if isComment line then line.map .plain else pieces line

/-- lines as pieces; behind the last there is no line end to shorten -/
def textPieces : List (List Char) → List Piece
  | [] => []
  | [last] => linePieces last
  | line :: lines => linePieces (dropReturn line) ++ .plain '\n' :: textPieces lines

theorem textPieces_cons {lines : List (List Char)} (h : lines ≠ []) (line : List Char) :
    textPieces (line :: lines)
      = linePieces (dropReturn line) ++ .plain '\n' :: textPieces lines := by
  obtain ⟨next, lines, rfl⟩ := List.exists_cons_of_ne_nil h
  rfl

theorem isComment_iff : isComment line = true ↔ IsCommentLine line := by
  simp only [isComment, decide_eq_true_eq]
  constructor
  · intro hmark
    obtain ⟨gap, hgap, hline⟩ := exists_blanks line
    obtain ⟨rest, hrest⟩ := List.head?_eq_some_iff.mp hmark
    exact ⟨gap, rest, hgap, by rw [← hrest, ← hline]⟩
  · rintro ⟨gap, rest, hgap, rfl⟩
    rw [skipBlanks_append hgap, skipBlanks_of_head (by decide)]
    rfl

theorem lineReads_iff : LineReads line ps ↔ ps = linePieces line := by
  rw [linePieces]
  constructor
  · intro h
    cases h with
    | comment h => rw [if_pos (isComment_iff.mpr h)]
    | setting hline h =>
      rw [if_neg fun hmark => hline (isComment_iff.mp hmark)]
      exact marked_iff.mp h
  · rintro rfl
    split
    · next h => exact .comment (isComment_iff.mp h)
    · next h => exact .setting (fun hline => h (isComment_iff.mpr hline)) (marked_pieces line)

theorem dropReturn_append (line : List Char) : dropReturn (line ++ ['\r']) = line := by
  rw [dropReturn, if_pos List.getLast?_concat, List.dropLast_concat]

theorem dropReturn_of_not_suffix (h : ¬ ['\r'] <:+ line) : dropReturn line = line := by
  rw [dropReturn, if_neg]
  intro hlast
  obtain ⟨front, hfront⟩ := List.getLast?_eq_some_iff.mp hlast
  exact h ⟨front, hfront.symm⟩

theorem isBreak_of_not_mem (h : '\n' ∉ line) : ∀ c ∈ line, decide (c = '\n') = false :=
  fun _ hc => decide_eq_false fun e => h (e ▸ hc)

theorem textPieces_of_reads (h : Reads cs ps) : ps = textPieces (Text.split (· = '\n') cs) := by
  induction h with
  | last hline h =>
    rw [Text.split_of_forall (isBreak_of_not_mem hline)]
    exact lineReads_iff.mp h
  | short hline hreturn h _ ih =>
    rw [Text.split_append (isBreak_of_not_mem hline) (decide_eq_true rfl),
      textPieces_cons (Text.split_ne_nil _ _), dropReturn_of_not_suffix hreturn, ← ih,
      lineReads_iff.mp h]
  | @long line rest ps qs hline h _ ih =>
    have hwith : '\n' ∉ line ++ ['\r'] := fun hmem =>
      (List.mem_append.mp hmem).elim hline (by decide)
    have hsplit : Text.split (· = '\n') (line ++ '\r' :: '\n' :: rest)
        = (line ++ ['\r']) :: Text.split (· = '\n') rest := by
      rw [← Text.split_append (isBreak_of_not_mem hwith) (decide_eq_true rfl), List.append_assoc]
      rfl
    rw [hsplit, textPieces_cons (Text.split_ne_nil _ _), dropReturn_append, ← ih,
      lineReads_iff.mp h]

theorem reads_glue {lines : List (List Char)} (hne : lines ≠ [])
    (hlines : ∀ line ∈ lines, '\n' ∉ line) : Reads (Text.glue '\n' lines) (textPieces lines) := by
  induction lines with
  | nil => exact absurd rfl hne
  | cons line lines ih =>
    have hline : '\n' ∉ line := hlines line List.mem_cons_self
    by_cases hnil : lines = []
    · subst hnil
      exact .last hline (lineReads_iff.mpr rfl)
    · have hrest := ih hnil fun l hl => hlines l (List.mem_cons_of_mem line hl)
      rw [Text.glue_cons hnil, textPieces_cons hnil]
      by_cases hreturn : ['\r'] <:+ line
      · obtain ⟨front, rfl⟩ := hreturn
        have hfront : '\n' ∉ front := fun hmem => hline (List.mem_append_left _ hmem)
        rw [dropReturn_append, List.append_assoc]
        exact .long hfront (lineReads_iff.mpr rfl) hrest
      · rw [dropReturn_of_not_suffix hreturn]
        exact .short hline hreturn (lineReads_iff.mpr rfl) hrest

/-- a text has one reading -/
theorem reads_iff : Reads cs ps ↔ ps = textPieces (Text.split (· = '\n') cs) := by
  constructor
  · exact textPieces_of_reads
  · rintro rfl
    have hlines : ∀ line ∈ Text.split (· = '\n') cs, '\n' ∉ line := fun line hline hmem =>
      absurd (Text.sep_of_mem_split hline '\n' hmem) (by decide)
    have hreads := reads_glue (Text.split_ne_nil _ cs) hlines
    rwa [Text.glue_split] at hreads

/-! ## what becomes of the pieces -/

/-- the key means the variable `name` -/
structure Placeholder.Names (p : Placeholder) (name : List Char) : Prop where
  key : p.key = "env.".toList ++ name
  ne_nil : name ≠ []
  undotted : '.' ∉ name

/-- there is something to put in the place of a placeholder -/
def Resolves (env : Environment) (p : Placeholder) : Prop :=
  ∃ name, p.Names name ∧ (env.text? (String.ofList name) ≠ none ∨ p.fallback ≠ none)

/-- what a piece becomes: the text of the variable, and the default only where it has none -/
inductive Fills (env : Environment) : Piece → List Char → Prop
  | plain (c : Char) : Fills env (.plain c) [c]
  | value {p : Placeholder} {name : List Char} {value : String} (hname : p.Names name)
      (hset : env.text? (String.ofList name) = some value) : Fills env (.hole p) value.toList
  | fallback {p : Placeholder} {name value : List Char} (hname : p.Names name)
      (hunset : env.text? (String.ofList name) = none) (hdefault : p.fallback = some value) :
      Fills env (.hole p) value

/-- why there is nothing to put in the place of a placeholder -/
inductive Lacks (env : Environment) (p : Placeholder) : PlaceholderProblem → Prop
  | scope (h : ∀ name, ¬ p.Names name) : Lacks env p (.scope (String.ofList p.key))
  | unset {name : List Char} (hname : p.Names name)
      (hunset : env.text? (String.ofList name) = none) (hdefault : p.fallback = none) :
      Lacks env p (.unset (String.ofList name))

theorem Placeholder.Names.unique {name other : List Char} (h : p.Names name)
    (hother : p.Names other) : name = other :=
  List.append_cancel_left (h.key.symm.trans hother.key)

theorem variableName?_eq_some_iff {n : String} :
    variableName? p.key = some n ↔ ∃ name, p.Names name ∧ n = String.ofList name := by
  constructor
  · intro h
    rw [variableName?] at h
    split at h
    · next name hname =>
      split at h
      · exact nomatch h
      · next hbad =>
        simp only [Bool.or_eq_true, List.isEmpty_iff, List.contains_iff_mem, not_or] at hbad
        exact ⟨name, ⟨Text.eq_append_of_afterStart? hname, hbad.1, hbad.2⟩,
          (Option.some.inj h).symm⟩
    · exact nomatch h
  · rintro ⟨name, ⟨hkey, hne, hdot⟩, rfl⟩
    rw [variableName?, hkey, Text.afterStart?_append]
    refine if_neg ?_
    simp only [Bool.or_eq_true, List.isEmpty_iff, List.contains_iff_mem, not_or]
    exact ⟨hne, hdot⟩

theorem variableName?_of_names {name : List Char} (h : p.Names name) :
    variableName? p.key = some (String.ofList name) :=
  variableName?_eq_some_iff.mpr ⟨name, h, rfl⟩

theorem resolve_eq_ok_iff : resolve env p = .ok value ↔ Fills env (.hole p) value := by
  constructor
  · intro h
    rw [resolve] at h
    split at h
    · exact nomatch h
    · next n hn =>
      obtain ⟨name, hname, rfl⟩ := variableName?_eq_some_iff.mp hn
      split at h
      · next _ _ value _ hset =>
        obtain rfl := Except.ok.inj h
        exact .value hname hset
      · next unset default hunset hdefault =>
        obtain rfl := Except.ok.inj h
        exact .fallback hname hunset hdefault
      · exact nomatch h
  · intro h
    cases h with
    | value hname hset => simp only [resolve, variableName?_of_names hname, hset]
    | fallback hname hunset hdefault =>
      simp only [resolve, variableName?_of_names hname, hunset, hdefault]

theorem resolve_eq_error_iff {e : PlaceholderProblem} :
    resolve env p = .error e ↔ Lacks env p e := by
  constructor
  · intro h
    rw [resolve] at h
    split at h
    · next hnone =>
      obtain rfl := Except.error.inj h
      exact .scope fun name hname => nomatch hnone.symm.trans (variableName?_of_names hname)
    · next n hn =>
      obtain ⟨name, hname, rfl⟩ := variableName?_eq_some_iff.mp hn
      split at h
      · exact nomatch h
      · exact nomatch h
      · next hunset hdefault =>
        obtain rfl := Except.error.inj h
        exact .unset hname hunset hdefault
  · intro h
    cases h with
    | scope hno =>
      have hnone : variableName? p.key = none :=
        Option.eq_none_iff_forall_ne_some.mpr fun n hn =>
          (variableName?_eq_some_iff.mp hn).elim fun name hname => hno name hname.1
      simp only [resolve, hnone]
    | unset hname hunset hdefault =>
      simp only [resolve, variableName?_of_names hname, hunset, hdefault]

theorem resolves_iff : Resolves env p ↔ ∃ value, resolve env p = .ok value := by
  constructor
  · rintro ⟨name, hname, hvalue⟩
    cases hset : env.text? (String.ofList name) with
    | some value => exact ⟨_, resolve_eq_ok_iff.mpr (.value hname hset)⟩
    | none =>
      obtain ⟨value, hdefault⟩ :=
        Option.ne_none_iff_exists'.mp (hvalue.resolve_left fun h => h hset)
      exact ⟨_, resolve_eq_ok_iff.mpr (.fallback hname hset hdefault)⟩
  · rintro ⟨value, h⟩
    cases resolve_eq_ok_iff.mp h with
    | value hname hset => exact ⟨_, hname, .inl (by rw [hset]; exact nofun)⟩
    | fallback hname _ hdefault => exact ⟨_, hname, .inr (by rw [hdefault]; exact nofun)⟩

/-- what a piece becomes, computed -/
def Piece.filling (env : Environment) : Piece → Except PlaceholderProblem (List Char)
  | .plain c => .ok [c]
  | .hole p => resolve env p

theorem filling_eq_ok_iff {piece : Piece} :
    piece.filling env = .ok value ↔ Fills env piece value := by
  cases piece with
  | plain c =>
    constructor
    · intro h
      obtain rfl := Except.ok.inj h
      exact .plain c
    · rintro ⟨⟩
      rfl
  | hole p => exact resolve_eq_ok_iff

theorem fill_cons (piece : Piece) (ps : List Piece) :
    fill env (piece :: ps)
      = piece.filling env >>= fun part => (fill env ps).map (part ++ ·) := by
  cases piece with
  | plain c =>
    rw [fill]
    cases fill env ps <;> rfl
  | hole p =>
    rw [fill, Piece.filling]
    cases resolve env p <;> cases fill env ps <;> rfl

theorem fill_append (ps qs : List Piece) :
    fill env (ps ++ qs) = fill env ps >>= fun front => (fill env qs).map (front ++ ·) := by
  induction ps with
  | nil =>
    show fill env qs = (fill env qs).map ([] ++ ·)
    cases fill env qs <;> rfl
  | cons piece ps ih =>
    rw [List.cons_append, fill_cons, fill_cons, ih]
    cases piece.filling env with
    | error e => rfl
    | ok part =>
      cases fill env ps with
      | error e => rfl
      | ok front =>
        cases fill env qs with
        | error e => rfl
        | ok back => exact congrArg Except.ok (List.append_assoc part front back).symm

theorem fill_map_plain (cs : List Char) : fill env (cs.map .plain) = .ok cs := by
  induction cs with
  | nil => rfl
  | cons c cs ih =>
    rw [List.map_cons, fill_cons, ih]
    rfl

/-- where every placeholder has something for its place, the pieces become that -/
theorem fill_eq_ok_iff {out : List Char} :
    fill env ps = .ok out ↔ ∃ parts, List.Forall₂ (Fills env) ps parts ∧ out = parts.flatten := by
  induction ps generalizing out with
  | nil =>
    constructor
    · intro h
      exact ⟨[], .nil, (Except.ok.inj h).symm⟩
    · rintro ⟨parts, hparts, rfl⟩
      rw [List.forall₂_nil_left_iff.mp hparts]
      rfl
  | cons piece ps ih =>
    rw [fill_cons]
    constructor
    · intro h
      obtain ⟨part, hpart, h⟩ := ok_of_bind h
      obtain ⟨rest, hrest, rfl⟩ := ok_of_map h
      obtain ⟨parts, hparts, rfl⟩ := ih.mp hrest
      exact ⟨part :: parts, .cons (filling_eq_ok_iff.mp hpart) hparts, rfl⟩
    · rintro ⟨_, hparts, rfl⟩
      cases hparts with
      | @cons _ part _ parts hpart hparts =>
        rw [filling_eq_ok_iff.mpr hpart, ih.mpr ⟨parts, hparts, rfl⟩]
        rfl

/-- the first placeholder that has nothing for its place is the problem -/
theorem fill_eq_error_iff {e : PlaceholderProblem} :
    fill env ps = .error e ↔ ∃ before p after, ps = before ++ .hole p :: after ∧
      (∀ q, .hole q ∈ before → Resolves env q) ∧ Lacks env p e := by
  constructor
  · intro h
    induction ps with
    | nil => exact nomatch h
    | cons piece ps ih =>
      rw [fill_cons] at h
      cases hpart : piece.filling env with
      | error problem =>
        rw [hpart] at h
        obtain rfl := Except.error.inj h
        cases piece with
        | plain c => exact nomatch hpart
        | hole p =>
          exact ⟨[], p, ps, rfl, fun q hq => absurd hq List.not_mem_nil,
            resolve_eq_error_iff.mp hpart⟩
      | ok part =>
        rw [hpart] at h
        cases hrest : fill env ps with
        | ok rest =>
          rw [hrest] at h
          exact nomatch h
        | error problem =>
          rw [hrest] at h
          obtain rfl := Except.error.inj h
          obtain ⟨before, p, after, rfl, hbefore, hlacks⟩ := ih hrest
          refine ⟨piece :: before, p, after, rfl, fun q hq => ?_, hlacks⟩
          rcases List.mem_cons.mp hq with rfl | hq
          · exact resolves_iff.mpr ⟨part, hpart⟩
          · exact hbefore q hq
  · rintro ⟨before, p, after, rfl, hbefore, hlacks⟩
    induction before with
    | nil =>
      rw [List.nil_append, fill_cons, Piece.filling, resolve_eq_error_iff.mpr hlacks]
      rfl
    | cons piece before ih =>
      have hpiece : ∃ part, piece.filling env = .ok part := by
        cases piece with
        | plain c => exact ⟨[c], rfl⟩
        | hole q => exact resolves_iff.mp (hbefore q List.mem_cons_self)
      obtain ⟨part, hpart⟩ := hpiece
      rw [List.cons_append, fill_cons, hpart,
        ih fun q hq => hbefore q (List.mem_cons_of_mem piece hq)]
      rfl

theorem exists_fill_iff :
    (∃ out, fill env ps = .ok out) ↔ ∀ p, .hole p ∈ ps → Resolves env p := by
  constructor
  · rintro ⟨out, h⟩ p hp
    obtain ⟨before, after, rfl⟩ := List.append_of_mem hp
    rw [fill_append] at h
    obtain ⟨front, -, h⟩ := ok_of_bind h
    obtain ⟨back, hback, -⟩ := ok_of_map h
    rw [fill_cons] at hback
    obtain ⟨value, hvalue, -⟩ := ok_of_bind hback
    exact resolves_iff.mpr ⟨value, hvalue⟩
  · intro h
    cases hfill : fill env ps with
    | ok out => exact ⟨out, rfl⟩
    | error e =>
      obtain ⟨before, p, after, rfl, -, hlacks⟩ := fill_eq_error_iff.mp hfill
      obtain ⟨value, hvalue⟩ :=
        resolves_iff.mp (h p (List.mem_append_right before List.mem_cons_self))
      exact nomatch hvalue.symm.trans (resolve_eq_error_iff.mpr hlacks)

/-! ## what becomes of a text -/

theorem expandLine_eq (line : List Char) : expandLine env line = fill env (linePieces line) := by
  rw [expandLine, linePieces]
  split
  · exact (fill_map_plain line).symm
  · rfl

theorem expandLines_cons {lines : List (List Char)} (h : lines ≠ []) (line : List Char) :
    expandLines env (line :: lines) = do
      let first ← expandLine env (dropReturn line)
      return first :: (← expandLines env lines) := by
  obtain ⟨next, lines, rfl⟩ := List.exists_cons_of_ne_nil h
  rfl

theorem length_of_expandLines {lines out : List (List Char)}
    (h : expandLines env lines = .ok out) : out.length = lines.length := by
  induction lines generalizing out with
  | nil =>
    obtain rfl := Except.ok.inj h
    rfl
  | cons line lines ih =>
    by_cases hnil : lines = []
    · subst hnil
      obtain ⟨last, -, h⟩ := ok_of_bind h
      obtain rfl := Except.ok.inj h
      rfl
    · rw [expandLines_cons hnil] at h
      obtain ⟨first, -, h⟩ := ok_of_bind h
      obtain ⟨rest, hrest, h⟩ := ok_of_bind h
      obtain rfl := Except.ok.inj h
      rw [List.length_cons, List.length_cons, ih hrest]

/-- lines are expanded as the pieces of the text that they make up -/
theorem map_glue_expandLines (lines : List (List Char)) :
    (expandLines env lines).map (Text.glue '\n') = fill env (textPieces lines) := by
  induction lines with
  | nil => rfl
  | cons line lines ih =>
    by_cases hnil : lines = []
    · subst hnil
      rw [textPieces, ← expandLine_eq, expandLines]
      cases expandLine env line <;> rfl
    · rw [expandLines_cons hnil, textPieces_cons hnil, fill_append, fill_cons, ← ih,
        ← expandLine_eq]
      cases expandLine env (dropReturn line) with
      | error e => rfl
      | ok first =>
        cases hrest : expandLines env lines with
        | error e => rfl
        | ok rest =>
          have hne : rest ≠ [] := fun h => hnil (List.length_eq_zero_iff.mp
            ((length_of_expandLines hrest).symm.trans (congrArg List.length h)))
          exact congrArg Except.ok (Text.glue_cons hne '\n')

theorem expand_eq (s : String) :
    expand env s = (fill env (textPieces (Text.split (· = '\n') s.toList))).map String.ofList := by
  rw [← map_glue_expandLines, expand]
  cases expandLines env (Text.split (· = '\n') s.toList) <;> rfl

/-- **Texts with placeholders.**  A text has one reading as characters and placeholders.  Expansion
succeeds exactly where every placeholder of the reading names a variable that has a text or has a
default; the result is then what the pieces become, one after the other.  Otherwise the problem is
that of the first placeholder for which it is not so. -/
theorem expand_reading (env : Environment) (s : String) :
    ∃ ps, (∀ qs, Reads s.toList qs ↔ qs = ps) ∧
      ((∃ t, expand env s = .ok t) ↔ ∀ p, .hole p ∈ ps → Resolves env p) ∧
      (∀ t, expand env s = .ok t ↔
        ∃ parts, List.Forall₂ (Fills env) ps parts ∧ t.toList = parts.flatten) ∧
      (∀ e, expand env s = .error e ↔ ∃ before p after, ps = before ++ .hole p :: after ∧
        (∀ q, .hole q ∈ before → Resolves env q) ∧ Lacks env p e) := by
  refine ⟨textPieces (Text.split (· = '\n') s.toList), fun qs => reads_iff, ?_, fun t => ?_,
    fun e => ?_⟩
  · rw [expand_eq, ← exists_fill_iff]
    constructor
    · rintro ⟨t, h⟩
      obtain ⟨out, hout, -⟩ := ok_of_map h
      exact ⟨out, hout⟩
    · rintro ⟨out, hout⟩
      exact ⟨String.ofList out, by rw [hout]; rfl⟩
  · rw [expand_eq, ← fill_eq_ok_iff]
    constructor
    · intro h
      obtain ⟨out, hout, rfl⟩ := ok_of_map h
      rw [hout, String.toList_ofList]
    · intro h
      rw [h]
      exact congrArg Except.ok String.ofList_toList
  · rw [expand_eq, ← fill_eq_error_iff]
    cases fill env (textPieces (Text.split (· = '\n') s.toList)) with
    | error problem =>
      exact ⟨fun h => congrArg _ (Except.error.inj h), fun h => congrArg _ (Except.error.inj h)⟩
    | ok out => exact ⟨nofun, nofun⟩

example : expand [("A", .text "\x7b\x7benv.B\x7d\x7d")]
    "\x7b\x7b\x7b env.A |default(\"\")\x7d\x7d\r\n #\x7b\x7benv.C\x7d\x7d\n"
      = .ok "\x7b\x7b\x7benv.B\x7d\x7d\n #\x7b\x7benv.C\x7d\x7d\n" := by decide +kernel

/-- a variable that is set, but to no text, is passed over for the default, and told as not being
set where there is none; a line that begins with a hash is passed over within a string as well,
where it is no comment: the value of the field is then the placeholder itself -/
theorem expand_passes_over :
    expand [("A", .noText)] "k = \"\x7b\x7b env.A | default(\"d\") \x7d\x7d\""
      = .ok "k = \"d\"" ∧
    expand [("A", .noText)] "k = \"\x7b\x7b env.A \x7d\x7d\"" = .error (.unset "A") ∧
    expand [("A", .text "v")] "k = \"\"\"\n# \x7b\x7b env.A \x7d\x7d\n\"\"\"\n"
      = .ok "k = \"\"\"\n# \x7b\x7b env.A \x7d\x7d\n\"\"\"\n" ∧
    Toml.read? "k = \"\"\"\n# \x7b\x7b env.A \x7d\x7d\n\"\"\"\n"
      = some (.object [("k", .text "# \x7b\x7b env.A \x7d\x7d\n")]) := by
  refine ⟨?_, ?_, ?_, ?_⟩ <;> decide +kernel

end ChatRelay.Settings
