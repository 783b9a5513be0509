/-!
# Cutting texts

* `afterStart?`   what follows a given start;
* `beforeEnd?`    what precedes a given end;
* `cutAt?`        the two sides of the first occurrence of a character;
* `contains`      whether a text occurs inside another;
* `split`, `glue` the stretches between separators, and back.
-/

namespace ChatRelay.Text

/-- what follows `start`, none where the text does not begin so -/
def afterStart? : (start : List Char) → List Char → Option (List Char)
  | [], cs => some cs
  | _ :: _, [] => none
  | s :: start, c :: cs => if s = c then afterStart? start cs else none

/-- what precedes `ending`, none where the text does not end so -/
def beforeEnd? (ending cs : List Char) : Option (List Char) :=
  (afterStart? ending.reverse cs.reverse).map List.reverse

/-- the characters before and after the first `c` -/
def cutAt? (c : Char) : List Char → Option (List Char × List Char)
  | [] => none
  | x :: xs =>
    if x = c then some ([], xs)
    else (cutAt? c xs).map fun (before, after) => (x :: before, after)

/-- whether `part` stands at some place of a text -/
def containsChars (part : List Char) : List Char → Bool
  | [] => part.isEmpty
  | c :: cs => part.isPrefixOf (c :: cs) || containsChars part cs

/-- whether `part` occurs in a text -/
def contains (s part : String) : Bool := containsChars part.toList s.toList

/-- texts with a separator between them -/
def join (separator : String) : List String → String
  | [] => ""
  | [s] => s
  | s :: t :: rest => s ++ separator ++ join separator (t :: rest)

/-- the stretches of a text between the characters that a test accepts, at least one -/
def split (sep : Char → Bool) : List Char → List (List Char)
  | [] => [[]]
  | c :: cs =>
    if sep c then [] :: split sep cs
    else
      match split sep cs with
      | part :: parts => (c :: part) :: parts
      | [] => [[c]]

/-- texts with a character between them -/
def glue (sep : Char) : List (List Char) → List Char
  | [] => []
  | [part] => part
  | part :: parts => part ++ sep :: glue sep parts

theorem split_ne_nil (sep : Char → Bool) (cs : List Char) : split sep cs ≠ [] := by
  cases cs with
  | nil => simp [split]
  | cons c cs =>
    simp only [split]
    split
    · simp
    · split <;> simp

theorem glue_cons_cons (sep : Char) (c : Char) (part : List Char) (parts : List (List Char)) :
    glue sep ((c :: part) :: parts) = c :: glue sep (part :: parts) := by
  cases parts <;> rfl

/-- stretches between one character glued together again give the text back -/
theorem glue_split (c : Char) (cs : List Char) : glue c (split (· = c) cs) = cs := by
  induction cs with
  | nil => rfl
  | cons x xs ih =>
    simp only [split, decide_eq_true_eq]
    split
    · next h =>
      subst h
      match hs : split (· = x) xs, ih with
      | [], _ => exact absurd hs (split_ne_nil _ _)
      | part :: parts, ih => simpa [glue] using ih
    · match hs : split (· = c) xs, ih with
      | [], _ => exact absurd hs (split_ne_nil _ _)
      | part :: parts, ih => simp [glue_cons_cons, ih]

theorem afterStart?_append (start cs : List Char) : afterStart? start (start ++ cs) = some cs := by
  induction start with
  | nil => rfl
  | cons s start ih => simp [afterStart?, ih]

theorem eq_append_of_afterStart? {start cs rest : List Char}
    (h : afterStart? start cs = some rest) : cs = start ++ rest := by
  fun_induction afterStart? start cs with
  | case1 cs => simpa using h
  | case2 => simp at h
  | case3 start s cs ih => simp [ih h]
  | case4 => simp at h

theorem afterStart?_eq_none_iff {start cs : List Char} :
    afterStart? start cs = none ↔ ¬ start <+: cs := by
  constructor
  · rintro h ⟨rest, rfl⟩
    rw [afterStart?_append] at h
    exact nomatch h
  · intro h
    cases hrest : afterStart? start cs with
    | none => rfl
    | some rest => exact absurd ⟨rest, (eq_append_of_afterStart? hrest).symm⟩ h

theorem beforeEnd?_append (cs ending : List Char) : beforeEnd? ending (cs ++ ending) = some cs := by
  rw [beforeEnd?, List.reverse_append, afterStart?_append, Option.map_some, List.reverse_reverse]

theorem eq_append_of_beforeEnd? {ending cs front : List Char}
    (h : beforeEnd? ending cs = some front) : cs = front ++ ending := by
  obtain ⟨rest, hrest, rfl⟩ := Option.map_eq_some_iff.mp h
  have hcs : cs.reverse = ending.reverse ++ rest := eq_append_of_afterStart? hrest
  rw [← List.reverse_reverse cs, hcs, List.reverse_append, List.reverse_reverse]

theorem cutAt?_append {c : Char} {before : List Char} (h : c ∉ before) (after : List Char) :
    cutAt? c (before ++ c :: after) = some (before, after) := by
  induction before with
  | nil => simp [cutAt?]
  | cons x xs ih =>
    simp only [List.mem_cons, not_or] at h
    simp [cutAt?, Ne.symm h.1, ih h.2]

theorem not_mem_of_cutAt? {c : Char} {cs before after : List Char}
    (h : cutAt? c cs = some (before, after)) : c ∉ before := by
  induction cs generalizing before after with
  | nil => exact nomatch h
  | cons x xs ih =>
    rw [cutAt?] at h
    split at h
    · obtain rfl : [] = before := congrArg Prod.fst (Option.some.inj h)
      exact List.not_mem_nil
    · next hx =>
      obtain ⟨⟨front, back⟩, hfront, hpair⟩ := Option.map_eq_some_iff.mp h
      obtain rfl : x :: front = before := congrArg Prod.fst hpair
      rw [List.mem_cons, not_or]
      exact ⟨fun e => hx e.symm, ih hfront⟩

theorem eq_append_of_cutAt? {c : Char} {cs before after : List Char}
    (h : cutAt? c cs = some (before, after)) : cs = before ++ c :: after := by
  induction cs generalizing before after with
  | nil => exact nomatch h
  | cons x xs ih =>
    rw [cutAt?] at h
    split at h
    · next hx =>
      obtain ⟨rfl, rfl⟩ := Prod.mk.inj (Option.some.inj h)
      rw [hx, List.nil_append]
    · obtain ⟨⟨front, back⟩, hfront, hpair⟩ := Option.map_eq_some_iff.mp h
      obtain ⟨rfl, rfl⟩ := Prod.mk.inj hpair
      rw [ih hfront, List.cons_append]

/-- nothing is cut where the character does not stand -/
theorem cutAt?_of_forall_ne {x : Char} {cs : List Char} (h : ∀ c ∈ cs, c ≠ x) :
    cutAt? x cs = none := by
  induction cs with
  | nil => rfl
  | cons c cs ih =>
    rw [cutAt?, if_neg (h c List.mem_cons_self), ih fun y hy => h y (List.mem_cons_of_mem c hy)]
    rfl

theorem split_of_forall {sep : Char → Bool} {part : List Char} (h : ∀ c ∈ part, sep c = false) :
    split sep part = [part] := by
  induction part with
  | nil => rfl
  | cons c part ih =>
    have hc : ¬ sep c = true := by rw [h c List.mem_cons_self]; exact Bool.false_ne_true
    rw [split, if_neg hc, ih fun x hx => h x (List.mem_cons_of_mem c hx)]

/-- a separator stands in none of the stretches -/
theorem sep_of_mem_split {sep : Char → Bool} {cs part : List Char} (h : part ∈ split sep cs) :
    ∀ c ∈ part, sep c = false := by
  induction cs generalizing part with
  | nil =>
    obtain rfl : part = [] := List.mem_singleton.mp h
    exact fun c hc => absurd hc List.not_mem_nil
  | cons x cs ih =>
    rw [split] at h
    split at h
    · rcases List.mem_cons.mp h with rfl | h
      · exact fun c hc => absurd hc List.not_mem_nil
      · exact ih h
    · next hx =>
      match hs : split sep cs, h with
      | [], _ => exact absurd hs (split_ne_nil sep cs)
      | front :: parts, h =>
        rcases List.mem_cons.mp h with rfl | h
        · intro c hc
          rcases List.mem_cons.mp hc with rfl | hc
          · exact Bool.eq_false_iff.mpr hx
          · exact ih (hs ▸ List.mem_cons_self) c hc
        · exact ih (hs ▸ List.mem_cons_of_mem front h)

/-- a character is a separator or stands in one of the stretches -/
theorem mem_split_of_mem (sep : Char → Bool) {c : Char} {cs : List Char} (h : c ∈ cs) :
    sep c = true ∨ ∃ part ∈ split sep cs, c ∈ part := by
  induction cs with
  | nil => exact nomatch h
  | cons x cs ih =>
    by_cases hx : sep x = true
    · rw [split, if_pos hx]
      rcases List.mem_cons.mp h with rfl | h
      · exact .inl hx
      · exact (ih h).imp_right fun ⟨part, hpart, hc⟩ => ⟨part, List.mem_cons_of_mem [] hpart, hc⟩
    · obtain ⟨front, parts, hs⟩ := List.exists_cons_of_ne_nil (split_ne_nil sep cs)
      rw [split, if_neg hx, hs]
      rw [hs] at ih
      rcases List.mem_cons.mp h with rfl | h
      · exact .inr ⟨_, List.mem_cons_self, List.mem_cons_self⟩
      · refine (ih h).imp_right fun ⟨part, hpart, hc⟩ => ?_
        rcases List.mem_cons.mp hpart with rfl | hpart
        · exact ⟨_, List.mem_cons_self, List.mem_cons_of_mem x hc⟩
        · exact ⟨part, List.mem_cons_of_mem _ hpart, hc⟩

theorem mem_of_mem_split {sep : Char → Bool} {c : Char} {cs part : List Char}
    (h : part ∈ split sep cs) (hc : c ∈ part) : c ∈ cs := by
  induction cs generalizing part with
  | nil =>
    obtain rfl := List.mem_singleton.mp h
    exact hc
  | cons x cs ih =>
    rw [split] at h
    split at h
    · rcases List.mem_cons.mp h with rfl | h
      · exact absurd hc List.not_mem_nil
      · exact List.mem_cons_of_mem x (ih h hc)
    · obtain ⟨front, parts, hs⟩ := List.exists_cons_of_ne_nil (split_ne_nil sep cs)
      rw [hs] at h ih
      rcases List.mem_cons.mp h with rfl | h
      · exact (List.mem_cons.mp hc).elim (fun hc => hc ▸ List.mem_cons_self) fun hc =>
          List.mem_cons_of_mem x (ih List.mem_cons_self hc)
      · exact List.mem_cons_of_mem x (ih (List.mem_cons_of_mem front h) hc)

theorem split_congr {sep sep' : Char → Bool} {cs : List Char} (h : ∀ c ∈ cs, sep c = sep' c) :
    split sep cs = split sep' cs := by
  induction cs with
  | nil => rfl
  | cons c cs ih =>
    rw [split, split, h c List.mem_cons_self, ih fun x hx => h x (List.mem_cons_of_mem c hx)]

/-- a separator divides the stretches into those before it and those behind it -/
theorem split_append_cons {sep : Char → Bool} {mark : Char} (hmark : sep mark = true)
    (cs rest : List Char) : split sep (cs ++ mark :: rest) = split sep cs ++ split sep rest := by
  induction cs with
  | nil =>
    show split sep (mark :: rest) = [] :: split sep rest
    rw [split, if_pos hmark]
  | cons c cs ih =>
    by_cases hc : sep c = true
    · rw [List.cons_append, split, split, if_pos hc, if_pos hc, ih, List.cons_append]
    · obtain ⟨part, parts, hs⟩ := List.exists_cons_of_ne_nil (split_ne_nil sep cs)
      rw [List.cons_append, split, split, if_neg hc, if_neg hc, ih, hs]
      rfl

theorem split_append {sep : Char → Bool} {part : List Char} (h : ∀ c ∈ part, sep c = false)
    {mark : Char} (hmark : sep mark = true) (rest : List Char) :
    split sep (part ++ mark :: rest) = part :: split sep rest := by
  rw [split_append_cons hmark, split_of_forall h, List.singleton_append]

theorem glue_cons {part : List Char} {parts : List (List Char)} (h : parts ≠ []) (sep : Char) :
    glue sep (part :: parts) = part ++ sep :: glue sep parts := by
  obtain ⟨next, parts, rfl⟩ := List.exists_cons_of_ne_nil h
  rfl

theorem glue_append {sep : Char} {xs ys : List (List Char)} (hx : xs ≠ []) (hy : ys ≠ []) :
    glue sep (xs ++ ys) = glue sep xs ++ sep :: glue sep ys := by
  induction xs with
  | nil => exact absurd rfl hx
  | cons x xs ih =>
    by_cases hxs : xs = []
    · rw [hxs, List.singleton_append, glue_cons hy]
      rfl
    · rw [List.cons_append, glue_cons (List.append_ne_nil_of_left_ne_nil hxs ys), ih hxs,
        glue_cons hxs, List.append_assoc]
      rfl

theorem mem_of_mem_glue {sep c : Char} {parts : List (List Char)} (h : c ∈ glue sep parts) :
    c = sep ∨ ∃ part ∈ parts, c ∈ part := by
  induction parts with
  | nil => exact nomatch h
  | cons part parts ih =>
    by_cases hparts : parts = []
    · rw [hparts] at h
      exact .inr ⟨part, List.mem_cons_self, h⟩
    · rw [glue_cons hparts, List.mem_append, List.mem_cons] at h
      rcases h with h | h | h
      · exact .inr ⟨part, List.mem_cons_self, h⟩
      · exact .inl h
      · exact (ih h).imp_right fun ⟨x, hx, hc⟩ => ⟨x, List.mem_cons_of_mem part hx, hc⟩

/-- parts in which the mark does not stand are found again -/
theorem split_glue {sep : Char → Bool} {mark : Char} (hmark : sep mark = true)
    {parts : List (List Char)} (hne : parts ≠ []) (h : ∀ part ∈ parts, ∀ c ∈ part, sep c = false) :
    split sep (glue mark parts) = parts := by
  induction parts with
  | nil => exact absurd rfl hne
  | cons part parts ih =>
    have hpart : ∀ c ∈ part, sep c = false := h part List.mem_cons_self
    by_cases hparts : parts = []
    · rw [hparts]
      exact split_of_forall hpart
    · rw [glue_cons hparts, split_append hpart hmark,
        ih hparts fun x hx => h x (List.mem_cons_of_mem part hx)]

end ChatRelay.Text
