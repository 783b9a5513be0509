import ChatRelay.Hub
import Mathlib

/-!
# Plain addresses

A name of letters, digits, dots and hyphens, and parts of the same characters between slashes, stand
in an address as they are: nothing is stripped, decoded, encoded or left out on the way.  Such an
address is read back from its text, also with more parts behind it.  The addresses that backends
have unless configured otherwise are of this kind.

* `Url.Takes`                   when a path can be appended to an address;
* `Url.parseChars_site`         a plain address is read back from its text;
* `Url.takes_site`              it takes every path of plain parts;
* `Backend.takes_defaultBase`   the addresses that backends have unless configured otherwise.
-/

namespace ChatRelay

namespace Url

/-- whether the text of an address with a path behind it is that of an address again -/
def Takes (u : Url) (path : String) : Prop :=
  ∃ v, parseChars (Channel.endpointChars { name := "", baseUrl := u } path.toList) = .ok v

/-! ## characters that stand for themselves -/

/-- whether a character stands for itself in hosts and paths, whatever is around it -/
def isPlainChar (c : Char) : Bool := c.isAlphanum || c = '.' || c = '-'

variable {c : Char} {cs host path : List Char} {parts more : List (List Char)}

theorem ne_of_isPlainChar {x : Char} (hc : isPlainChar c = true) (hx : isPlainChar x = false) :
    c ≠ x := by
  rintro rfl
  exact absurd (hc.symm.trans hx) (by decide)

theorem not_mem_of_isPlainChar {marks : List Char} (hc : isPlainChar c = true)
    (hmarks : ∀ x ∈ marks, isPlainChar x = false) : c ∉ marks := fun hmem =>
  ne_of_isPlainChar hc (hmarks c hmem) rfl

theorem bounds_of_isPlainChar (h : isPlainChar c = true) : 0x20 < c.toNat ∧ c.toNat < 0x7F := by
  simp only [isPlainChar, Char.isAlphanum, Char.isAlpha, Char.isUpper, Char.isLower, Char.isDigit,
    Bool.or_eq_true, Bool.and_eq_true, decide_eq_true_eq] at h
  change (((65 ≤ c.toNat ∧ c.toNat ≤ 90 ∨ 97 ≤ c.toNat ∧ c.toNat ≤ 122) ∨
    48 ≤ c.toNat ∧ c.toNat ≤ 57) ∨ c = '.') ∨ c = '-' at h
  rcases h with (h | rfl) | rfl
  · omega
  · decide
  · decide

theorem isSlash_of_isPlainChar (h : isPlainChar c = true) : isSlash true c = false := by
  have hslash : c ≠ '/' := ne_of_isPlainChar h (by decide)
  have hback : c ≠ '\\' := ne_of_isPlainChar h (by decide)
  rw [isSlash, decide_eq_false hslash, decide_eq_false hback]
  rfl

theorem inPath_of_isPlainChar (h : isPlainChar c = true) : inPath c = false := by
  obtain ⟨hlow, hhigh⟩ := bounds_of_isPlainChar h
  have hfragment : c ∉ " \"<>`".toList := not_mem_of_isPlainChar h (by simp [isPlainChar])
  have hmarks : c ∉ "#?\x7b\x7d".toList := not_mem_of_isPlainChar h (by simp [isPlainChar])
  have hcontrol : ¬ c.toNat < 0x20 := by omega
  have hdelete : ¬ 0x7F ≤ c.toNat := by omega
  simp only [inPath, inFragment, inControls, String.contains_char_eq, hfragment, hmarks, hcontrol,
    hdelete, decide_false, Bool.or_self]

theorem isForbiddenInName_of_isPlainChar (h : isPlainChar c = true) :
    isForbiddenInName c = false := by
  obtain ⟨hlow, hhigh⟩ := bounds_of_isPlainChar h
  have hmarks : c ∉ "\t\n\r #/:<>?@[\\]^|".toList :=
    not_mem_of_isPlainChar h (by simp [isPlainChar])
  have hpercent : c ≠ '%' := ne_of_isPlainChar h (by decide)
  have hcontrol : ¬ c.toNat < 0x20 := by omega
  have hzero : c.toNat ≠ 0 := by omega
  have hdelete : c.toNat ≠ 0x7F := by omega
  simp only [isForbiddenInName, isForbidden, String.contains_char_eq, hmarks, hpercent, hcontrol,
    hzero, hdelete, decide_false, Bool.or_self]

/-! ## hosts -/

/-- a host of plain characters that is read as it stands -/
structure PlainHost (host : List Char) : Prop where
  chars : ∀ c ∈ host, isPlainChar c = true
  reads : special? host = .ok host

namespace PlainHost

theorem ne_nil (h : PlainHost host) : host ≠ [] := by
  rintro rfl
  have hempty : special? [] = .error .emptyHost := rfl
  exact nomatch hempty.symm.trans h.reads

/-- a plain name that has no other spelling and does not end in a number -/
theorem of_name (hall : host.all isPlainChar = true) (hne : host ≠ [])
    (hname : HostName.ascii? (decodedName host) = some host)
    (hnumber : endsInNumber host = false) : PlainHost host := by
  have hchars : ∀ c ∈ host, isPlainChar c = true := List.all_eq_true.mp hall
  refine ⟨hchars, ?_⟩
  have hbracket : ¬ host.head? = some '[' := fun hhead =>
    ne_of_isPlainChar (hchars '[' (List.mem_of_mem_head? hhead)) (by decide) rfl
  have hallowed : host.any isForbiddenInName = false :=
    List.any_eq_false.mpr fun c hc => by
      rw [isForbiddenInName_of_isPlainChar (hchars c hc)]
      exact Bool.false_ne_true
  rw [special?, if_neg hbracket, hname]
  simp only [List.isEmpty_eq_false_iff.mpr hne, hallowed, hnumber]
  rfl

end PlainHost

theorem cutAtSign_of_plain (h : ∀ c ∈ cs, isPlainChar c = true) : cutAtSign cs = (none, cs) := by
  rw [cutAtSign, Text.cutAt?_of_forall_ne fun c hc =>
    ne_of_isPlainChar (h c (List.mem_reverse.mp hc)) (by decide)]

theorem cutAtPort_of_plain (h : ∀ c ∈ cs, isPlainChar c = true) :
    cutAtPort false cs = (cs, none) := by
  induction cs with
  | nil => rfl
  | cons c cs ih =>
    have hc : isPlainChar c = true := h c List.mem_cons_self
    rw [cutAtPort, if_neg fun e => ne_of_isPlainChar hc (by decide) e.1,
      if_neg (ne_of_isPlainChar hc (by decide)), if_neg (ne_of_isPlainChar hc (by decide)),
      ih fun x hx => h x (List.mem_cons_of_mem c hx)]

theorem authority_of_plain (h : PlainHost host) (last : Bool) :
    authority "https".toList last host = .ok { host, port := none, rest := [] } := by
  have hspecial : isSpecial "https".toList = true := by decide
  have hnonempty : host.isEmpty = false := List.isEmpty_eq_false_iff.mpr h.ne_nil
  rw [authority, cutAtSign_of_plain h.chars]
  simp only [cutAtPort_of_plain h.chars, hspecial, hnonempty, h.reads, Bool.false_and, if_true]
  rfl

/-! ## paths -/

/-- the parts of a path that are plain and lead nowhere else -/
structure PlainParts (parts : List (List Char)) : Prop where
  ne_nil : parts ≠ []
  nonempty : ∀ part ∈ parts, part ≠ []
  chars : ∀ part ∈ parts, ∀ c ∈ part, isPlainChar c = true
  stays : ∀ part ∈ parts, isDot part = false ∧ isDotDot part = false

instance : Decidable (PlainParts parts) :=
  decidable_of_iff (parts ≠ [] ∧ parts.all (fun part =>
      !part.isEmpty && part.all isPlainChar && !isDot part && !isDotDot part) = true) <| by
    simp only [List.all_eq_true, Bool.and_eq_true, Bool.not_eq_true', List.isEmpty_eq_false_iff]
    exact ⟨fun ⟨hne, h⟩ => ⟨hne, fun x hx => (h x hx).1.1.1, fun x hx => (h x hx).1.1.2,
        fun x hx => ⟨(h x hx).1.2, (h x hx).2⟩⟩,
      fun h => ⟨h.ne_nil, fun x hx =>
        ⟨⟨⟨h.nonempty x hx, h.chars x hx⟩, (h.stays x hx).1⟩, (h.stays x hx).2⟩⟩⟩

theorem PlainParts.tail {part : List Char} (h : PlainParts (part :: parts)) (hne : parts ≠ []) :
    PlainParts parts where
  ne_nil := hne
  nonempty x hx := h.nonempty x (List.mem_cons_of_mem part hx)
  chars x hx := h.chars x (List.mem_cons_of_mem part hx)
  stays x hx := h.stays x (List.mem_cons_of_mem part hx)

theorem PlainParts.append (h : PlainParts parts) (hmore : PlainParts more) :
    PlainParts (parts ++ more) where
  ne_nil := List.append_ne_nil_of_left_ne_nil h.ne_nil more
  nonempty := List.forall_mem_append.mpr ⟨h.nonempty, hmore.nonempty⟩
  chars := List.forall_mem_append.mpr ⟨h.chars, hmore.chars⟩
  stays := List.forall_mem_append.mpr ⟨h.stays, hmore.stays⟩

theorem followDots_of_plain (hchars : ∀ part ∈ parts, ∀ c ∈ part, isPlainChar c = true)
    (hstays : ∀ part ∈ parts, isDot part = false ∧ isDotDot part = false)
    (done : List (List Char)) : followDots false done parts = done.reverse ++ parts := by
  induction parts generalizing done with
  | nil => exact (List.append_nil _).symm
  | cons part parts ih =>
    obtain ⟨hdot, hdots⟩ := hstays part List.mem_cons_self
    have hencode : encode inPath part = part :=
      encode_of_forall fun c hc => inPath_of_isPlainChar (hchars part List.mem_cons_self c hc)
    rw [followDots, hdots, hdot]
    show followDots false (encode inPath part :: done) parts = _
    rw [hencode, ih (fun x hx => hchars x (List.mem_cons_of_mem part hx))
      (fun x hx => hstays x (List.mem_cons_of_mem part hx)), List.reverse_cons,
      List.append_assoc, List.singleton_append]

theorem pathParts_glue (h : PlainParts parts) :
    pathParts true ('/' :: Text.glue '/' parts) = parts := by
  have hslash : ∀ part ∈ parts, ∀ c ∈ part, isSlash true c = false := fun part hpart c hc =>
    isSlash_of_isPlainChar (h.chars part hpart c hc)
  show followDots false [] (Text.split (isSlash true) (Text.glue '/' parts)) = _
  rw [Text.split_glue rfl h.ne_nil hslash, followDots_of_plain h.chars h.stays]
  rfl

theorem mem_glue (h : PlainParts parts) (hc : c ∈ Text.glue '/' parts) :
    isPlainChar c = true ∨ c = '/' := by
  rcases Text.mem_of_mem_glue hc with hc | ⟨part, hpart, hc⟩
  · exact .inr hc
  · exact .inl (h.chars part hpart c hc)

/-- a plain path does not end with a slash -/
theorem exists_glue_eq_append (h : PlainParts parts) :
    ∃ front c, Text.glue '/' parts = front ++ [c] ∧ c ≠ '/' := by
  induction parts with
  | nil => exact absurd rfl h.ne_nil
  | cons part parts ih =>
    by_cases hparts : parts = []
    · have hpart : part ≠ [] := h.nonempty part List.mem_cons_self
      have hlast := h.chars part List.mem_cons_self _ (List.getLast_mem hpart)
      refine ⟨part.dropLast, part.getLast hpart, ?_, ne_of_isPlainChar hlast (by decide)⟩
      rw [hparts, List.dropLast_concat_getLast hpart]
      rfl
    · obtain ⟨front, c, hglue, hc⟩ := ih (h.tail hparts)
      refine ⟨part ++ '/' :: front, c, ?_, hc⟩
      rw [Text.glue_cons hparts, hglue, List.append_assoc, List.cons_append]

/-! ## addresses -/

/-- the address of a plain host and a plain path -/
def site (host : List Char) (parts : List (List Char)) : Url :=
  { scheme := "https".toList, host := some host, path := .parts parts }

theorem chars_site (h : PlainParts parts) : (site host parts).chars
    = "https".toList ++ ':' :: ("//".toList ++ (host ++ '/' :: Text.glue '/' parts)) := by
  obtain ⟨part, parts, rfl⟩ := List.exists_cons_of_ne_nil h.ne_nil
  have hguard : (site host (part :: parts)).pathGuard = [] := rfl
  have hhost : (site host (part :: parts)).hostChars = "//".toList ++ host := by
    show "//".toList ++ [] ++ host ++ [] = _
    rw [List.append_nil, List.append_nil]
  show "https".toList ++ ':' :: (site host (part :: parts)).hostChars
    ++ (site host (part :: parts)).pathGuard ++ '/' :: Text.glue '/' (part :: parts) ++ [] ++ [] = _
  rw [hguard, hhost]
  simp only [List.append_nil, List.append_assoc, List.cons_append]

theorem isOuterBlank_of_lt (h : 0x20 < c.toNat) : isOuterBlank c = false :=
  decide_eq_false (Nat.not_le.mpr h)

theorem dropWhile_isOuterBlank (h : ∀ c ∈ cs, 0x20 < c.toNat) : cs.dropWhile isOuterBlank = cs := by
  cases cs with
  | nil => rfl
  | cons c cs =>
    have hc : isOuterBlank c = false := isOuterBlank_of_lt (h c List.mem_cons_self)
    exact List.dropWhile_cons_of_neg (Bool.eq_false_iff.mp hc)

/-- no line ends inside, and no tabs -/
theorem filter_of_forall (h : ∀ c ∈ cs, 0x20 < c.toNat) :
    cs.filter (!"\t\n\r".contains ·) = cs := by
  refine List.filter_eq_self.mpr fun c hc => ?_
  have hlow : ∀ x ∈ "\t\n\r".toList, x.toNat ≤ 0x20 := by simp
  have hmem : c ∉ "\t\n\r".toList := fun hmem =>
    absurd (hlow c hmem) (Nat.not_le.mpr (h c hc))
  rw [String.contains_char_eq, decide_eq_false hmem]
  rfl

/-- a text without blanks is not stripped of anything -/
theorem strip_of_forall (h : ∀ c ∈ cs, 0x20 < c.toNat) : strip cs = cs := by
  rw [strip, dropWhile_isOuterBlank h,
    dropWhile_isOuterBlank fun c hc => h c (List.mem_reverse.mp hc), List.reverse_reverse]
  exact filter_of_forall h

/-- the two slashes before a plain host go, and no more than these -/
theorem dropWhile_slashes (h : PlainHost host) :
    ("//".toList ++ (host ++ path)).dropWhile (isSlash true) = host ++ path := by
  obtain ⟨c, cs, rfl⟩ := List.exists_cons_of_ne_nil h.ne_nil
  have hc : isSlash true c = false := isSlash_of_isPlainChar (h.chars c List.mem_cons_self)
  show List.dropWhile (isSlash true) (c :: (cs ++ path)) = c :: (cs ++ path)
  rw [List.dropWhile_cons_of_neg (by rw [hc]; exact Bool.false_ne_true)]

theorem location_site (h : PlainHost host) (hparts : PlainParts parts) (last : Bool) :
    location "https".toList last ("//".toList ++ (host ++ '/' :: Text.glue '/' parts))
      = .ok (site host parts) := by
  have hfile : isFile "https".toList = false := by decide
  have hspecial : isSpecial "https".toList = true := by decide
  have hplain : ∀ c ∈ host, (!isSlash true c) = true := fun c hc => by
    rw [isSlash_of_isPlainChar (h.chars c hc)]
    rfl
  have htake : ∀ rest, ('/' :: rest).takeWhile (!isSlash true ·) = [] := fun _ => rfl
  have hdrop : ∀ rest, ('/' :: rest).dropWhile (!isSlash true ·) = '/' :: rest := fun _ => rfl
  rw [location]
  simp only [hfile, hspecial, dropWhile_slashes h, if_true, List.takeWhile_append_of_pos hplain,
    List.dropWhile_append_of_pos hplain, htake, hdrop, List.append_nil, authority_of_plain h]
  show Except.ok (site host (pathParts true ('/' :: Text.glue '/' parts))) = _
  rw [pathParts_glue hparts]

/-- **A plain address** is read back from its text. -/
theorem parseChars_site (h : PlainHost host) (hparts : PlainParts parts) :
    parseChars (site host parts).chars = .ok (site host parts) := by
  rw [chars_site hparts]
  generalize hrest : "//".toList ++ (host ++ '/' :: Text.glue '/' parts) = rest
  have hchars : ∀ c ∈ rest, isPlainChar c = true ∨ c = '/' := by
    intro c hc
    have hslashes : ∀ c ∈ "//".toList, c = '/' := by simp
    simp only [← hrest, List.mem_append, List.mem_cons] at hc
    rcases hc with hc | hc | hc | hc
    · exact .inr (hslashes c hc)
    · exact .inl (h.chars c hc)
    · exact .inr hc
    · exact mem_glue hparts hc
  have hblank : ∀ c ∈ "https".toList ++ ':' :: rest, 0x20 < c.toNat := by
    intro c hc
    have hscheme : ∀ c ∈ "https".toList, 0x20 < c.toNat := by simp
    simp only [List.mem_append, List.mem_cons] at hc
    rcases hc with hc | rfl | hc
    · exact hscheme c hc
    · decide
    · rcases hchars c hc with hc | rfl
      · exact (bounds_of_isPlainChar hc).1
      · decide
  have hne : ∀ x, isPlainChar x = false → '/' ≠ x → ∀ c ∈ rest, c ≠ x := by
    intro x hx hslash c hc
    rcases hchars c hc with hc | rfl
    · exact ne_of_isPlainChar hc hx
    · exact hslash
  have hscheme : scheme? ("https".toList ++ ':' :: rest) = some ("https".toList, rest) := by
    have hcolon : ':' ∉ "https".toList := by decide
    rw [scheme?, Text.cutAt?_append hcolon]
    rfl
  have hquery : cutAtQuery rest = (rest, none, none) := by
    rw [cutAtQuery, Text.cutAt?_of_forall_ne (hne '#' (by decide) (by decide))]
    simp only [Text.cutAt?_of_forall_ne (hne '?' (by decide) (by decide))]
  rw [parseChars, strip_of_forall hblank, hscheme]
  simp only [hquery]
  show location "https".toList true rest >>= _ = _
  rw [← hrest, location_site h hparts]
  rfl

/-- the text of a plain address with a plain path behind it is that of the longer address -/
theorem endpointChars_site (hparts : PlainParts parts) (hmore : PlainParts more) (name : String) :
    Channel.endpointChars { name, baseUrl := site host parts } (Text.glue '/' more)
      = (site host (parts ++ more)).chars := by
  have hbase : ((site host parts).chars.reverse.dropWhile (· = '/')).reverse
      = (site host parts).chars := by
    obtain ⟨front, c, hfront, hc⟩ := exists_glue_eq_append hparts
    rw [chars_site hparts, hfront]
    simp [hc]
  have hpath : (Text.glue '/' more).dropWhile (· = '/') = Text.glue '/' more := by
    obtain ⟨part, rest, rfl⟩ := List.exists_cons_of_ne_nil hmore.ne_nil
    obtain ⟨c, part, rfl⟩ := List.exists_cons_of_ne_nil (hmore.nonempty part List.mem_cons_self)
    have hc : c ≠ '/' := ne_of_isPlainChar
      (hmore.chars _ List.mem_cons_self c List.mem_cons_self) (by decide)
    rw [Text.glue_cons_cons, List.dropWhile_cons_of_neg (by simpa using hc)]
  rw [Channel.endpointChars, hbase, hpath, chars_site hparts, chars_site (hparts.append hmore),
    Text.glue_append hparts.ne_nil hmore.ne_nil]
  simp only [List.append_assoc, List.cons_append]

/-- **A plain address takes every plain path.** -/
theorem takes_site (h : PlainHost host) (hparts : PlainParts parts) (hmore : PlainParts more) :
    (site host parts).Takes (String.ofList (Text.glue '/' more)) := by
  refine ⟨site host (parts ++ more), ?_⟩
  rw [String.toList_ofList, endpointChars_site hparts hmore,
    parseChars_site h (hparts.append hmore)]

end Url

/-! ## backends -/

namespace Backend

/-- the parts of the path of a backend's requests -/
def requestParts : Dialect → List String
  | .anthropic => ["messages"]
  | .openAi | .openRouter => ["chat", "completions"]

/-- a plain address takes the path of every backend's requests -/
theorem takes_requestPath {host : List Char} {parts : List (List Char)} (h : Url.PlainHost host)
    (hparts : Url.PlainParts parts) (d : Dialect) :
    (Url.site host parts).Takes (requestPath d) := by
  have hmore : Url.PlainParts ((requestParts d).map String.toList) := by cases d <;> decide
  have hpath : requestPath d
      = String.ofList (Text.glue '/' ((requestParts d).map String.toList)) := by
    cases d <;> decide
  rw [hpath]
  exact Url.takes_site h hparts hmore

/-- the host of the address that backends of a dialect have unless configured otherwise -/
def defaultHost : Dialect → String
  | .openAi => "api.openai.com"
  | .anthropic => "api.anthropic.com"
  | .openRouter => "openrouter.ai"

/-- the parts of its path -/
def defaultParts : Dialect → List String
  | .openAi | .anthropic => ["v1"]
  | .openRouter => ["api", "v1"]

theorem plainHost_defaultHost (d : Dialect) : Url.PlainHost (defaultHost d).toList := by
  have hchars : (defaultHost d).toList.all Url.isPlainChar = true := by cases d <;> decide
  have hne : (defaultHost d).toList ≠ [] := by cases d <;> decide
  have hname : HostName.ascii? (Url.decodedName (defaultHost d).toList)
      = some (defaultHost d).toList := by
    cases d <;> decide +kernel
  have hnumber : Url.endsInNumber (defaultHost d).toList = false := by cases d <;> decide +kernel
  exact .of_name hchars hne hname hnumber

/-- the address that backends have unless configured otherwise can be read, and takes the path of
their requests -/
theorem takes_defaultBase (d : Dialect) :
    ∃ u, Url.parse (defaultBase d) = .ok u ∧ u.Takes (requestPath d) := by
  have hparts : Url.PlainParts ((defaultParts d).map String.toList) := by cases d <;> decide
  have hbase : (defaultBase d).toList
      = (Url.site (defaultHost d).toList ((defaultParts d).map String.toList)).chars := by
    cases d <;> decide
  rw [Url.parse, hbase]
  exact ⟨_, Url.parseChars_site (plainHost_defaultHost d) hparts,
    takes_requestPath (plainHost_defaultHost d) hparts d⟩

end Backend
end ChatRelay
