import ChatRelay.Proofs.Addresses
import ChatRelay.Proofs.Url.Authority

/-!
# How an address is laid out

The text of an address whose scheme is one of the web consists of stretches that cannot be mistaken
for one another: what stands in front of the path has no slash and no mark of a query or a fragment
in it, the path has no such mark, and the query has no mark of a fragment.  So the text of an
address, also with another path, query or fragment, is read stretch by stretch.

* `Laid`                   the layout of an address;
* `laid_of_parse`          every address that was read has it;
* `parseChars_of_strip`    what is read from a text that is laid out so;
* `parseChars_written`     an address with another path, query or fragment.
-/

namespace ChatRelay.Url

variable {c : Char} {cs xs ys host scheme site way : List Char}
  {query fragment : Option (List Char)}

/-! ## locations -/

/-- what was read in front of a path, and a path there -/
def located (scheme : List Char) (a : Authority) (path : List Char) : Url :=
  { scheme
    username := a.username
    password := a.password
    host := some a.host
    port := a.port
    path := .parts (pathParts true (a.rest ++ path)) }

theorem location_eq (hspecial : isSpecial scheme = true) (hfile : isFile scheme = false)
    (last : Bool) (cs : List Char) :
    location scheme last cs
      = (authority scheme true ((cs.dropWhile (isSlash true)).takeWhile (!isSlash true ·))).map
        fun a => located scheme a ((cs.dropWhile (isSlash true)).dropWhile (!isSlash true ·)) := by
  rw [location]
  simp only [hfile, hspecial, if_true, authority_last hspecial, Bool.not_true, Bool.and_false]
  cases authority scheme true ((cs.dropWhile (isSlash true)).takeWhile (!isSlash true ·)) with
  | error p => rfl
  | ok a => rfl

theorem scheme_of_fileLocation {u : Url} (h : fileLocation cs = .ok u) :
    u.scheme = "file".toList := by
  obtain ⟨⟨host, path⟩, -, h⟩ := ok_of_bind h
  obtain rfl := Except.ok.inj h
  rfl

theorem scheme_of_location {last : Bool} {u : Url} (h : location scheme last cs = .ok u) :
    u.scheme = scheme := by
  rw [location] at h
  dsimp only at h
  split at h
  · next hfile =>
    have hu : fileLocation cs = .ok u := by simpa using h
    rw [scheme_of_fileLocation hu]
    exact (of_decide_eq_true hfile).symm
  · split at h
    · obtain ⟨a, -, h⟩ := ok_of_bind h
      obtain rfl := Except.ok.inj h
      rfl
    · split at h
      · obtain rfl := Except.ok.inj h
        rfl
      · obtain rfl := Except.ok.inj h
        rfl

/-! ## the layout -/

/-- a scheme of the web -/
def Web (scheme : List Char) : Prop := scheme = "http".toList ∨ scheme = "https".toList

instance (scheme : List Char) : Decidable (Web scheme) := inferInstanceAs (Decidable (_ ∨ _))

namespace Web

theorem isSpecial (h : Web scheme) : isSpecial scheme = true := by
  rcases h with rfl | rfl <;> decide

theorem isFile (h : Web scheme) : isFile scheme = false := by
  rcases h with rfl | rfl <;> decide

theorem lt (h : Web scheme) : ∀ c ∈ scheme, 0x20 < c.toNat := by
  rcases h with rfl | rfl <;> simp

theorem scheme? (h : Web scheme) (rest : List Char) :
    Url.scheme? (scheme ++ ':' :: rest) = some (scheme, rest) := by
  have hcolon : ':' ∉ scheme := by rcases h with rfl | rfl <;> decide
  rw [Url.scheme?, Text.cutAt?_append hcolon]
  rcases h with rfl | rfl <;> rfl

end Web

/-- the text of an address: `site` stands in front of the path, and `way` is the path behind its
first slash -/
def written (scheme site way : List Char) (query fragment : Option (List Char)) : List Char :=
  scheme ++ ':' :: '/' :: '/' :: (site ++ '/' :: (way ++ (marked '?' query ++ marked '#' fragment)))

/-- the layout of an address: its stretches have only characters that keep them apart, and `way` is
read as its path -/
structure Laid (u : Url) (host way : List Char) : Prop where
  site : Site u host
  path : pathChars u.path = '/' :: way
  reads : UrlPath.parts (pathParts true ('/' :: way)) = u.path
  way : Spelled way
  query : ∀ q ∈ u.query, Kept (inQuery true) q
  fragment : ∀ f ∈ u.fragment, Kept inFragment f

theorem settled_of_plain (h : cs.all isPlainChar = true) (hdot : isDot cs = false)
    (hdots : isDotDot cs = false) : Settled cs where
  kept := fun c hc => inPath_of_isPlainChar (List.all_eq_true.mp h c hc)
  slashless := fun c hc => isSlash_of_isPlainChar (List.all_eq_true.mp h c hc)
  isDot := hdot
  isDotDot := hdots

/-- the layout of an address whose parts all stand in it as they are -/
theorem laid_of_parts {u : Url} {parts : List (List Char)} (hsite : Site u host)
    (hpath : u.path = .parts parts) (hne : parts ≠ []) (hparts : ∀ part ∈ parts, Settled part)
    (hquery : ∀ q ∈ u.query, Kept (inQuery true) q)
    (hfragment : ∀ f ∈ u.fragment, Kept inFragment f) : Laid u host (Text.glue '/' parts) where
  site := hsite
  path := by
    obtain ⟨part, parts, rfl⟩ := List.exists_cons_of_ne_nil hne
    rw [hpath]
    rfl
  reads := by
    have hsplit : Text.split (isSlash true) (Text.glue '/' parts) = parts :=
      Text.split_glue rfl hne fun part hpart => (hparts part hpart).slashless
    show UrlPath.parts (followDots false [] (Text.split (isSlash true) (Text.glue '/' parts))) = _
    rw [hsplit, followDots_of_settled hparts, hpath]
    rfl
  way := spelled_glue hne hparts
  query := hquery
  fragment := hfragment

/-- an address that was read is made of what was read in front of the path, and of a path, a query
and a fragment, the last two encoded -/
theorem ok_of_parse {u : Url} (h : parseChars cs = .ok u) (hweb : Web u.scheme) :
    ∃ (a : Authority) (site path : List Char) (query fragment : Option (List Char)),
      authority u.scheme true site = .ok a ∧ u = { located u.scheme a path with
        query := query.map (encode (inQuery true))
        fragment := fragment.map (encode inFragment) } := by
  rw [parseChars] at h
  split at h
  · cases h
  · next scheme rest _ =>
    generalize cutAtQuery rest = cut at h
    obtain ⟨front, query, fragment⟩ := cut
    obtain ⟨v, hv, h⟩ := ok_of_bind h
    obtain rfl := Except.ok.inj h
    have hscheme : v.scheme = scheme := scheme_of_location hv
    rw [hscheme] at hweb
    rw [location_eq hweb.isSpecial hweb.isFile] at hv
    obtain ⟨a, ha, rfl⟩ := ok_of_map hv
    rw [hweb.isSpecial]
    exact ⟨a, _, _, query, fragment, ha, rfl⟩

/-- every address that was read is laid out so -/
theorem laid_of_parse {u : Url} (h : parseChars cs = .ok u) (hweb : Web u.scheme) :
    ∃ host way, Laid u host way := by
  obtain ⟨a, text, path, query, fragment, ha, hu⟩ := ok_of_parse h hweb
  obtain ⟨hsound, -⟩ := authority_ok hweb.isSpecial ha
  have hne : pathParts true (a.rest ++ path) ≠ [] :=
    followDots_ne_nil false (.inl (Text.split_ne_nil _ _))
  have hparts : ∀ part ∈ pathParts true (a.rest ++ path), Settled part :=
    settled_followDots (fun part hpart => nomatch hpart) fun part hpart =>
      Text.sep_of_mem_split hpart
  refine ⟨a.host, _, laid_of_parts ⟨?_, ?_⟩ ?_ hne hparts ?_ ?_⟩
  · rw [hu]
    rfl
  · rw [hu]
    exact ⟨hsound.username, hsound.password, hsound.host, hsound.port⟩
  · rw [hu]
    rfl
  · intro q hq
    rw [hu] at hq
    obtain ⟨x, -, rfl⟩ := Option.map_eq_some_iff.mp hq
    exact kept_encode (stable_inQuery true) x
  · intro f hf
    rw [hu] at hf
    obtain ⟨x, -, rfl⟩ := Option.map_eq_some_iff.mp hf
    exact kept_encode stable_inFragment x

namespace Laid

variable {u : Url}

theorem chars (h : Laid u host way) :
    u.chars = written u.scheme (siteChars u host) way u.query u.fragment := by
  have hguard : u.pathGuard = [] := by rw [pathGuard, h.site.host_eq]
  rw [Url.chars, hostChars_eq h.site.host_eq, hguard, h.path, written]
  simp only [List.append_assoc, List.cons_append, List.nil_append]

/-- no blanks and no control characters -/
theorem lt (h : Laid u host way) (hweb : Web u.scheme) : ∀ c ∈ u.chars, 0x20 < c.toNat := by
  have hquery : ∀ c ∈ marked '?' u.query, 0x20 < c.toNat := by
    cases hq : u.query with
    | none => exact fun c hc => nomatch hc
    | some q =>
      exact List.forall_mem_cons.mpr ⟨by decide, fun c hc => lt_of_inQuery (h.query q hq c hc)⟩
  have hfragment : ∀ c ∈ marked '#' u.fragment, 0x20 < c.toNat := by
    cases hf : u.fragment with
    | none => exact fun c hc => nomatch hc
    | some f =>
      exact List.forall_mem_cons.mpr
        ⟨by decide, fun c hc => lt_of_inFragment (h.fragment f hf c hc)⟩
  rw [h.chars, written]
  simp only [List.forall_mem_append, List.forall_mem_cons]
  exact ⟨hweb.lt, by decide, by decide, by decide, fun c hc => (h.site.char c hc).1, by decide,
    h.way.lt, hquery, hfragment⟩

/-- neither a query nor a fragment begins in a path -/
theorem way_ne (h : Laid u host way) : ∀ c ∈ way, c ≠ '?' ∧ c ≠ '#' := by
  intro c hc
  rcases h.way.char hc with rfl | ⟨hpath, -⟩
  · decide
  · rw [inPath_eq, Bool.or_eq_false_iff, decide_eq_false_iff_not] at hpath
    simp only [List.mem_cons, not_or] at hpath
    exact ⟨hpath.2.2.1, hpath.2.1⟩

/-- no fragment begins in a query -/
theorem query_ne (h : Laid u host way) : ∀ q ∈ u.query, '#' ∉ q := by
  intro q hq hc
  have hset : inQuery true '#' = true := by
    rw [inQuery_eq]
    decide
  exact nomatch hset.symm.trans (h.query q hq '#' hc)

end Laid

/-! ## what goes at the ends -/

theorem rdropWhile_append_cons {p : Char → Bool} (hc : p c = false) (xs ys : List Char) :
    (xs ++ c :: ys).rdropWhile p = xs ++ c :: ys.rdropWhile p := by
  induction ys using List.reverseRecOn with
  | nil => exact List.rdropWhile_concat_neg p xs c (Bool.eq_false_iff.mp hc)
  | append_singleton ys y ih =>
    rw [← List.cons_append, ← List.append_assoc]
    by_cases hy : p y = true
    · rw [List.rdropWhile_concat_pos _ _ _ hy, List.rdropWhile_concat_pos _ _ _ hy, ih]
    · rw [List.rdropWhile_concat_neg _ _ _ hy, List.rdropWhile_concat_neg _ _ _ hy,
        List.append_assoc, List.cons_append]

/-- what goes at the end and inside goes behind a character that is known to stay -/
theorem strip_append_cons (hxs : ∀ x ∈ xs, 0x20 < x.toNat) (hc : 0x20 < c.toNat)
    (ys : List Char) : strip (xs ++ c :: ys)
      = xs ++ c :: (ys.rdropWhile isOuterBlank).filter (!"\t\n\r".contains ·) := by
  have hfront : ∀ x ∈ xs ++ [c], 0x20 < x.toNat :=
    List.forall_mem_append.mpr ⟨hxs, List.forall_mem_singleton.mpr hc⟩
  have hstart : (xs ++ c :: ys).dropWhile isOuterBlank = xs ++ c :: ys := by
    cases xs with
    | nil => exact List.dropWhile_cons_of_neg (Bool.eq_false_iff.mp (isOuterBlank_of_lt hc))
    | cons x xs =>
      have hx : isOuterBlank x = false := isOuterBlank_of_lt (hxs x List.mem_cons_self)
      exact List.dropWhile_cons_of_neg (Bool.eq_false_iff.mp hx)
  show (((xs ++ c :: ys).dropWhile isOuterBlank).rdropWhile isOuterBlank).filter _ = _
  rw [hstart, rdropWhile_append_cons (isOuterBlank_of_lt hc), List.append_cons, List.filter_append,
    filter_of_forall hfront, List.append_assoc, List.singleton_append]

theorem strip_cons (hc : 0x20 < c.toNat) (ys : List Char) :
    strip (c :: ys) = c :: (ys.rdropWhile isOuterBlank).filter (!"\t\n\r".contains ·) :=
  strip_append_cons (List.forall_mem_nil _) hc ys

theorem strip_append (hxs : ∀ x ∈ xs, 0x20 < x.toNat) (hc : 0x20 < c.toNat) (ys : List Char) :
    strip (xs ++ c :: ys) = xs ++ strip (c :: ys) := by
  rw [strip_append_cons hxs hc, strip_cons hc]

theorem mem_of_mem_strip (h : c ∈ strip cs) : c ∈ cs := by
  have hdropped := List.mem_reverse.mp (List.mem_of_mem_filter h)
  exact (List.dropWhile_sublist _).mem
    (List.mem_reverse.mp ((List.dropWhile_sublist _).mem hdropped))

/-! ## stretches found again -/

theorem marked_none (mark : Char) : marked mark none = [] := rfl

theorem cutAt?_marked {mark : Char} (h : mark ∉ cs) (part : Option (List Char)) :
    Text.cutAt? mark (cs ++ marked mark part) = part.map fun p => (cs, p) := by
  cases part with
  | none =>
    rw [marked, List.append_nil]
    exact Text.cutAt?_of_forall_ne fun c hc => ne_of_mem_of_not_mem hc h
  | some p => exact Text.cutAt?_append h p

theorem cutAtQuery_append (hpath : ∀ c ∈ cs, c ≠ '?' ∧ c ≠ '#') (hquery : ∀ q ∈ query, '#' ∉ q) :
    cutAtQuery (cs ++ (marked '?' query ++ marked '#' fragment)) = (cs, query, fragment) := by
  have hmark : '?' ∉ cs := fun hc => (hpath '?' hc).1 rfl
  have hfront : '#' ∉ cs ++ marked '?' query := by
    rw [List.mem_append, not_or]
    refine ⟨fun hc => (hpath '#' hc).2 rfl, ?_⟩
    cases query with
    | none => exact List.not_mem_nil
    | some q => exact List.not_mem_cons_of_ne_of_not_mem (by decide) (hquery q rfl)
  rw [cutAtQuery, ← List.append_assoc, cutAt?_marked hfront]
  cases fragment with
  | none =>
    simp only [Option.map_none, marked_none, List.append_nil, cutAt?_marked hmark]
    cases query with
    | none => simp only [Option.map_none, marked_none, List.append_nil]
    | some q => rfl
  | some f =>
    simp only [Option.map_some, cutAt?_marked hmark]
    cases query with
    | none => simp only [Option.map_none, marked_none, List.append_nil]
    | some q => rfl

/-- the text of an address is read stretch by stretch -/
theorem parseChars_of_strip (hweb : Web scheme) (hne : site ≠ []) (hsite : ∀ c ∈ site, SiteChar c)
    (hway : ∀ c ∈ way, c ≠ '?' ∧ c ≠ '#') (hquery : ∀ q ∈ query, '#' ∉ q)
    (hstrip : strip cs = written scheme site way query fragment) :
    parseChars cs = (authority scheme true site).map fun a =>
      { located scheme a ('/' :: way) with
        query := query.map (encode (inQuery true))
        fragment := fragment.map (encode inFragment) } := by
  have hfront : ∀ c ∈ '/' :: '/' :: (site ++ '/' :: way), c ≠ '?' ∧ c ≠ '#' := by
    simp only [List.forall_mem_cons, List.forall_mem_append]
    exact ⟨by decide, by decide, fun c hc => ⟨(hsite c hc).ne (by decide),
      (hsite c hc).ne (by decide)⟩, by decide, hway⟩
  have htext : '/' :: '/' :: (site ++ '/' :: (way ++ (marked '?' query ++ marked '#' fragment)))
      = ('/' :: '/' :: (site ++ '/' :: way)) ++ (marked '?' query ++ marked '#' fragment) := by
    simp only [List.cons_append, List.append_assoc]
  have hslashes : ('/' :: '/' :: (site ++ '/' :: way)).dropWhile (isSlash true)
      = site ++ '/' :: way := by
    obtain ⟨c, site, rfl⟩ := List.exists_cons_of_ne_nil hne
    have hc : isSlash true c = false := (hsite c List.mem_cons_self).isSlash
    show List.dropWhile (isSlash true) (c :: (site ++ '/' :: way)) = _
    exact List.dropWhile_cons_of_neg (Bool.eq_false_iff.mp hc)
  have hplain : ∀ c ∈ site, (!isSlash true c) = true := fun c hc => by
    rw [(hsite c hc).isSlash]
    rfl
  have htake : ('/' :: way).takeWhile (!isSlash true ·) = [] := rfl
  have hdrop : ('/' :: way).dropWhile (!isSlash true ·) = '/' :: way := rfl
  rw [parseChars, hstrip, written, hweb.scheme?, htext]
  simp only [cutAtQuery_append hfront hquery, location_eq hweb.isSpecial hweb.isFile, hslashes,
    hweb.isSpecial, List.takeWhile_append_of_pos hplain, List.dropWhile_append_of_pos hplain,
    htake, hdrop, List.append_nil]
  cases authority scheme true site with
  | error p => rfl
  | ok a => rfl

theorem map_encode_of_kept {set : Char → Bool} {part : Option (List Char)}
    (h : ∀ cs ∈ part, Kept set cs) : part.map (encode set) = part := by
  cases part with
  | none => rfl
  | some cs => exact congrArg some (encode_of_kept (h cs rfl))

/-- **An address with another path, query or fragment** is read from a text that has these in the
place of its own, if its host is read as itself. -/
theorem parseChars_written {u : Url} (h : Laid u host way) (hweb : Web u.scheme)
    (hhost : special? host = .ok host) {other : List Char} (hother : ∀ c ∈ other, c ≠ '?' ∧ c ≠ '#')
    (hquery : ∀ q ∈ query, '#' ∉ q)
    (hstrip : strip cs = written u.scheme (siteChars u host) other query fragment) :
    parseChars cs = .ok { u with
      path := .parts (pathParts true ('/' :: other))
      query := query.map (encode (inQuery true))
      fragment := fragment.map (encode inFragment) } := by
  rw [parseChars_of_strip hweb h.site.ne_nil h.site.char hother hquery hstrip,
    h.site.authority_written hweb.isSpecial hhost]
  show Except.ok (Url.mk _ _ _ (some host) _ _ _ _) = _
  rw [← h.site.host_eq]
  rfl

/-- **An address that was read** is read back from its text, if its host is read as itself. -/
theorem parseChars_chars {u : Url} (h : Laid u host way) (hweb : Web u.scheme)
    (hhost : special? host = .ok host) : parseChars u.chars = .ok u := by
  have hstrip : strip u.chars = written u.scheme (siteChars u host) way u.query u.fragment := by
    rw [strip_of_forall (h.lt hweb), h.chars]
  rw [parseChars_written h hweb hhost h.way_ne h.query_ne hstrip, h.reads,
    map_encode_of_kept h.query, map_encode_of_kept h.fragment]

end ChatRelay.Url
