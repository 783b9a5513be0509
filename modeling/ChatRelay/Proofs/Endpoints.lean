import ChatRelay.Proofs.Url.Layout
import ChatRelay.Proofs.Url.Numbers

/-!
# The address of a path below a base

The text of a path is put behind the text of the base address, and the whole is read again.  So the
path is appended to the path of the base only if that is the end of its text: behind a query or a
fragment it is read as more of these, and the path of the base stays as it is.

* `Url.IsBelow`                   the address that a path below a base has;
* `Url.spelledPath_joinedPath`    its path, where the one appended stands in an address as it is;
* `Channel.endpoint_isBelow_iff`  when a channel's endpoint is that address.
-/

namespace ChatRelay

namespace Url

/-- the path of a base and another one behind it, with one slash between them -/
def joinedPath (base : Url) (path : List Char) : List Char :=
  (pathChars base.path).rdropWhile (· = '/') ++ '/' :: path.dropWhile (· = '/')

/-- a path as it is read and written: what goes at its end and inside it is gone, its dots are
followed, and what may not stand in it is encoded -/
def spelledPath (cs : List Char) : List Char := pathChars (.parts (pathParts true (strip cs)))

/-- whether an address is that of a path below a base -/
structure IsBelow (u base : Url) (path : List Char) : Prop where
  scheme : u.scheme = base.scheme
  host : u.host = base.host
  port : u.port = base.port
  query : u.query = base.query
  path : pathChars u.path = spelledPath (joinedPath base path)

/-- whether nothing follows the path of an address -/
structure EndsWithPath (u : Url) : Prop where
  query : u.query = none
  fragment : u.fragment = none

variable {base : Url} {host way path : List Char}

/-- what begins a path with a slash goes on with one -/
theorem exists_append_slash {front : List Char} (h : front <+: '/' :: way) (rest : List Char) :
    ∃ other, front ++ '/' :: rest = '/' :: other := by
  cases front with
  | nil => exact ⟨rest, rfl⟩
  | cons c front =>
    obtain rfl : c = '/' := (List.cons_prefix_cons.mp h).1
    exact ⟨front ++ '/' :: rest, rfl⟩

theorem Laid.spelled (h : Laid base host way) : Spelled ('/' :: way) :=
  spelled_append.mpr ⟨spelled_nil, h.way⟩

theorem joinedPath_eq (h : Laid base host way) (path : List Char) : joinedPath base path
    = ('/' :: way).rdropWhile (· = '/') ++ '/' :: path.dropWhile (· = '/') := by
  rw [joinedPath, h.path]

/-- a path that stands in an address as it is does so behind the path of a base -/
theorem spelledPath_joinedPath (h : Laid base host way) (hpath : Spelled path) :
    spelledPath (joinedPath base path) = joinedPath base path := by
  have hjoined : Spelled (joinedPath base path) := by
    rw [joinedPath_eq h]
    exact spelled_append.mpr ⟨h.spelled.rdropWhile, hpath.dropWhile⟩
  obtain ⟨other, hother⟩ : ∃ other, joinedPath base path = '/' :: other := by
    rw [joinedPath_eq h]
    exact exists_append_slash (List.rdropWhile_prefix _ _) _
  have hspelled : Spelled ([] ++ '/' :: other) := hother ▸ hjoined
  rw [spelledPath, strip_of_forall hjoined.lt, hother]
  exact pathChars_parts (spelled_append.mp hspelled).2

/-- what goes at the end of a joined path and inside it goes behind the path of the base -/
theorem strip_joinedPath (h : Laid base host way) (path : List Char) : strip (joinedPath base path)
    = ('/' :: way).rdropWhile (· = '/') ++ strip ('/' :: path.dropWhile (· = '/')) := by
  have hkept : ∀ x ∈ ('/' :: way).rdropWhile (· = '/'), 0x20 < x.toNat := h.spelled.rdropWhile.lt
  rw [joinedPath_eq h, strip_append hkept (by decide)]

/-- neither a query nor a fragment begins in a joined path -/
theorem ne_of_mem_joinedPath (h : Laid base host way) (hpath : ∀ x ∈ path, x ≠ '?' ∧ x ≠ '#') :
    ∀ x ∈ joinedPath base path, x ≠ '?' ∧ x ≠ '#' := by
  have hway : ∀ x ∈ '/' :: way, x ≠ '?' ∧ x ≠ '#' := List.forall_mem_cons.mpr ⟨by decide, h.way_ne⟩
  rw [joinedPath_eq h]
  exact List.forall_mem_append.mpr ⟨fun x hx => hway x ((List.rdropWhile_prefix _ _).subset hx),
    List.forall_mem_cons.mpr ⟨by decide, fun x hx => hpath x ((List.dropWhile_sublist _).mem hx)⟩⟩

/-- a joined path, as it is read, begins with a slash and has no mark in it -/
theorem exists_strip_joinedPath (h : Laid base host way) (hpath : ∀ x ∈ path, x ≠ '?' ∧ x ≠ '#') :
    ∃ other, strip (joinedPath base path) = '/' :: other ∧ ∀ x ∈ other, x ≠ '?' ∧ x ≠ '#' := by
  obtain ⟨other, hother⟩ : ∃ other, strip (joinedPath base path) = '/' :: other := by
    rw [strip_joinedPath h, strip_cons (by decide)]
    exact exists_append_slash (List.rdropWhile_prefix _ _) _
  refine ⟨other, hother, fun x hx => ne_of_mem_joinedPath h hpath x (mem_of_mem_strip ?_)⟩
  exact hother ▸ List.mem_cons_of_mem '/' hx

/-- a path of more than slashes makes another path of that of a base -/
theorem joinedPath_ne (hpath : ∃ c ∈ path, c ≠ '/') :
    joinedPath base path ≠ pathChars base.path := by
  obtain ⟨c, hc, hslash⟩ := hpath
  intro heq
  have hrest : '/' :: path.dropWhile (· = '/') = (pathChars base.path).rtakeWhile (· = '/') :=
    List.append_cancel_left (heq.trans List.rdropWhile_append_rtakeWhile.symm)
  rw [← List.takeWhile_append_dropWhile (p := (· = '/')) (l := path), List.mem_append] at hc
  rcases hc with hc | hc
  · exact hslash (by simpa using List.mem_takeWhile_imp hc)
  · have hmem : c ∈ (pathChars base.path).rtakeWhile (· = '/') :=
      hrest ▸ List.mem_cons_of_mem '/' hc
    exact hslash (by simpa using List.mem_rtakeWhile_imp hmem)

end Url

namespace Channel

open Url

variable {c : Channel} {host way path : List Char}

theorem endpoint_eq {text : String} {u : Url}
    (h : parseChars (c.endpointChars text.toList) = .ok u) : c.endpoint text = .ok u := by
  rw [endpoint, h]

/-- the text of an endpoint: the last stretch of the base's text goes on without its last slashes -/
theorem strip_endpointChars {front tail : List Char} {mark : Char}
    (hchars : c.baseUrl.chars = front ++ mark :: tail)
    (hlt : ∀ x ∈ c.baseUrl.chars, 0x20 < x.toNat) (hmark : mark ≠ '/') (path : List Char) :
    strip (c.endpointChars path) = front ++ mark ::
      (tail.rdropWhile (· = '/') ++ strip ('/' :: path.dropWhile (· = '/'))) := by
  have hrest : c.baseUrl.chars.rdropWhile (· = '/')
      = front ++ mark :: tail.rdropWhile (· = '/') := by
    rw [hchars, rdropWhile_append_cons (decide_eq_false hmark)]
  have hkept : ∀ x ∈ c.baseUrl.chars.rdropWhile (· = '/'), 0x20 < x.toNat := fun x hx =>
    hlt x ((List.rdropWhile_prefix _ _).subset hx)
  show strip (c.baseUrl.chars.rdropWhile (· = '/') ++ '/' :: path.dropWhile (· = '/')) = _
  rw [strip_append hkept (by decide), hrest, List.append_assoc, List.cons_append]

/-- behind a base that ends with its path, the path is joined to that -/
theorem endpoint_of_path (h : Laid c.baseUrl host way) (hweb : Web c.baseUrl.scheme)
    (hhost : special? host = .ok host) (hquery : c.baseUrl.query = none)
    (hfragment : c.baseUrl.fragment = none) (hpath : ∀ x ∈ path, x ≠ '?' ∧ x ≠ '#') :
    parseChars (c.endpointChars path) = .ok { c.baseUrl with
      path := .parts (pathParts true (strip (joinedPath c.baseUrl path))) } := by
  obtain ⟨other, hother, hfree⟩ := exists_strip_joinedPath h hpath
  -- the site does not end with a slash, so all slashes that go are those of the path
  obtain ⟨front, last, hsite⟩ : ∃ front last, siteChars c.baseUrl host = front ++ [last] :=
    ⟨_, _, (List.dropLast_concat_getLast h.site.ne_nil).symm⟩
  have hlast : last ≠ '/' := (h.site.char last (by rw [hsite]; simp)).ne (by decide)
  have hchars : c.baseUrl.chars
      = (c.baseUrl.scheme ++ ':' :: '/' :: '/' :: front) ++ last :: '/' :: way := by
    rw [h.chars, written, hquery, hfragment, hsite]
    simp only [marked, List.append_assoc, List.cons_append, List.nil_append, List.append_nil]
  have hstrip : strip (c.endpointChars path)
      = written c.baseUrl.scheme (siteChars c.baseUrl host) other none none := by
    rw [strip_endpointChars hchars (h.lt hweb) hlast, ← strip_joinedPath h, hother, written, hsite]
    simp only [marked, List.append_assoc, List.cons_append, List.nil_append, List.append_nil]
  have hnone : ∀ q ∈ (none : Option (List Char)), '#' ∉ q := by simp
  rw [parseChars_written h hweb hhost hfree hnone hstrip, hother]
  simp only [hquery, hfragment, Option.map_none]

/-- behind a base that ends with a query, the path is read as more of it -/
theorem endpoint_of_query (h : Laid c.baseUrl host way) (hweb : Web c.baseUrl.scheme)
    (hhost : special? host = .ok host) {q : List Char} (hquery : c.baseUrl.query = some q)
    (hfragment : c.baseUrl.fragment = none) (hpath : ∀ x ∈ path, x ≠ '?' ∧ x ≠ '#') :
    parseChars (c.endpointChars path) = .ok { c.baseUrl with
      query := some (encode (inQuery true)
        (q.rdropWhile (· = '/') ++ strip ('/' :: path.dropWhile (· = '/')))) } := by
  have hchars : c.baseUrl.chars = (c.baseUrl.scheme ++ ':' :: '/' :: '/' ::
      (siteChars c.baseUrl host ++ '/' :: way)) ++ '?' :: q := by
    rw [h.chars, written, hquery, hfragment]
    simp only [marked, List.append_assoc, List.cons_append, List.append_nil]
  have hstrip : strip (c.endpointChars path) = written c.baseUrl.scheme (siteChars c.baseUrl host)
      way (some (q.rdropWhile (· = '/') ++ strip ('/' :: path.dropWhile (· = '/')))) none := by
    rw [strip_endpointChars hchars (h.lt hweb) (by decide), written]
    simp only [marked, List.append_assoc, List.cons_append, List.append_nil]
  have hfree : '#' ∉ q.rdropWhile (· = '/') ++ strip ('/' :: path.dropWhile (· = '/')) := by
    rw [List.mem_append, not_or]
    refine ⟨fun hx => h.query_ne q hquery ((List.rdropWhile_prefix _ _).subset hx), fun hx => ?_⟩
    rcases List.mem_cons.mp (mem_of_mem_strip hx) with hx | hx
    · exact absurd hx (by decide)
    · exact (hpath '#' ((List.dropWhile_sublist _).mem hx)).2 rfl
  rw [parseChars_written h hweb hhost h.way_ne (fun x hx => Option.some.inj hx ▸ hfree) hstrip,
    h.reads]
  simp only [hfragment, Option.map_some, Option.map_none]

/-- behind a base that ends with a fragment, the path is read as more of it -/
theorem endpoint_of_fragment (h : Laid c.baseUrl host way) (hweb : Web c.baseUrl.scheme)
    (hhost : special? host = .ok host) {f : List Char} (hfragment : c.baseUrl.fragment = some f) :
    parseChars (c.endpointChars path) = .ok { c.baseUrl with
      fragment := some (encode inFragment
        (f.rdropWhile (· = '/') ++ strip ('/' :: path.dropWhile (· = '/')))) } := by
  have hchars : c.baseUrl.chars
      = (c.baseUrl.scheme ++ ':' :: '/' :: '/' :: (siteChars c.baseUrl host ++ '/' ::
          (way ++ marked '?' c.baseUrl.query))) ++ '#' :: f := by
    rw [h.chars, written, hfragment, marked]
    simp only [List.append_assoc, List.cons_append]
  have hstrip : strip (c.endpointChars path) = written c.baseUrl.scheme
      (siteChars c.baseUrl host) way c.baseUrl.query
      (some (f.rdropWhile (· = '/') ++ strip ('/' :: path.dropWhile (· = '/')))) := by
    rw [strip_endpointChars hchars (h.lt hweb) (by decide), written, marked]
    simp only [List.append_assoc, List.cons_append]
  rw [parseChars_written h hweb hhost h.way_ne h.query_ne hstrip, h.reads,
    map_encode_of_kept h.query]
  rfl

/-- what an endpoint is: the base with the path joined to its own, or with another query or fragment
where it has one -/
theorem endpoint_cases (h : Laid c.baseUrl host way) (hweb : Web c.baseUrl.scheme)
    (hhost : special? host = .ok host) (hpath : ∀ x ∈ path, x ≠ '?' ∧ x ≠ '#') :
    (c.baseUrl.EndsWithPath ∧ parseChars (c.endpointChars path) = .ok { c.baseUrl with
        path := .parts (pathParts true (strip (joinedPath c.baseUrl path))) }) ∨
      ¬ c.baseUrl.EndsWithPath ∧ ∃ query fragment,
        parseChars (c.endpointChars path) = .ok { c.baseUrl with query, fragment } := by
  cases hfragment : c.baseUrl.fragment with
  | some f =>
    refine .inr ⟨fun hends => ?_, _, _, endpoint_of_fragment h hweb hhost hfragment⟩
    exact nomatch hfragment.symm.trans hends.fragment
  | none =>
    cases hquery : c.baseUrl.query with
    | some q =>
      refine .inr ⟨fun hends => ?_, _, _, endpoint_of_query h hweb hhost hquery hfragment hpath⟩
      exact nomatch hquery.symm.trans hends.query
    | none =>
      exact .inl ⟨⟨hquery, hfragment⟩, endpoint_of_path h hweb hhost hquery hfragment hpath⟩

/-- **An endpoint** of a base whose host is legible is an address with the scheme, the host and the
port number of the base.  It is that of the path below the base where nothing follows the path of
the base.  Behind a query or a fragment the path of the base stays as it is, and so the endpoint is
that address only where the path appended says nothing. -/
theorem endpoint_isBelow_iff {text path : String} (hbase : Url.parse text = .ok c.baseUrl)
    (hweb : Web c.baseUrl.scheme) (hhost : ∀ host ∈ c.baseUrl.host, Legible host)
    (hpath : ∀ x ∈ path.toList, x ≠ '?' ∧ x ≠ '#') :
    ∃ u, c.endpoint path = .ok u ∧
      u.scheme = c.baseUrl.scheme ∧ u.host = c.baseUrl.host ∧ u.port = c.baseUrl.port ∧
      (u.IsBelow c.baseUrl path.toList ↔ c.baseUrl.EndsWithPath ∨
        pathChars c.baseUrl.path = spelledPath (joinedPath c.baseUrl path.toList) ∧
          u.query = c.baseUrl.query) ∧
      (¬ c.baseUrl.EndsWithPath → u.path = c.baseUrl.path) ∧
      (Spelled path.toList →
        spelledPath (joinedPath c.baseUrl path.toList) = joinedPath c.baseUrl path.toList ∧
        ((∃ x ∈ path.toList, x ≠ '/') →
          joinedPath c.baseUrl path.toList ≠ pathChars c.baseUrl.path)) := by
  obtain ⟨host, way, h⟩ := laid_of_parse hbase hweb
  have hself : special? host = .ok host := h.site.sound.host.reads (hhost host h.site.host_eq)
  have hspelled (hstands : Spelled path.toList) :
      spelledPath (joinedPath c.baseUrl path.toList) = joinedPath c.baseUrl path.toList ∧
      ((∃ x ∈ path.toList, x ≠ '/') →
        joinedPath c.baseUrl path.toList ≠ pathChars c.baseUrl.path) :=
    ⟨spelledPath_joinedPath h hstands, joinedPath_ne⟩
  rcases endpoint_cases h hweb hself hpath with ⟨hends, hu⟩ | ⟨hmore, query, fragment, hu⟩
  · refine ⟨_, endpoint_eq hu, rfl, rfl, rfl, ⟨fun _ => .inl hends, fun _ => ?_⟩,
      fun hmore => absurd hends hmore, hspelled⟩
    exact ⟨rfl, rfl, rfl, rfl, rfl⟩
  · refine ⟨_, endpoint_eq hu, rfl, rfl, rfl, ⟨fun hbelow => ?_, fun h => ?_⟩,
      fun _ => rfl, hspelled⟩
    · exact .inr ⟨hbelow.path, hbelow.query⟩
    · obtain ⟨hsame, hquery⟩ := h.resolve_left hmore
      exact ⟨rfl, rfl, rfl, hquery, hsame⟩

/-! ## bases with and without a query -/

/-- a channel whose base has a port number and ends with a slash -/
def slashed : Channel where
  name := "c"
  baseUrl :=
    { scheme := "https".toList
      host := some "h.test".toList
      port := some 8443
      path := .parts ["v1".toList, []] }

/-- a channel whose base has a query -/
def queried : Channel where
  name := "c"
  baseUrl :=
    { scheme := "https".toList
      host := some "h.test".toList
      path := .parts ["v1".toList]
      query := some "k=v".toList }

theorem lone_test : Lone "h.test".toList := by decide

theorem hostForm_test : HostForm "h.test".toList := by
  have hchars : "h.test".toList.all isPlainChar = true := by decide
  exact .name (ascii?_of_lone lone_test) (by decide)
    (fun c hc => isForbiddenInName_of_isPlainChar (List.all_eq_true.mp hchars c hc)) (by decide)

theorem special?_test : special? "h.test".toList = .ok "h.test".toList :=
  hostForm_test.reads lone_test.legible

theorem settled_version : Settled "v1".toList :=
  settled_of_plain (by decide) (by decide) (by decide)

theorem parse_slashed : Url.parse "https://h.test:8443/v1/" = .ok slashed.baseUrl := by
  have hsite : Site slashed.baseUrl "h.test".toList :=
    ⟨rfl, kept_nil, kept_nil, hostForm_test, fun n hn => by
      obtain rfl : 8443 = n := Option.some.inj hn
      decide⟩
  have hparts : ∀ part ∈ ["v1".toList, []], Settled part :=
    List.forall_mem_cons.mpr ⟨settled_version, List.forall_mem_singleton.mpr settled_nil⟩
  have hlaid : Laid slashed.baseUrl "h.test".toList _ :=
    laid_of_parts hsite rfl (by decide) hparts (by simp [slashed]) (by simp [slashed])
  have htext : "https://h.test:8443/v1/".toList = slashed.baseUrl.chars := by decide
  rw [Url.parse, htext]
  exact parseChars_chars hlaid (by decide) special?_test

theorem endpoint_isBelow_iff_slashed :
    Url.parse "https://h.test:8443/v1/" = .ok slashed.baseUrl ∧ Web slashed.baseUrl.scheme ∧
    (∀ host ∈ slashed.baseUrl.host, Legible host) ∧
    (∀ x ∈ "/chat/completions".toList, x ≠ '?' ∧ x ≠ '#') ∧
    ∃ u, slashed.endpoint "/chat/completions" = .ok u ∧
      u.IsBelow slashed.baseUrl "/chat/completions".toList ∧
      pathChars u.path = "/v1/chat/completions".toList := by
  have hhost : ∀ host ∈ slashed.baseUrl.host, Legible host := by
    intro host hmem
    obtain rfl : "h.test".toList = host := Option.some.inj hmem
    exact lone_test.legible
  have hfree : ∀ x ∈ "/chat/completions".toList, x ≠ '?' ∧ x ≠ '#' := by simp
  have hspelled : Spelled "/chat/completions".toList := by
    have hparts : Text.split (· = '/') "/chat/completions".toList
        = [[], "chat".toList, "completions".toList] := by decide
    rw [Spelled, hparts]
    exact List.forall_mem_cons.mpr ⟨settled_nil, List.forall_mem_cons.mpr
      ⟨settled_of_plain (by decide) (by decide) (by decide), List.forall_mem_singleton.mpr
        (settled_of_plain (by decide) (by decide) (by decide))⟩⟩
  refine ⟨parse_slashed, by decide, hhost, hfree, ?_⟩
  obtain ⟨u, hu, -, -, -, hbelow, -, hstands⟩ :=
    endpoint_isBelow_iff parse_slashed (by decide) hhost hfree
  have hisBelow : u.IsBelow slashed.baseUrl "/chat/completions".toList :=
    hbelow.mpr (.inl ⟨rfl, rfl⟩)
  refine ⟨u, hu, hisBelow, ?_⟩
  rw [hisBelow.path, (hstands hspelled).1]
  decide

theorem laid_queried : Laid queried.baseUrl "h.test".toList "v1".toList := by
  have hsite : Site queried.baseUrl "h.test".toList :=
    ⟨rfl, kept_nil, kept_nil, hostForm_test, by simp [queried]⟩
  have hquery : ∀ q ∈ queried.baseUrl.query, Kept (inQuery true) q := by
    intro q hq
    obtain rfl : "k=v".toList = q := Option.some.inj hq
    rw [Kept, inQuery_eq]
    simp [inControls]
  exact laid_of_parts hsite rfl (by decide) (List.forall_mem_singleton.mpr settled_version) hquery
    (by simp [queried])

theorem parse_queried : Url.parse "https://h.test/v1?k=v" = .ok queried.baseUrl := by
  have htext : "https://h.test/v1?k=v".toList = queried.baseUrl.chars := by decide
  rw [Url.parse, htext]
  exact parseChars_chars laid_queried (by decide) special?_test

/-- behind `?k=v` the path is read as more of the value -/
theorem endpoint_queried :
    queried.endpoint "messages"
      = .ok { queried.baseUrl with query := some "k=v/messages".toList } := by
  have hfree : ∀ x ∈ "messages".toList, x ≠ '?' ∧ x ≠ '#' := by simp
  have hstrip : strip ('/' :: "messages".toList.dropWhile (· = '/')) = "/messages".toList :=
    strip_of_forall (by simp)
  have hkept : Kept (inQuery true) "k=v/messages".toList := by
    rw [Kept, inQuery_eq]
    simp [inControls]
  refine endpoint_eq ?_
  rw [endpoint_of_query laid_queried (by decide) special?_test rfl rfl hfree, hstrip]
  show Except.ok { queried.baseUrl with
    query := some (encode (inQuery true) "k=v/messages".toList) } = _
  rw [encode_of_kept hkept]

/-- behind a query a path is lost -/
theorem path_lost_in_query :
    Url.parse "https://h.test/v1?k=v" = .ok queried.baseUrl ∧
    ∃ u, queried.endpoint "messages" = .ok u ∧ u.render = "https://h.test/v1?k=v/messages" ∧
      ¬ u.IsBelow queried.baseUrl "messages".toList := by
  refine ⟨parse_queried, _, endpoint_queried, by decide, fun hbelow => ?_⟩
  exact absurd hbelow.query (by decide)

end Channel
end ChatRelay
