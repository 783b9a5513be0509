import ChatRelay.Fault
import ChatRelay.Proofs.Url.Hosts

/-!
# What stands in front of a path

The user, the host and the port number of an address are written so that they are found again: what
keeps them apart stands in none of them, except for the colons of a host in brackets.

* `authority_ok`            what is known of an authority that was read;
* `Site`                    an address with such an authority;
* `Site.authority_written`  its authority is read back if its host is.
-/

namespace ChatRelay.Url

variable {c : Char} {cs host scheme : List Char} {n : Nat}

/-! ## authorities that were read -/

theorem siteChar_of_inUserinfo (h : inUserinfo c = false) : SiteChar c := by
  rw [inUserinfo_eq, Bool.or_eq_false_iff, decide_eq_false_iff_not] at h
  obtain ⟨hpath, hmarks⟩ := h
  refine ⟨lt_of_inPath hpath, fun hc => ?_⟩
  rw [inPath_eq, Bool.or_eq_false_iff, decide_eq_false_iff_not] at hpath
  simp only [List.mem_cons, List.not_mem_nil, or_false] at hc hmarks hpath
  tauto

theorem authority_last (h : isSpecial scheme = true) (last : Bool) (cs : List Char) :
    authority scheme last cs = authority scheme true cs := by
  simp only [authority, h, Bool.true_or]

theorem kept_userOf (cs : List Char) :
    Kept inUserinfo (userOf cs).1 ∧ Kept inUserinfo (userOf cs).2 := by
  have hkept : ∀ cs, Kept inUserinfo (encode inUserinfo cs) := kept_encode stable_inUserinfo
  rw [userOf]
  split
  · exact ⟨hkept _, hkept _⟩
  · exact ⟨hkept _, kept_nil⟩

theorem mem_of_mem_cutAtSign (h : c ∈ (cutAtSign cs).2) : c ∈ cs := by
  rw [cutAtSign] at h
  split at h
  · next after before hcut =>
    rw [← List.mem_reverse, Text.eq_append_of_cutAt? hcut]
    exact List.mem_append_left _ (List.mem_reverse.mp h)
  · exact h

theorem mem_of_mem_cutAtPort {inside : Bool} {port : List Char}
    (hport : (cutAtPort inside cs).2 = some port) (h : c ∈ port) : c ∈ cs := by
  induction cs generalizing inside with
  | nil => exact nomatch hport
  | cons x cs ih =>
    rw [cutAtPort] at hport
    split at hport
    · obtain rfl := Option.some.inj hport
      exact List.mem_cons_of_mem x h
    · exact List.mem_cons_of_mem x (ih hport)

/-- a port number that was read fits in 16 bits, and nothing but a path at once follows it -/
theorem portOf_ok {port : Option Nat} {rest : List Char} (h : portOf cs = .ok (port, rest)) :
    (∀ n ∈ port, n < 65536) ∧ ('\\' ∉ cs → rest = []) := by
  rw [portOf] at h
  split at h
  · next hrest =>
    have hnone (hback : '\\' ∉ cs) : cs.dropWhile Char.isDigit = [] := by
      rcases Bool.or_eq_true_iff.mp hrest with hrest | hrest
      · exact List.isEmpty_iff.mp hrest
      · have hmem : '\\' ∈ cs.dropWhile Char.isDigit :=
          List.mem_of_mem_head? (of_decide_eq_true hrest)
        exact absurd ((List.dropWhile_sublist _).mem hmem) hback
    split at h
    · obtain ⟨rfl, rfl⟩ := Prod.mk.inj (Except.ok.inj h)
      exact ⟨(fun n hn => nomatch hn), hnone⟩
    · split at h
      · next m hm =>
        obtain ⟨rfl, rfl⟩ := Prod.mk.inj (Except.ok.inj h)
        refine ⟨fun n hn => ?_, hnone⟩
        obtain rfl := Option.some.inj hn
        exact of_decide_eq_true (Option.filter_eq_some_iff.mp hm).2
      · cases h
  · cases h

/-- what is known of an authority that was read -/
structure Sound (scheme : List Char) (a : Authority) : Prop where
  username : Kept inUserinfo a.username
  password : Kept inUserinfo a.password
  host : HostForm a.host
  port : ∀ n ∈ a.port, n < 65536 ∧ some n ≠ standardPort? scheme

theorem authority_ok {last : Bool} {a : Authority} (hspecial : isSpecial scheme = true)
    (h : authority scheme last cs = .ok a) : Sound scheme a ∧ ('\\' ∉ cs → a.rest = []) := by
  rw [authority] at h
  simp only [hspecial, Bool.true_or, Bool.and_true, if_true] at h
  split at h
  · cases h
  · obtain ⟨host, hhost, h⟩ := ok_of_bind h
    obtain ⟨⟨port, rest⟩, hport, h⟩ := ok_of_bind h
    obtain rfl := Except.ok.inj h
    obtain ⟨hbound, hrest⟩ := portOf_ok hport
    have huser : Kept inUserinfo (((cutAtSign cs).1.map userOf).getD ([], [])).1 ∧
        Kept inUserinfo (((cutAtSign cs).1.map userOf).getD ([], [])).2 := by
      cases (cutAtSign cs).1 with
      | none => exact ⟨kept_nil, kept_nil⟩
      | some user => exact kept_userOf user
    refine ⟨⟨huser.1, huser.2, hostForm_of_special hhost, fun n hn => ?_⟩, fun hback =>
      hrest fun hmem => hback ?_⟩
    · obtain ⟨hn, hother⟩ := Option.filter_eq_some_iff.mp hn
      exact ⟨hbound n hn, of_decide_eq_true hother⟩
    · cases htext : (cutAtPort false (cutAtSign cs).2).2 with
      | none =>
        rw [htext] at hmem
        cases hmem
      | some port =>
        rw [htext] at hmem
        exact mem_of_mem_cutAtSign (mem_of_mem_cutAtPort htext hmem)

/-! ## authorities as they are written -/

/-- a port number as it is written behind a host -/
def portChars : Option Nat → List Char
  | some n => ':' :: Nat.toDigits 10 n
  | none => []

/-- what stands in front of the path of an address with a host -/
def siteChars (u : Url) (host : List Char) : List Char := u.userChars ++ host ++ portChars u.port

/-- an address of which a sound authority was read -/
structure Site (u : Url) (host : List Char) : Prop where
  host_eq : u.host = some host
  sound : Sound u.scheme
    { username := u.username, password := u.password, host, port := u.port, rest := [] }

variable {u : Url}

theorem hostChars_eq (h : u.host = some host) : u.hostChars = '/' :: '/' :: siteChars u host := by
  rw [hostChars, h, siteChars]
  cases u.port with
  | none => rfl
  | some n => rfl

theorem mem_portChars {port : Option Nat} (h : c ∈ portChars port) : NameChar c ∨ c = ':' := by
  cases port with
  | none => exact nomatch h
  | some n =>
    rcases List.mem_cons.mp h with rfl | h
    · exact .inr rfl
    · exact .inl (nameChar_of_mem_toDigits (by decide) (by decide) h)

namespace Site

theorem userChars (h : Site u host) (hc : c ∈ u.userChars) : SiteChar c := by
  rw [Url.userChars] at hc
  split at hc
  · exact nomatch hc
  · rcases List.mem_append.mp hc with hc | hc
    · rcases List.mem_append.mp hc with hc | hc
      · exact siteChar_of_inUserinfo (h.sound.username c hc)
      · split at hc
        · exact nomatch hc
        · rcases List.mem_cons.mp hc with rfl | hc
          · decide
          · exact siteChar_of_inUserinfo (h.sound.password c hc)
    · obtain rfl := List.mem_singleton.mp hc
      decide

theorem ne_nil (h : Site u host) : siteChars u host ≠ [] :=
  List.append_ne_nil_of_left_ne_nil
    (List.append_ne_nil_of_right_ne_nil _ h.sound.host.text.ne_nil) _

theorem char (h : Site u host) : ∀ c ∈ siteChars u host, SiteChar c := by
  intro c hc
  rcases List.mem_append.mp hc with hc | hc
  · exact (List.mem_append.mp hc).elim h.userChars h.sound.host.text.siteChar
  · rcases mem_portChars hc with hc | rfl
    · exact hc.siteChar
    · decide

end Site

/-! ## authorities read again -/

theorem cutAtPort_append {inside : Bool}
    (h : ∀ c ∈ cs, c ≠ '[' ∧ c ≠ ']' ∧ (inside = false → c ≠ ':')) (rest : List Char) :
    cutAtPort inside (cs ++ rest)
      = (cs ++ (cutAtPort inside rest).1, (cutAtPort inside rest).2) := by
  induction cs with
  | nil => rfl
  | cons c cs ih =>
    obtain ⟨hopen, hclose, hcolon⟩ := h c List.mem_cons_self
    rw [List.cons_append, cutAtPort, if_neg fun hc => hcolon hc.2 hc.1, if_neg hopen, if_neg hclose,
      ih fun x hx => h x (List.mem_cons_of_mem c hx)]
    rfl

/-- the colons of a host do not end it -/
theorem HostText.cutAtPort (h : HostText host) (rest : List Char) :
    cutAtPort false (host ++ rest)
      = (host ++ (cutAtPort false rest).1, (cutAtPort false rest).2) := by
  cases h with
  | name _ hall =>
    exact cutAtPort_append (fun c hc => ⟨(hall c hc).ne (by decide), (hall c hc).ne (by decide),
      fun _ => (hall c hc).ne (by decide)⟩) rest
  | @pieces cs hall =>
    have hinner : ∀ c ∈ cs, c ≠ '[' ∧ c ≠ ']' ∧ (true = false → c ≠ ':') := fun c hc => by
      rcases hall c hc with hc | rfl
      · exact ⟨hc.ne (by decide), hc.ne (by decide), fun h => nomatch h⟩
      · decide
    rw [List.cons_append, List.cons_append, List.append_assoc, List.singleton_append,
      Url.cutAtPort, if_neg (by decide), if_pos rfl, cutAtPort_append hinner, Url.cutAtPort,
      if_neg (by decide), if_neg (by decide), if_pos rfl]
    simp

theorem portOf_toDigits (h : n < 65536) : portOf (Nat.toDigits 10 n) = .ok (some n, []) := by
  have hdigits : ∀ c ∈ Nat.toDigits 10 n, c.isDigit = true := fun c hc =>
    Nat.isDigit_of_mem_toDigits (by decide) (by decide) hc
  have htake : (Nat.toDigits 10 n).takeWhile Char.isDigit = Nat.toDigits 10 n :=
    List.takeWhile_eq_self_iff.mpr hdigits
  have hdrop : (Nat.toDigits 10 n).dropWhile Char.isDigit = [] :=
    List.dropWhile_eq_nil_iff.mpr hdigits
  have hne : (Nat.toDigits 10 n).isEmpty = false :=
    List.isEmpty_eq_false_iff.mpr Nat.toDigits_ne_nil
  have hbound : (some n).filter (· < 65536) = some n :=
    Option.filter_eq_some_iff.mpr ⟨rfl, decide_eq_true h⟩
  rw [portOf, htake, hdrop]
  simp only [hne, digits?_toDigits (by decide : 1 < 10) (by decide), hbound]
  rfl

theorem cutAtPort_portChars (port : Option Nat) :
    cutAtPort false (portChars port) = ([], port.map (Nat.toDigits 10)) := by
  cases port with
  | none => rfl
  | some n => rfl

theorem portOf_portChars {port : Option Nat} (h : ∀ n ∈ port, n < 65536) :
    portOf ((port.map (Nat.toDigits 10)).getD []) = .ok (port, []) := by
  cases port with
  | none => rfl
  | some n => exact portOf_toDigits (h n rfl)

theorem cutAtSign_append {user site : List Char} (h : ∀ c ∈ site, c ≠ '@') :
    cutAtSign (user ++ '@' :: site) = (some user, site) := by
  have hmem : '@' ∉ site.reverse := fun hc => h '@' (List.mem_reverse.mp hc) rfl
  have hreverse : (user ++ '@' :: site).reverse = site.reverse ++ '@' :: user.reverse := by simp
  rw [cutAtSign, hreverse, Text.cutAt?_append hmem]
  simp only [List.reverse_reverse]

theorem cutAtSign_of_forall (h : ∀ c ∈ cs, c ≠ '@') : cutAtSign cs = (none, cs) := by
  rw [cutAtSign, Text.cutAt?_of_forall_ne fun c hc => h c (List.mem_reverse.mp hc)]

theorem userOf_written {name password : List Char} (hname : Kept inUserinfo name)
    (hpassword : Kept inUserinfo password) :
    userOf (name ++ if password.isEmpty then [] else ':' :: password) = (name, password) := by
  have hcolon : ∀ c ∈ name, c ≠ ':' := by
    rintro c hc rfl
    have hset : inUserinfo ':' = true := by
      rw [inUserinfo_eq, inPath_eq, inFragment_eq]
      decide
    exact nomatch hset.symm.trans (hname ':' hc)
  cases password with
  | nil =>
    show userOf (name ++ []) = _
    rw [List.append_nil, userOf, Text.cutAt?_of_forall_ne hcolon]
    simp only [encode_of_kept hname]
  | cons c password =>
    show userOf (name ++ ':' :: c :: password) = _
    rw [userOf, Text.cutAt?_append fun hc => hcolon ':' hc rfl]
    simp only [encode_of_kept hname, encode_of_kept hpassword]

/-- the user that was read is read again -/
theorem Site.user_written (h : Site u host) {site : List Char} (hsite : ∀ c ∈ site, c ≠ '@') :
    ((cutAtSign (u.userChars ++ site)).1.map userOf).getD ([], []) = (u.username, u.password) ∧
      (cutAtSign (u.userChars ++ site)).2 = site := by
  rw [Url.userChars]
  split
  · next hempty =>
    rw [Bool.and_eq_true, List.isEmpty_iff, List.isEmpty_iff] at hempty
    rw [List.nil_append, cutAtSign_of_forall hsite, hempty.1, hempty.2]
    exact ⟨rfl, rfl⟩
  · rw [List.append_assoc, List.singleton_append, cutAtSign_append hsite]
    exact ⟨userOf_written h.sound.username h.sound.password, rfl⟩

/-- **An authority is read back** if its host is. -/
theorem Site.authority_written (h : Site u host) (hspecial : isSpecial u.scheme = true)
    (hhost : special? host = .ok host) :
    authority u.scheme true (siteChars u host) = .ok
      { username := u.username, password := u.password, host, port := u.port, rest := [] } := by
  have hsite : ∀ c ∈ host ++ portChars u.port, c ≠ '@' := by
    intro c hc
    rcases List.mem_append.mp hc with hc | hc
    · exact h.sound.host.text.ne_at hc
    · rcases mem_portChars hc with hc | rfl
      · exact hc.ne (by decide)
      · decide
  obtain ⟨huser, hrest⟩ := h.user_written hsite
  have hcut : cutAtPort false (host ++ portChars u.port)
      = (host, u.port.map (Nat.toDigits 10)) := by
    rw [h.sound.host.text.cutAtPort, cutAtPort_portChars, List.append_nil]
  have hport : u.port.filter (some · ≠ standardPort? u.scheme) = u.port := by
    cases hu : u.port with
    | none => rfl
    | some n =>
      exact Option.filter_eq_some_iff.mpr ⟨rfl, decide_eq_true (h.sound.port n hu).2⟩
  have hnonempty : host.isEmpty = false := List.isEmpty_eq_false_iff.mpr h.sound.host.text.ne_nil
  rw [authority, siteChars, List.append_assoc]
  simp only [huser, hrest, hcut, hspecial, hnonempty, hhost, Bool.false_and, if_true,
    portOf_portChars fun n hn => (h.sound.port n hn).1]
  show Except.ok _ = _
  rw [hport]

end ChatRelay.Url
