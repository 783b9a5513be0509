import ChatRelay.Proofs.Url.Hosts
import ChatRelay.Proofs.Url.Labels

/-!
# Names that are read back

The ASCII form of a name is its own ASCII form: every label in it is read as the label that it was
written for.  So a host that is a name is read as it stands.

* `Legible`             a text with one case and no label of more digits than are read;
* `ascii?_of_ascii?`    the ASCII form of a name, if it is legible, is its own;
* `Lone`                a text of ASCII that stands for nothing else, which is its own ASCII form;
* `special?_of_name`    a host that is its own ASCII form is read as it stands, if its end is no
                        number.
-/

namespace ChatRelay.Url

open Text HostName

variable {c : Char} {cs host : List Char} {labels parts : List (List Char)}

/-- a text without capital letters and without labels of more digits than are read -/
structure Legible (cs : List Char) : Prop where
  lower : ∀ c ∈ cs, c.toLower = c
  short : ∀ label ∈ split (· = '.') cs, encodedStart <+: label → label.length ≤ 2004

/-- a text of ASCII without capital letters, no label of which stands for another one -/
structure Lone (cs : List Char) : Prop where
  ascii : ∀ c ∈ cs, isAscii c = true
  lower : ∀ c ∈ cs, c.toLower = c
  labels : ∀ label ∈ split (· = '.') cs, ¬ encodedStart <+: label

instance : Decidable (Lone cs) :=
  decidable_of_iff (cs.all isAscii = true ∧ cs.all (fun c => c.toLower = c) = true ∧
      (split (· = '.') cs).all (fun label => !encodedStart.isPrefixOf label) = true) <| by
    simp only [List.all_eq_true, decide_eq_true_eq, Bool.not_eq_true', Bool.eq_false_iff,
      List.isPrefixOf_iff_prefix, ne_eq]
    exact ⟨fun ⟨hascii, hlower, hlabels⟩ => ⟨hascii, hlower, hlabels⟩,
      fun h => ⟨h.ascii, h.lower, h.labels⟩⟩

theorem Lone.legible (h : Lone cs) : Legible cs where
  lower := h.lower
  short := fun label hlabel hstart => absurd hstart (h.labels label hlabel)

/-! ## bytes -/

theorem utf8EncodeChar_of_ascii (h : isAscii c = true) :
    ∃ b : UInt8, String.utf8EncodeChar c = [b] ∧ b.toNat = c.toNat := by
  have hlt : c.toNat < 0x80 := of_decide_eq_true h
  have hsize : c.utf8Size = 1 := by
    rw [Char.utf8Size_eq_one_iff, UInt32.le_iff_toNat_le]
    exact Nat.le_of_lt_succ hlt
  refine ⟨_, String.utf8EncodeChar_eq_singleton hsize, ?_⟩
  rw [UInt32.toNat_toUInt8]
  exact Nat.mod_eq_of_lt (Nat.lt_trans hlt (by decide))

/-- the bytes of characters of ASCII are read as these -/
theorem decodedName_of_ascii (h : ∀ c ∈ cs, isAscii c = true ∧ c ≠ '%') : decodedName cs = cs := by
  induction cs with
  | nil => rfl
  | cons c cs ih =>
    obtain ⟨hc, hpercent⟩ := h c List.mem_cons_self
    obtain ⟨b, hb, hvalue⟩ := utf8EncodeChar_of_ascii hc
    have hdecode : decode (c :: cs) = b :: decode cs := by
      rw [decode, hb]
      · rfl
      · exact fun _ _ _ he _ => hpercent he
    have hstep : Utf8.step .ground b.toNat = ([some c], .ground) := by
      show Utf8.lead b.toNat = _
      rw [Utf8.lead, hvalue, if_pos (of_decide_eq_true hc), Char.ofNat_toNat]
    have hrest : decodedName cs = cs := ih fun x hx => h x (List.mem_cons_of_mem c hx)
    rw [decodedName, hdecode, Utf8.run, hstep]
    exact congrArg (c :: ·) hrest

/-! ## names -/

theorem plain?_of_lower (hascii : ∀ c ∈ cs, isAscii c = true) (hlower : ∀ c ∈ cs, c.toLower = c) :
    HostName.plain? cs = some cs := by
  have hchar : ∀ c ∈ cs, charImage? c = some [c] := fun c hc => by
    rw [charImage?, if_pos (hascii c hc), hlower c hc]
  have hflat : (cs.map fun c => [c]).flatten = cs := by
    rw [← List.flatMap_def]
    exact List.flatMap_singleton' cs
  rw [HostName.plain?, mapM_eq_some hchar]
  show some (compose (cs.map fun c => [c]).flatten) = _
  rw [hflat, compose_of_ascii (List.all_eq_true.mpr hascii)]

theorem isAscii_of_mem_glue (h : ∀ part ∈ parts, ∀ c ∈ part, LabelChar c) :
    ∀ c ∈ glue '.' parts, isAscii c = true := fun c hc => by
  rcases mem_of_mem_glue hc with rfl | ⟨part, hpart, hc⟩
  · decide
  · exact (h part hpart c hc).1

theorem split_glue_of_labelChar (hne : parts ≠ []) (h : ∀ part ∈ parts, ∀ c ∈ part, LabelChar c) :
    split (· = '.') (glue '.' parts) = parts :=
  split_glue (by decide) hne fun part hpart c hc => decide_eq_false (h part hpart c hc).2

/-- a name that is written as its labels are is its own ASCII form -/
theorem ascii?_of_parts (hne : parts ≠ []) (hchars : ∀ part ∈ parts, ∀ c ∈ part, LabelChar c)
    (hlower : ∀ c ∈ glue '.' parts, c.toLower = c)
    (hreads : List.Forall₂ (fun part label => labelOf? part = some label) parts labels)
    (hagree : Agree labels)
    (hwritten : List.Forall₂ (fun label part => asciiLabel? label = some part) labels parts) :
    ascii? (glue '.' parts) = some (glue '.' parts) := by
  have hplain : HostName.plain? (glue '.' parts) = some (glue '.' parts) :=
    plain?_of_lower (isAscii_of_mem_glue hchars) hlower
  have hsplit : split (· = '.') (glue '.' parts) = parts := split_glue_of_labelChar hne hchars
  refine ascii?_eq_some_iff.mpr ⟨labels, parts, ?_, hwritten, rfl⟩
  exact labels?_eq_some_iff.mpr ⟨_, hplain, hsplit.symm ▸ hreads, hagree⟩

/-- **The ASCII form of a name** is of ASCII and its own ASCII form, if it is legible. -/
theorem ascii?_of_ascii? (h : ascii? cs = some host) (hlegible : Legible host) :
    (∀ c ∈ host, isAscii c = true) ∧ ascii? host = some host := by
  obtain ⟨labels, parts, hlabels, hwritten, rfl⟩ := ascii?_eq_some_iff.mp h
  obtain ⟨name, -, hof, hagree⟩ := labels?_eq_some_iff.mp hlabels
  have hne : parts ≠ [] := by
    rintro rfl
    rw [List.forall₂_nil_right_iff.mp hwritten, List.forall₂_nil_right_iff] at hof
    exact split_ne_nil _ name hof
  have hlabel : ∀ label ∈ labels, ReadLabel label := fun label hmem => by
    obtain ⟨part, hpart, hread⟩ := exists_of_mem_right hof hmem
    exact readLabel_of_labelOf? hread fun hdot =>
      of_decide_eq_false (sep_of_mem_split hpart '.' hdot) rfl
  have hchars : ∀ part ∈ parts, ∀ c ∈ part, LabelChar c := fun part hpart => by
    obtain ⟨label, hmem, hlabelPart⟩ := exists_of_mem_right hwritten hpart
    exact (hlabel label hmem).labelChar hlabelPart
  have hsplit : split (· = '.') (glue '.' parts) = parts := split_glue_of_labelChar hne hchars
  have hreads : List.Forall₂ (fun part label => labelOf? part = some label) parts labels := by
    refine List.Forall₂.flip ((forall₂_and_mem hwritten).imp ?_)
    rintro label part ⟨⟨hmem, hpart⟩, hlabelPart⟩
    exact (hlabel label hmem).labelOf?_written hlabelPart (hlegible.short part (by rwa [hsplit]))
  exact ⟨isAscii_of_mem_glue hchars,
    ascii?_of_parts hne hchars hlegible.lower hreads hagree hwritten⟩

/-! ## names of ASCII -/

theorem isWellFormed_of_ascii {label : List Char} (h : ∀ c ∈ label, isAscii c = true) :
    isWellFormed label = true := by
  have hstand (before cs : List Char) (h : ∀ c ∈ cs, isAscii c = true) :
      joinersStand before cs = true := by
    induction cs generalizing before with
    | nil => rfl
    | cons c cs ih =>
      have hc : isAscii c = true := h c List.mem_cons_self
      have hnon : c ≠ nonJoiner := by rintro rfl; exact absurd hc (by decide)
      have hjoiner : c ≠ joiner := by rintro rfl; exact absurd hc (by decide)
      rw [joinersStand, ih _ fun x hx => h x (List.mem_cons_of_mem c hx)]
      simp [hnon, hjoiner]
  cases label with
  | nil => rfl
  | cons c label =>
    rw [isWellFormed, Trait.of_ascii (h c List.mem_cons_self), hstand [] _ h]
    rfl

theorem isLeftward_of_ascii (h : isAscii c = true) : isLeftward c = false := by
  rw [isLeftward, direction, Trait.of_ascii h, Trait.ofAscii]
  split
  · rfl
  · split <;> rfl

theorem agree_of_ascii (h : ∀ label ∈ labels, ∀ c ∈ label, isAscii c = true) : Agree labels := by
  refine ⟨List.all_eq_true.mpr fun label hlabel => isWellFormed_of_ascii (h label hlabel),
    fun hleftward => ?_⟩
  obtain ⟨c, hc, hleft⟩ := List.any_eq_true.mp hleftward
  obtain ⟨label, hlabel, hc⟩ := List.mem_flatten.mp hc
  exact nomatch hleft.symm.trans (isLeftward_of_ascii (h label hlabel c hc))

/-- a lone name is its own ASCII form -/
theorem ascii?_of_lone (h : Lone cs) : ascii? cs = some cs := by
  have hascii : ∀ label ∈ split (· = '.') cs, ∀ c ∈ label, isAscii c = true :=
    fun label hlabel c hc => h.ascii c (mem_of_mem_split hlabel hc)
  have hchars : ∀ label ∈ split (· = '.') cs, ∀ c ∈ label, LabelChar c :=
    fun label hlabel c hc =>
      ⟨hascii label hlabel c hc, of_decide_eq_false (sep_of_mem_split hlabel c hc)⟩
  have hread : ∀ label ∈ split (· = '.') cs, labelOf? label = some label := fun label hlabel => by
    rw [labelOf?, afterStart?_eq_none_iff.mpr (h.labels label hlabel)]
  have hwritten : ∀ label ∈ split (· = '.') cs, asciiLabel? label = some label :=
    fun label hlabel => by
      rw [asciiLabel?, if_pos (List.all_eq_true.mpr (hascii label hlabel))]
  have hglue : glue '.' (split (· = '.') cs) = cs := glue_split '.' cs
  have hself := ascii?_of_parts (split_ne_nil _ cs) hchars (hglue.symm ▸ h.lower)
    (List.forall₂_same.mpr hread) (agree_of_ascii hascii) (List.forall₂_same.mpr hwritten)
  rwa [hglue] at hself

/-! ## hosts -/

theorem bounds_of_isForbiddenInName (h : isForbiddenInName c = false) : c ≠ '%' ∧ c ≠ '[' := by
  refine ⟨?_, (nameChar_of_isForbiddenInName h).ne (by decide)⟩
  rintro rfl
  rw [isForbiddenInName, decide_eq_true (show '%' = '%' from rfl), Bool.or_true] at h
  cases h

/-- how a host is read that is its own ASCII form -/
theorem special?_of_ascii? (hascii : ∀ c ∈ host, isAscii c = true) (hself : ascii? host = some host)
    (hne : host ≠ []) (hallowed : ∀ c ∈ host, isForbiddenInName c = false) :
    special? host = if endsInNumber host then
      match ((hostParts host).mapM hostNumber?).bind (addressOf? · 4) with
      | some n => .ok (fourNumbers n)
      | none => .error .fourNumbers
    else .ok host := by
  have hbracket : ¬ host.head? = some '[' := fun hhead =>
    (bounds_of_isForbiddenInName (hallowed '[' (List.mem_of_mem_head? hhead))).2 rfl
  have hname : ascii? (decodedName host) = some host := by
    rw [decodedName_of_ascii fun c hc =>
      ⟨hascii c hc, (bounds_of_isForbiddenInName (hallowed c hc)).1⟩, hself]
  have hany : host.any isForbiddenInName = false :=
    List.any_eq_false.mpr fun c hc => Bool.eq_false_iff.mp (hallowed c hc)
  rw [special?, if_neg hbracket, hname]
  simp only [List.isEmpty_eq_false_iff.mpr hne, hany]
  rfl

/-- a host that is its own ASCII form and does not end in a number is read as it stands -/
theorem special?_of_name (hascii : ∀ c ∈ host, isAscii c = true) (hself : ascii? host = some host)
    (hne : host ≠ []) (hallowed : ∀ c ∈ host, isForbiddenInName c = false)
    (hnumber : endsInNumber host = false) : special? host = .ok host := by
  rw [special?_of_ascii? hascii hself hne hallowed, hnumber]
  rfl

end ChatRelay.Url
