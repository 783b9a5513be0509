import ChatRelay.Proofs.Anthropic.Images

/-!
# Addresses of images, there and back

An image of the shared form is known by its address, an image of a request by its source.  A data
address becomes inline data: what stands in front of its first comma is the media type, without the
mark that the data is base64.  The address of inline data always bears the mark.  So a data address
that had none comes back with one, though its data is as it was; every other address comes back
unchanged, and so does every source that its address can only be the address of.

* `sourceOfAddress_of_cut`   what a data address becomes;
* `address_kept_iff`         the addresses and the sources that come back.
-/

namespace ChatRelay.Anthropic

/-- a data address, cut at its first comma -/
structure DataAddress (address : String) (kind data : List Char) : Prop where
  chars : address.toList = "data:".toList ++ (kind ++ ',' :: data)
  first : ',' ∉ kind

variable {address : String} {kind data : List Char}

theorem cut_eq_some_iff :
    (Text.afterStart? "data:".toList address.toList).bind (Text.cutAt? ',') = some (kind, data) ↔
      DataAddress address kind data := by
  constructor
  · intro h
    obtain ⟨rest, hrest, hcut⟩ := Option.bind_eq_some_iff.mp h
    refine ⟨?_, Text.not_mem_of_cutAt? hcut⟩
    rw [Text.eq_append_of_afterStart? hrest, Text.eq_append_of_cutAt? hcut]
  · intro h
    rw [h.chars, Text.afterStart?_append, Option.bind_some, Text.cutAt?_append h.first]

theorem sourceOfAddress_of_cut (h : DataAddress address kind data) :
    sourceOfAddress address
      = .base64 (String.ofList ((Text.beforeEnd? base64Mark kind).getD kind))
          (String.ofList data) := by
  rw [sourceOfAddress, cut_eq_some_iff.mpr h]
  rfl

theorem sourceOfAddress_of_uncut (h : ∀ kind data, ¬ DataAddress address kind data) :
    sourceOfAddress address = .url address := by
  have hnone : (Text.afterStart? "data:".toList address.toList).bind (Text.cutAt? ',') = none := by
    refine Option.eq_none_iff_forall_ne_some.mpr fun cut hcut => ?_
    exact h cut.1 cut.2 (cut_eq_some_iff.mp hcut)
  rw [sourceOfAddress, hnone]

/-- a data address with the mark comes back -/
theorem address_of_marked (h : DataAddress address kind data) (hmark : base64Mark <:+ kind) :
    (sourceOfAddress address).address = address := by
  obtain ⟨front, rfl⟩ := hmark
  have hend : Text.beforeEnd? base64Mark (front ++ base64Mark) = some front :=
    Text.beforeEnd?_append front base64Mark
  rw [sourceOfAddress_of_cut h, hend, Option.getD_some]
  apply String.toList_inj.mp
  rw [toList_address_base64, h.chars]

/-- a data address without the mark comes back with it -/
theorem address_of_unmarked (h : DataAddress address kind data) (hmark : ¬ base64Mark <:+ kind) :
    (sourceOfAddress address).address.toList
      = "data:".toList ++ (kind ++ base64Mark ++ ',' :: data) := by
  have hend : Text.beforeEnd? base64Mark kind = none := by
    cases hfront : Text.beforeEnd? base64Mark kind with
    | none => rfl
    | some front => exact absurd ⟨front, (Text.eq_append_of_beforeEnd? hfront).symm⟩ hmark
  rw [sourceOfAddress_of_cut h, hend, Option.getD_none, toList_address_base64]

/-- **Addresses and sources that come back.**  An address comes back from its source exactly where
it is no data address or says that its data is base64; a data address that does not say so comes
back with the mark put in front of its first comma.  A source comes back from its address where it
is inline data whose media type has no comma, or an address that does not begin as a data
address. -/
theorem address_kept_iff (address mediaType content : String) :
    ((sourceOfAddress address).address = address ↔
      ∀ kind data, DataAddress address kind data → base64Mark <:+ kind) ∧
    (∀ kind data, DataAddress address kind data → ¬ base64Mark <:+ kind →
      (sourceOfAddress address).address.toList
        = "data:".toList ++ (kind ++ base64Mark ++ ',' :: data)) ∧
    (',' ∉ mediaType.toList →
      sourceOfAddress (ImageSource.base64 mediaType content).address
        = .base64 mediaType content) ∧
    (¬ "data:".toList <+: address.toList →
      sourceOfAddress (ImageSource.url address).address = .url address) := by
  refine ⟨⟨fun hkept kind data h => ?_, fun hmarked => ?_⟩, fun kind data => address_of_unmarked,
    fun hcomma => ?_, fun hstart => ?_⟩
  · -- the mark that is put in makes an address longer
    by_contra hmark
    have hlonger := congrArg List.length (address_of_unmarked h hmark)
    have hlength := congrArg List.length h.chars
    have hmarks : base64Mark.length = 7 := by decide
    rw [hkept] at hlonger
    simp only [List.length_append, List.length_cons] at hlonger hlength
    omega
  · by_cases hcut : ∃ kind data, DataAddress address kind data
    · obtain ⟨kind, data, h⟩ := hcut
      exact address_of_marked h (hmarked kind data h)
    · have huncut : ∀ kind data, ¬ DataAddress address kind data :=
        fun kind data h => hcut ⟨kind, data, h⟩
      rw [sourceOfAddress_of_uncut huncut]
      rfl
  · exact ImageSource.resent_of_plain (s := .base64 mediaType content) hcomma
  · exact ImageSource.resent_of_plain (s := .url address) (Text.afterStart?_eq_none_iff.mpr hstart)

theorem address_kept_iff_pasted :
    (sourceOfAddress "data:image/png;q=1;base64,iV,;base64,OR").address
      = "data:image/png;q=1;base64,iV,;base64,OR" ∧
    (sourceOfAddress "data:,").address.toList = "data:;base64,".toList ∧
    sourceOfAddress (ImageSource.base64 "image/png;base64" "a,b").address
      = .base64 "image/png;base64" "a,b" ∧
    sourceOfAddress (ImageSource.url "DATA:,").address = .url "DATA:," := by
  obtain ⟨hkept, -, hdata, -⟩ :=
    address_kept_iff "data:image/png;q=1;base64,iV,;base64,OR" "image/png;base64" "a,b"
  obtain ⟨-, hunmarked, -, -⟩ := address_kept_iff "data:," "" ""
  obtain ⟨-, -, -, hurl⟩ := address_kept_iff "DATA:," "" ""
  refine ⟨hkept.mpr fun kind data h => ?_, ?_, hdata (by decide +kernel), hurl (by decide +kernel)⟩
  · have hcut := cut_eq_some_iff.mpr h
    have hwhere : (Text.afterStart? "data:".toList
        "data:image/png;q=1;base64,iV,;base64,OR".toList).bind (Text.cutAt? ',')
          = some ("image/png;q=1;base64".toList, "iV,;base64,OR".toList) := by decide +kernel
    obtain ⟨rfl, -⟩ := Prod.mk.inj (Option.some.inj (hwhere.symm.trans hcut))
    decide +kernel
  · rw [hunmarked [] [] ⟨by decide +kernel, List.not_mem_nil⟩ (by decide +kernel)]
    decide +kernel

/-- percent-encoded data is said to be base64 -/
theorem unmarked_data_relabelled :
    sourceOfAddress "data:image/svg+xml,%3Csvg%3E" = .base64 "image/svg+xml" "%3Csvg%3E" ∧
    (sourceOfAddress "data:image/svg+xml,%3Csvg%3E").address
      = "data:image/svg+xml;base64,%3Csvg%3E" ∧
    (sourceOfAddress "data:image/svg+xml,%3Csvg%3E").address ≠ "data:image/svg+xml,%3Csvg%3E" := by
  decide +kernel

end ChatRelay.Anthropic
