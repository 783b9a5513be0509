import ChatRelay.Proofs.CanonicalRecord
import ChatRelay.Proofs.JsonText
import Mathlib.Data.List.Forall2

/-!
# Documents that are written and read again

A document that was written may come to a reader as it stands, from its text, or as the value that
it means, with the fields of every object in the order of their keys.  A record looks its fields up
by name, so that it is all the same to it, as long as no name is written twice.

* `Given`                  what a reader may be given for a document;
* `Given.items`, `Given.fields`   the same for what stands in an array or an object;
* `Reads`                  a reader recovers a value, whichever it is given;
* `Given.record`, `Given.tagged`  the record that is made of what is given, and its tag;
* `Record.Holds`           what such a record says in its fields;
* `meaningful`, `fits`     which documents mean a value, which are read from their text.
-/

namespace ChatRelay.Json

/-! ## looking up sorted fields -/

theorem lookup_cons_ite {β : Type} (k : String) (v : β) (fs : List (String × β)) (name : String) :
    ((k, v) :: fs).lookup name = if name = k then some v else fs.lookup name := by
  rw [List.lookup_cons]
  split
  · next h => rw [if_pos (eq_of_beq h)]
  · next h => rw [if_neg (beq_eq_false_iff_ne.mp h)]

theorem lookup_eq_none {β : Type} {fs : List (String × β)} {k : String}
    (h : k ∉ fs.map (·.1)) : fs.lookup k = none := by
  rw [List.lookup_eq_none_iff]
  exact fun f hf => bne_iff_ne.mpr fun e => h (List.mem_map.mpr ⟨f, hf, e.symm⟩)

theorem lookup_setField (k : String) (v : Json) (fs : List (String × Json)) (name : String) :
    (setField k v fs).lookup name = if name = k then some v else fs.lookup name := by
  induction fs with
  | nil => rw [setField, lookup_cons_ite]
  | cons f fs ih =>
    obtain ⟨l, w⟩ := f
    rw [setField, lookup_cons_ite l w]
    split
    · rw [lookup_cons_ite, lookup_cons_ite]
    · split
      · next heq =>
        subst heq
        rw [lookup_cons_ite]
        split <;> rfl
      · next hne =>
        rw [lookup_cons_ite, ih]
        split
        · next heq =>
          subst heq
          rw [if_neg fun e => hne e.symm]
        · rfl

/-- among fields of which no name stands twice, sorting moves none to another name -/
theorem lookup_sortFields {fs : List (String × Json)} (h : (fs.map (·.1)).Nodup) (name : String) :
    (sortFields fs).lookup name = fs.lookup name := by
  have hfold (acc : List (String × Json)) :
      (fs.foldl (fun acc f => setField f.1 f.2 acc) acc).lookup name
        = (fs.lookup name).or (acc.lookup name) := by
    induction fs generalizing acc with
    | nil => rfl
    | cons f fs ih =>
      obtain ⟨k, v⟩ := f
      rw [List.map_cons, List.nodup_cons] at h
      rw [List.foldl_cons, ih h.2, lookup_setField, lookup_cons_ite]
      split
      · next hk =>
        subst hk
        rw [lookup_eq_none h.1]
        rfl
      · rfl
  rw [sortFields, hfold]
  exact Option.or_none

/-! ## what a reader may be given -/

/-- what a reader may be given for a document: the document as it stands, or the value it means -/
def Given (j w : Json) : Prop := (w = j ∧ j.readable = true) ∨ j.normalize? = some w

namespace Given

/-- a document is given as it stands -/
theorem self {j : Json} (h : j.readable = true) : Given j j := .inl ⟨rfl, h⟩

/-- a document is given as the value it means -/
theorem value {j w : Json} (h : j.normalize? = some w) : Given j w := .inr h

theorem readable {j w : Json} (h : Given j w) : w.readable = true := by
  obtain ⟨rfl, hj⟩ | hw := h
  · exact hj
  · exact readable_of_canonical w (canonical_normalize? j hw)

/-- a canonical document is the value it means -/
theorem eq_of_canonical {j w : Json} (h : Given j w) (hj : j.canonical = true) : w = j := by
  obtain ⟨rfl, -⟩ | hw := h
  · rfl
  · rw [normalize?_canonical j hj] at hw
    exact (Option.some.inj hw).symm

theorem eq_null_iff {j w : Json} (h : Given j w) : w = .null ↔ j = .null := by
  obtain ⟨rfl, -⟩ | hw := h
  · rfl
  · constructor
    · rintro rfl
      cases j with
      | null => rfl
      | bool b => exact nomatch hw
      | text s => exact nomatch hw
      | unreadable => exact nomatch hw
      | number n => simp [normalize?] at hw
      | array xs => simp [normalize?] at hw
      | object fs => simp [normalize?] at hw
    · rintro rfl
      exact (Option.some.inj hw).symm

theorem forall₂_self {xs : List Json} (h : readableItems xs = true) : List.Forall₂ Given xs xs := by
  rw [readableItems_eq_all, List.all_eq_true] at h
  exact List.forall₂_same.mpr fun x hx => self (h x hx)

theorem forall₂_value {xs ys : List Json} (h : normalizeItems? xs = some ys) :
    List.Forall₂ Given xs ys := by
  induction xs generalizing ys with
  | nil =>
    rw [← Option.some.inj h]
    exact .nil
  | cons x xs ih =>
    simp only [normalizeItems?] at h
    split at h
    · next y ys hy hys =>
      rw [← Option.some.inj h]
      exact .cons (value hy) (ih hys)
    · cases h

/-- for an array an array is given, item for item -/
theorem items {xs : List Json} {w : Json} (h : Given (.array xs) w) :
    ∃ ys, w = .array ys ∧ List.Forall₂ Given xs ys := by
  obtain ⟨rfl, hj⟩ | hw := h
  · exact ⟨xs, rfl, forall₂_self hj⟩
  · simp only [normalize?, Option.map_eq_some_iff] at hw
    obtain ⟨ys, hys, rfl⟩ := hw
    exact ⟨ys, rfl, forall₂_value hys⟩

theorem lookup_self {fs : List (String × Json)} (h : readableFields fs = true) (name : String) :
    Option.Rel Given (fs.lookup name) (fs.lookup name) := by
  induction fs with
  | nil => exact .none
  | cons f fs ih =>
    obtain ⟨k, v⟩ := f
    rw [readableFields, Bool.and_eq_true] at h
    rw [lookup_cons_ite]
    split
    · exact .some (self h.1)
    · exact ih h.2

theorem lookup_value {fs gs : List (String × Json)} (h : normalizeFields? fs = some gs)
    (name : String) : gs.map (·.1) = fs.map (·.1) ∧
      Option.Rel Given (fs.lookup name) (gs.lookup name) := by
  induction fs generalizing gs with
  | nil =>
    rw [← Option.some.inj h]
    exact ⟨rfl, .none⟩
  | cons f fs ih =>
    obtain ⟨k, v⟩ := f
    simp only [normalizeFields?] at h
    split at h
    · next w gs hw hgs =>
      obtain ⟨hnames, hlookup⟩ := ih hgs
      rw [← Option.some.inj h, List.map_cons, List.map_cons, hnames, lookup_cons_ite,
        lookup_cons_ite]
      refine ⟨rfl, ?_⟩
      split
      · exact .some (value hw)
      · exact hlookup
    · cases h

/-- for an object without a repeated name an object of this kind is given, name for name -/
theorem fields {fs : List (String × Json)} {w : Json} (h : Given (.object fs) w)
    (hnodup : (fs.map (·.1)).Nodup) : ∃ gs, w = .object gs ∧ (gs.map (·.1)).Nodup ∧
      ∀ name, Option.Rel Given (fs.lookup name) (gs.lookup name) := by
  obtain ⟨rfl, hj⟩ | hw := h
  · exact ⟨fs, rfl, hnodup, lookup_self hj⟩
  · simp only [normalize?, Option.map_eq_some_iff] at hw
    obtain ⟨gs, hgs, rfl⟩ := hw
    refine ⟨sortFields gs, rfl, nodup_of_sortedKeys (sortedKeys_sortFields gs), fun name => ?_⟩
    obtain ⟨hnames, hlookup⟩ := lookup_value hgs name
    rwa [lookup_sortFields (hnames ▸ hnodup)]

end Given

/-! ## readers of single values -/

theorem canonical_ofNat {n : Nat} (h : n < 0x10000000000000000) : (ofNat n).canonical = true := by
  simp only [ofNat, canonical, Number.canonical, Bool.and_eq_true, decide_eq_true_eq]
  omega

theorem asNatBelow_ofNat {n bound : Nat} (h : n < bound) : asNatBelow bound (ofNat n) = .ok n := by
  have hrange : (0 : Int) ≤ n ∧ (n : Int) < bound := by omega
  rw [ofNat, asNatBelow, if_pos hrange, Int.toNat_natCast]

theorem canonical_ofWord16 (n : UInt16) : (ofWord16 n).canonical = true :=
  canonical_ofNat (Nat.lt_trans n.toNat_lt (by decide))

theorem canonical_ofWord32 (n : UInt32) : (ofWord32 n).canonical = true :=
  canonical_ofNat (Nat.lt_trans n.toNat_lt (by decide))

theorem canonical_ofWord64 (n : UInt64) : (ofWord64 n).canonical = true :=
  canonical_ofNat n.toNat_lt

/-- an object with a field that is not `null` is not in the place of a word -/
theorem asWord_of_lookup {fs : List (String × Json)} {name : String} {j : Json}
    (h : fs.lookup name = some j) (hj : j ≠ .null) : ∃ e, asWord (.object fs) = .error e := by
  unfold asWord
  split
  · next heq => cases heq
  · next s heq =>
    obtain rfl := Json.object.inj heq
    rw [lookup_cons_ite] at h
    split at h
    · exact absurd (Option.some.inj h).symm hj
    · cases h
  · exact ⟨_, rfl⟩

/-- a reader recovers a value from a document, whichever it is given for it -/
def Reads {α : Type} (read : Reader α) (j : Json) (a : α) : Prop := ∀ w, Given j w → read w = .ok a

namespace Reads

variable {α : Type}

theorem of_canonical {read : Reader α} {j : Json} {a : α} (hj : j.canonical = true)
    (h : read j = .ok a) : Reads read j a := by
  intro w hw
  rw [hw.eq_of_canonical hj, h]

theorem text (s : String) : Reads asText (.text s) s := of_canonical rfl rfl

theorem bool (b : Bool) : Reads asBool (.bool b) b := of_canonical rfl rfl

theorem word16 (n : UInt16) : Reads asWord16 (ofWord16 n) n := by
  refine of_canonical (canonical_ofWord16 n) ?_
  rw [asWord16, ofWord16, asNatBelow_ofNat n.toNat_lt]
  exact congrArg Except.ok UInt16.ofNat_toNat

theorem word32 (n : UInt32) : Reads asWord32 (ofWord32 n) n := by
  refine of_canonical (canonical_ofWord32 n) ?_
  rw [asWord32, ofWord32, asNatBelow_ofNat n.toNat_lt]
  exact congrArg Except.ok UInt32.ofNat_toNat

theorem word64 (n : UInt64) : Reads asWord64 (ofWord64 n) n := by
  refine of_canonical (canonical_ofWord64 n) ?_
  rw [asWord64, ofWord64, asNatBelow_ofNat n.toNat_lt]
  exact congrArg Except.ok UInt64.ofNat_toNat

theorem float {x : Float} (h : x.isFinite = true) : Reads asFloat (ofFloat x) x :=
  of_canonical h rfl

theorem value (v : Value) : Reads asValue v.json v := by
  refine of_canonical v.canonical ?_
  rw [asValue, Value.ofJson?_json]

theorem members (m : Members) : Reads asMembers m.toJson m := by
  refine of_canonical m.canonical ?_
  rw [asMembers, Members.ofJson?_toJson]

/-- setting a document aside first changes nothing -/
theorem held {read : Reader α} {j : Json} {a : α} (h : Reads read j a) :
    Reads (held read) j a := by
  intro w hw
  rw [Json.held, if_pos hw.readable, h w hw]

/-- what is made of the value that is read -/
theorem map {β : Type} {read : Reader α} {j : Json} {a : α} (h : Reads read j a) (f : α → β) :
    Reads (fun j => (read j).map f) j (f a) := by
  intro w hw
  show (read w).map f = _
  rw [h w hw]
  rfl

theorem readAll {read : Reader α} {write : α → Json} {as : List α}
    (h : ∀ a ∈ as, Reads read (write a) a) {ws : List Json}
    (hws : List.Forall₂ Given (as.map write) ws) : readAll read ws = .ok as := by
  induction as generalizing ws with
  | nil =>
    cases hws
    rfl
  | cons a as ih =>
    obtain _ | ⟨hw, hws⟩ := hws
    rw [Json.readAll, h a List.mem_cons_self _ hw,
      ih (fun b hb => h b (List.mem_cons_of_mem _ hb)) hws]

/-- a list is read item by item -/
theorem list {read : Reader α} {write : α → Json} {as : List α}
    (h : ∀ a ∈ as, Reads read (write a) a) : Reads (asList read) (ofList write as) as := by
  intro w hw
  obtain ⟨ws, rfl, hws⟩ := hw.items
  exact readAll h hws

end Reads

/-! ## records -/

/-- the fields that there is something to write for -/
def filled (es : List (String × Option Json)) : List (String × Json) :=
  es.filterMap fun e => e.2.map (e.1, ·)

theorem field_eq_filled (name : String) (j : Json) : field name j = filled [(name, some j)] := rfl

theorem fieldOf?_eq_filled {α : Type} (name : String) (a : Option α) (write : α → Json) :
    fieldOf? name a write = filled [(name, a.map write)] := by
  cases a <;> rfl

theorem unless_eq_filled (c : Prop) [Decidable c] (name : String) (j : Json) :
    (if c then [] else filled [(name, some j)]) = filled [(name, if c then none else some j)] := by
  split <;> rfl

theorem filled_append (es es' : List (String × Option Json)) :
    filled es ++ filled es' = filled (es ++ es') := List.filterMap_append.symm

theorem names_filled_sublist (es : List (String × Option Json)) :
    ((filled es).map (·.1)).Sublist (es.map (·.1)) := by
  induction es with
  | nil => exact .slnil
  | cons e es ih =>
    obtain ⟨k, v⟩ := e
    cases v with
    | none => exact .cons k ih
    | some j => exact .cons_cons k ih

theorem lookup_filled {es : List (String × Option Json)} (h : (es.map (·.1)).Nodup)
    (name : String) : (filled es).lookup name = (es.lookup name).join := by
  induction es with
  | nil => rfl
  | cons e es ih =>
    obtain ⟨k, v⟩ := e
    rw [List.map_cons, List.nodup_cons] at h
    rw [lookup_cons_ite]
    cases v with
    | none =>
      show (filled es).lookup name = _
      rw [ih h.2]
      split
      · next hk =>
        subst hk
        rw [lookup_eq_none h.1]
        rfl
      · rfl
    | some j =>
      show ((k, j) :: filled es).lookup name = _
      rw [lookup_cons_ite, ih h.2]
      split <;> rfl

/-- a record whose fields are given for those there is something to write for -/
def Record.Holds (r : Record) (es : List (String × Option Json)) : Prop :=
  ∀ name, Option.Rel Given ((es.lookup name).join) (r.find? name)

/-- for an object whose names are known, none of them twice, an object of this kind is given -/
theorem Given.object {es : List (String × Option Json)} {w : Json}
    (h : Given (.object (filled es)) w) {names : List String} (hnames : es.map (·.1) = names)
    (hnodup : names.Nodup) :
    ∃ gs, w = .object gs ∧ (gs.map (·.1)).Nodup ∧ Record.Holds ⟨gs⟩ es := by
  subst hnames
  obtain ⟨gs, rfl, hgs, hlookup⟩ := h.fields (hnodup.sublist (names_filled_sublist es))
  refine ⟨gs, rfl, hgs, fun name => ?_⟩
  rw [← lookup_filled hnodup]
  exact hlookup name

/-- the same as a record, whatever names are known -/
theorem Given.record {es : List (String × Option Json)} {w : Json}
    (h : Given (.object (filled es)) w) (names : List String) (hnames : es.map (·.1) = names)
    (hnodup : names.Nodup) :
    ∃ r : Record, (∀ known, Record.ofJson known w = .ok r) ∧ r.Holds es := by
  obtain ⟨gs, rfl, hgs, hholds⟩ := h.object hnames hnodup
  exact ⟨⟨gs⟩, Record.ofJson_of_nodup hgs, hholds⟩

theorem text_ne_null (s : String) : Json.text s ≠ .null := Json.noConfusion

theorem bool_ne_null (b : Bool) : Json.bool b ≠ .null := Json.noConfusion

namespace Record.Holds

variable {α : Type} {r : Record} {es : List (String × Option Json)} {read : Reader α}

theorem find?_some (h : r.Holds es) {name : String} {j : Json}
    (hname : es.lookup name = some (some j)) : ∃ w, r.find? name = some w ∧ Given j w := by
  have hrel := h name
  rw [hname] at hrel
  cases hfind : r.find? name with
  | none => rw [hfind] at hrel; exact nomatch hrel
  | some w =>
    rw [hfind] at hrel
    obtain ⟨hw⟩ := hrel
    exact ⟨w, rfl, hw⟩

theorem find?_none (h : r.Holds es) {name : String} (hname : es.lookup name = some none) :
    r.find? name = none := by
  have hrel := h name
  rw [hname] at hrel
  cases hfind : r.find? name with
  | none => rfl
  | some w => rw [hfind] at hrel; exact nomatch hrel

theorem require (h : r.Holds es) (name : String) {j : Json} {a : α}
    (hname : es.lookup name = some (some j)) (hread : Reads read j a) :
    r.require name read = .ok a := by
  obtain ⟨w, hfind, hw⟩ := h.find?_some hname
  rw [Record.require, hfind]
  exact hread w hw

theorem getD (h : r.Holds es) (name : String) (default : α) {j : Json} {a : α}
    (hname : es.lookup name = some (some j)) (hread : Reads read j a) :
    r.getD name default read = .ok a := by
  obtain ⟨w, hfind, hw⟩ := h.find?_some hname
  rw [Record.getD, hfind]
  exact hread w hw

theorem getD_none (h : r.Holds es) (name : String) (default : α)
    (hname : es.lookup name = some none) : r.getD name default read = .ok default := by
  rw [Record.getD, h.find?_none hname]

theorem get?_some (h : r.Holds es) {name : String} {j : Json} {a : α}
    (hname : es.lookup name = some (some j)) (hnull : j ≠ .null) (hread : Reads read j a) :
    r.get? name read = .ok (some a) := by
  obtain ⟨w, hfind, hw⟩ := h.find?_some hname
  rw [Record.get?, hfind]
  split
  · next heq => exact nomatch heq
  · next heq => exact absurd (hw.eq_null_iff.mp (Option.some.inj heq)) hnull
  · next heq =>
    rw [← Option.some.inj heq, hread w hw]
    rfl

/-- an optional field that is left out where there is nothing -/
theorem get? (h : r.Holds es) (name : String) {a : Option α} {write : α → Json}
    (hname : es.lookup name = some (a.map write))
    (hread : ∀ x ∈ a, write x ≠ .null ∧ Reads read (write x) x) : r.get? name read = .ok a := by
  cases a with
  | none => rw [Record.get?, h.find?_none hname]
  | some x => exact h.get?_some hname (hread x rfl).1 (hread x rfl).2

/-- an optional field that is `null` where there is nothing -/
theorem get?_orNull (h : r.Holds es) (name : String) {a : Option α} {write : α → Json}
    (hname : es.lookup name = some (some (orNull a write)))
    (hread : ∀ x ∈ a, write x ≠ .null ∧ Reads read (write x) x) : r.get? name read = .ok a := by
  cases a with
  | none =>
    obtain ⟨w, hfind, hw⟩ := h.find?_some hname
    rw [Record.get?, hfind, hw.eq_null_iff.mpr rfl]
  | some x => exact h.get?_some hname (hread x rfl).1 (hread x rfl).2

/-- the text of an optional field -/
theorem text? (h : r.Holds es) (name : String) {a : Option String}
    (hname : es.lookup name = some (a.map .text)) : r.get? name asText = .ok a :=
  h.get? name hname fun s _ => ⟨text_ne_null s, .text s⟩

/-- the text of an optional field that is `null` where there is none -/
theorem textOrNull (h : r.Holds es) (name : String) {a : Option String}
    (hname : es.lookup name = some (some (orNull a .text))) : r.get? name asText = .ok a :=
  h.get?_orNull name hname fun s _ => ⟨text_ne_null s, .text s⟩

/-- the truth value of an optional field -/
theorem bool? (h : r.Holds es) (name : String) {a : Option Bool}
    (hname : es.lookup name = some (a.map .bool)) : r.get? name asBool = .ok a :=
  h.get? name hname fun b _ => ⟨bool_ne_null b, .bool b⟩

/-- the number of an optional field -/
theorem word32? (h : r.Holds es) (name : String) {a : Option UInt32}
    (hname : es.lookup name = some (a.map ofWord32)) : r.get? name asWord32 = .ok a :=
  h.get? name hname fun n _ => ⟨nofun, .word32 n⟩

theorem tag (h : r.Holds es) {tag : String} (hname : es.lookup "type" = some (some (.text tag))) :
    r.find? "type" = some (.text tag) := by
  obtain ⟨w, hfind, hw⟩ := h.find?_some hname
  rw [hfind, hw.eq_of_canonical rfl]

end Record.Holds

/-! ## depth -/

theorem depth_lookup_le {fs : List (String × Json)} {name : String} {j : Json}
    (h : fs.lookup name = some j) : j.depth ≤ depthFields fs := by
  induction fs with
  | nil => exact nomatch h
  | cons f fs ih =>
    obtain ⟨k, v⟩ := f
    rw [lookup_cons_ite] at h
    rw [depthFields]
    split at h
    · rw [Option.some.inj h]
      exact Nat.le_max_left _ _
    · exact Nat.le_trans (ih h) (Nat.le_max_right _ _)

/-- items nest no deeper for the names that they stand under -/
theorem depthFields_zip_le (names : List String) (items : List Json) :
    depthFields (names.zip items) ≤ depthItems items := by
  induction names generalizing items with
  | nil => exact Nat.zero_le _
  | cons name names ih =>
    cases items with
    | nil => exact Nat.zero_le _
    | cons x xs =>
      rw [List.zip_cons_cons, depthFields, depthItems]
      exact Nat.max_le.mpr
        ⟨Nat.le_max_left _ _, Nat.le_trans (ih xs) (Nat.le_max_right _ _)⟩

namespace Record

variable {known : List String} {w : Json} {r : Record}

/-- the fields of a record nest less deep than the document that it is made of -/
theorem depthFields_lt (h : Record.ofJson known w = .ok r) : depthFields r.fields < w.depth := by
  unfold Record.ofJson ofFields at h
  split at h
  · split at h
    · exact nomatch h
    · rw [← Except.ok.inj h]
      exact Nat.lt_succ_self _
  · split at h
    · rw [← Except.ok.inj h]
      exact Nat.lt_succ_of_le (depthFields_zip_le known _)
    · exact nomatch h
  · exact nomatch h

theorem depthFields_ofTagged_lt (h : ofTagged known w = .ok r) :
    depthFields r.fields < w.depth := by
  unfold ofTagged at h
  split at h
  · next tag items =>
    have hitems : (Json.array items).depth ≤ (Json.array (tag :: items)).depth :=
      Nat.succ_le_succ (Nat.le_max_right _ _)
    exact Nat.lt_of_lt_of_le (depthFields_lt h) hitems
  · exact depthFields_lt h

/-- what stands in a field of a tagged document nests less deep than the document -/
theorem depth_find?_lt (h : ofTagged known w = .ok r) {name : String} {j : Json}
    (hj : r.find? name = some j) : j.depth < w.depth :=
  Nat.lt_of_le_of_lt (depth_lookup_le hj) (depthFields_ofTagged_lt h)

end Record

/-! ## tagged objects -/

theorem filter_of_lookup {fs : List (String × Json)} (hnodup : (fs.map (·.1)).Nodup) {k : String}
    {v : Json} (h : fs.lookup k = some v) : fs.filter (·.1 = k) = [(k, v)] := by
  induction fs with
  | nil => exact nomatch h
  | cons f fs ih =>
    obtain ⟨l, w⟩ := f
    rw [List.map_cons, List.nodup_cons] at hnodup
    rw [lookup_cons_ite] at h
    split at h
    · next hk =>
      subst hk
      have hnone : fs.filter (·.1 = k) = [] := by
        refine List.filter_eq_nil_iff.mpr fun f hf hkey => hnodup.1 ?_
        exact List.mem_map.mpr ⟨f, hf, of_decide_eq_true hkey⟩
      rw [List.filter_cons, if_pos (decide_eq_true rfl), hnone, Option.some.inj h]
    · next hk =>
      rw [List.filter_cons, if_neg (by simpa using fun e => hk e.symm), ih hnodup.2 h]

theorem tagged_filled (tag : String) (es : List (String × Option Json)) :
    tagged tag (filled es) = .object (filled (("type", some (.text tag)) :: es)) := rfl

/-- a tagged object is known by its tag, however it comes, and is a record of any names -/
theorem Given.tagged {tag : String} {es : List (String × Option Json)} {w : Json}
    (h : Given (Json.tagged tag (filled es)) w) (names : List String)
    (hnames : es.map (·.1) = names) (hnodup : ("type" :: names).Nodup) :
    ∃ r : Record, (∀ known, Record.ofTagged known w = .ok r) ∧
      r.Holds (("type", some (.text tag)) :: es) ∧
      ∀ access tags, tag ∈ tags → tagOf access tags w = .ok tag := by
  rw [tagged_filled] at h
  obtain ⟨gs, rfl, hgs, hholds⟩ := h.object (congrArg ("type" :: ·) hnames) hnodup
  refine ⟨⟨gs⟩, Record.ofJson_of_nodup hgs, hholds, fun access tags htag => ?_⟩
  · have hreadable : gs.all (fun f => f.1 = "type" || f.2.readable) = true := by
      have hall : readableFields gs = true := h.readable
      rw [readableFields_eq_all, List.all_eq_true] at hall
      refine List.all_eq_true.mpr fun f hf => ?_
      rw [hall f hf, Bool.or_true]
    rw [tagOf, if_pos hreadable, filter_of_lookup hgs (hholds.tag List.lookup_cons_self)]
    exact if_pos htag

/-- a tagged object of one text -/
theorem Given.taggedText {tag name s : String} {w : Json}
    (h : Given (Json.tagged tag (field name (.text s))) w) (hname : name ≠ "type") :
    ∃ r : Record, (∀ known, Record.ofTagged known w = .ok r) ∧ r.require name asText = .ok s ∧
      ∀ access tags, tag ∈ tags → tagOf access tags w = .ok tag := by
  rw [field_eq_filled] at h
  have hnodup : ["type", name].Nodup := by simpa using hname.symm
  obtain ⟨r, hr, hholds, htag⟩ := h.tagged [name] rfl hnodup
  refine ⟨r, hr, hholds.require name ?_ (.text s), htag⟩
  rw [lookup_cons_ite, if_neg hname, List.lookup_cons_self]

/-! ## documents that mean a value -/

/-- the document of every field is of a kind -/
def EachField (P : Json → Prop) (fs : List (String × Json)) : Prop := ∀ f ∈ fs, P f.2

section

variable {P : Json → Prop}

@[simp] theorem eachField_nil : EachField P [] := nofun

@[simp] theorem eachField_append (fs gs : List (String × Json)) :
    EachField P (fs ++ gs) ↔ EachField P fs ∧ EachField P gs := List.forall_mem_append

@[simp] theorem eachField_cons (f : String × Json) (fs : List (String × Json)) :
    EachField P (f :: fs) ↔ P f.2 ∧ EachField P fs := List.forall_mem_cons

@[simp] theorem eachField_field (name : String) (j : Json) : EachField P (field name j) ↔ P j := by
  simp [field]

@[simp] theorem eachField_fieldOf? {α : Type} (name : String) (a : Option α) (write : α → Json) :
    EachField P (fieldOf? name a write) ↔ ∀ x ∈ a, P (write x) := by
  cases a <;> simp

@[simp] theorem eachField_unless (c : Prop) [Decidable c] (name : String) (j : Json) :
    EachField P (if c then [] else field name j) ↔ (¬ c → P j) := by
  split <;> simp_all

end

/-- nothing in a document is unreadable, and every number in it is in range -/
def Meaningful (j : Json) : Prop := j.normalize?.isSome = true

theorem Meaningful.exists_value {j : Json} (h : j.Meaningful) :
    ∃ v, Value.ofJson? j = some v ∧ Given j v.json := by
  obtain ⟨w, hw⟩ := Option.isSome_iff_exists.mp h
  obtain ⟨v, hv, rfl⟩ := Value.exists_ofJson? hw
  exact ⟨v, hv, .value hw⟩

theorem meaningful_of_canonical {j : Json} (h : j.canonical = true) : j.Meaningful := by
  rw [Meaningful, normalize?_canonical j h]
  rfl

@[simp] theorem meaningful_null : Json.null.Meaningful := meaningful_of_canonical rfl
@[simp] theorem meaningful_text (s : String) : (Json.text s).Meaningful :=
  meaningful_of_canonical rfl
@[simp] theorem meaningful_bool (b : Bool) : (Json.bool b).Meaningful :=
  meaningful_of_canonical rfl
@[simp] theorem meaningful_value (v : Value) : v.json.Meaningful :=
  meaningful_of_canonical v.canonical
@[simp] theorem meaningful_members (m : Members) : m.toJson.Meaningful :=
  meaningful_of_canonical m.canonical
@[simp] theorem meaningful_word16 (n : UInt16) : (ofWord16 n).Meaningful :=
  meaningful_of_canonical (canonical_ofWord16 n)
@[simp] theorem meaningful_word32 (n : UInt32) : (ofWord32 n).Meaningful :=
  meaningful_of_canonical (canonical_ofWord32 n)
@[simp] theorem meaningful_word64 (n : UInt64) : (ofWord64 n).Meaningful :=
  meaningful_of_canonical (canonical_ofWord64 n)
@[simp] theorem meaningful_float (x : Float) : (ofFloat x).Meaningful ↔ x.isFinite = true := by
  rw [Meaningful, ofFloat, normalize?, Number.canonical]
  cases x.isFinite <;> simp

theorem isSome_normalizeItems? (xs : List Json) :
    (normalizeItems? xs).isSome = xs.all (·.normalize?.isSome) := by
  induction xs with
  | nil => rfl
  | cons x xs ih =>
    rw [normalizeItems?, List.all_cons, ← ih]
    cases x.normalize? <;> cases normalizeItems? xs <;> rfl

theorem isSome_normalizeFields? (fs : List (String × Json)) :
    (normalizeFields? fs).isSome = fs.all (·.2.normalize?.isSome) := by
  induction fs with
  | nil => rfl
  | cons f fs ih =>
    rw [normalizeFields?, List.all_cons, ← ih]
    cases f.2.normalize? <;> cases normalizeFields? fs <;> rfl

@[simp] theorem meaningful_array (xs : List Json) :
    (Json.array xs).Meaningful ↔ ∀ x ∈ xs, x.Meaningful := by
  rw [Meaningful, normalize?, Option.isSome_map, isSome_normalizeItems?, List.all_eq_true]
  rfl

@[simp] theorem meaningful_object (fs : List (String × Json)) :
    (Json.object fs).Meaningful ↔ EachField Meaningful fs := by
  rw [Meaningful, normalize?, Option.isSome_map, isSome_normalizeFields?, List.all_eq_true]
  rfl

@[simp] theorem meaningful_list {α : Type} (write : α → Json) (as : List α) :
    (ofList write as).Meaningful ↔ ∀ a ∈ as, (write a).Meaningful := by
  rw [ofList, meaningful_array, List.forall_mem_map]

@[simp] theorem meaningful_tagged (tag : String) (fs : List (String × Json)) :
    (tagged tag fs).Meaningful ↔ EachField Meaningful fs := by
  simp [tagged]

@[simp] theorem meaningful_orNull {α : Type} (a : Option α) (write : α → Json) :
    (orNull a write).Meaningful ↔ ∀ x ∈ a, (write x).Meaningful := by
  cases a <;> simp [orNull]

/-! ## documents that are read from their text -/

/-- a plain document that nests at most this deep -/
def Fits (n : Nat) (j : Json) : Prop := j.plain = true ∧ j.depth ≤ n

theorem plainItems_eq_all (xs : List Json) : plainItems xs = xs.all plain := by
  induction xs with
  | nil => rfl
  | cons x xs ih => simp [plainItems, ih]

theorem plainFields_eq_all (fs : List (String × Json)) : plainFields fs = fs.all (·.2.plain) := by
  induction fs with
  | nil => rfl
  | cons f fs ih => simp [plainFields, ih]

theorem depthItems_le_iff (xs : List Json) (n : Nat) :
    depthItems xs ≤ n ↔ ∀ x ∈ xs, x.depth ≤ n := by
  induction xs with
  | nil => simp [depthItems]
  | cons x xs ih => rw [depthItems, Nat.max_le, ih, List.forall_mem_cons]

theorem depthFields_le_iff (fs : List (String × Json)) (n : Nat) :
    depthFields fs ≤ n ↔ ∀ f ∈ fs, f.2.depth ≤ n := by
  induction fs with
  | nil => simp [depthFields]
  | cons f fs ih => rw [depthFields, Nat.max_le, ih, List.forall_mem_cons]

@[simp] theorem fits_null (n : Nat) : Json.null.Fits n := ⟨rfl, Nat.zero_le n⟩
@[simp] theorem fits_text (n : Nat) (s : String) : (Json.text s).Fits n := ⟨rfl, Nat.zero_le n⟩
@[simp] theorem fits_bool (n : Nat) (b : Bool) : (Json.bool b).Fits n := ⟨rfl, Nat.zero_le n⟩
@[simp] theorem fits_word16 (n : Nat) (m : UInt16) : (ofWord16 m).Fits n :=
  ⟨canonical_ofWord16 m, Nat.zero_le n⟩
@[simp] theorem fits_word32 (n : Nat) (m : UInt32) : (ofWord32 m).Fits n :=
  ⟨canonical_ofWord32 m, Nat.zero_le n⟩
@[simp] theorem fits_word64 (n : Nat) (m : UInt64) : (ofWord64 m).Fits n :=
  ⟨canonical_ofWord64 m, Nat.zero_le n⟩

@[simp] theorem fits_array (n : Nat) (xs : List Json) :
    (Json.array xs).Fits (n + 1) ↔ ∀ x ∈ xs, x.Fits n := by
  simp only [Fits, plain, plainItems_eq_all, depth, Nat.add_le_add_iff_right, depthItems_le_iff,
    List.all_eq_true, forall_and]

@[simp] theorem fits_object (n : Nat) (fs : List (String × Json)) :
    (Json.object fs).Fits (n + 1) ↔ EachField (Fits n) fs := by
  simp only [Fits, EachField, plain, plainFields_eq_all, depth, Nat.add_le_add_iff_right,
    depthFields_le_iff, List.all_eq_true, forall_and]

@[simp] theorem fits_list {α : Type} (n : Nat) (write : α → Json) (as : List α) :
    (ofList write as).Fits (n + 1) ↔ ∀ a ∈ as, (write a).Fits n := by
  rw [ofList, fits_array, List.forall_mem_map]

@[simp] theorem fits_tagged (n : Nat) (tag : String) (fs : List (String × Json)) :
    (tagged tag fs).Fits (n + 1) ↔ EachField (Fits n) fs := by
  simp [tagged]

@[simp] theorem fits_orNull {α : Type} (n : Nat) (a : Option α) (write : α → Json) :
    (orNull a write).Fits n ↔ ∀ x ∈ a, (write x).Fits n := by
  cases a <;> simp [orNull]

/-- what a reader of documents makes of the text of a document that it recovers a value from -/
theorem Reads.parse_render {α : Type} {read : Reader α} {j : Json} {a : α} (h : Reads read j a)
    {n : Nat} (hfits : j.Fits n) (hn : n ≤ maxDepth) : parse read j.render = .ok a := by
  rw [Json.parse_render read hfits.1 (Nat.le_trans hfits.2 hn)]
  exact h j (.self (readable_of_plain j hfits.1))

end ChatRelay.Json
