import ChatRelay.Json.Printer
import ChatRelay.Json.Reader

/-!
# Free-form values

A schema, a tool's input or a piece of metadata is kept as it means: keys in the order of their
code points, each once, and nothing unreadable.  `Json.Value` is a document of this kind.

* `normalize?`            the value a document means, the last field of a name winning;
* `canonical_normalize?`  what comes out is canonical;
* `normalize?_canonical`  a canonical document means itself;
* `Value.parse?`          the value of a text.
-/

namespace ChatRelay.Json

/-! ## sorted fields -/

/-- keys in strictly ascending order -/
def sortedKeys : List (String × Json) → Bool
  | [] => true
  | (k, _) :: fs => fs.all (fun f => decide (k < f.1)) && sortedKeys fs

/-- fields with one of them set; sorted fields stay sorted -/
def setField (k : String) (v : Json) : List (String × Json) → List (String × Json)
  | [] => [(k, v)]
  | f :: fs =>
    if k < f.1 then (k, v) :: f :: fs
    else if k = f.1 then (k, v) :: fs
    else f :: setField k v fs

theorem all_setField {p : String × Json → Bool} {k : String} {v : Json}
    {fs : List (String × Json)} (hk : p (k, v) = true) (hfs : fs.all p = true) :
    (setField k v fs).all p = true := by
  induction fs with
  | nil => simpa [setField] using hk
  | cons f fs ih =>
    simp only [List.all_cons, Bool.and_eq_true] at hfs
    rw [setField]
    split
    · simp [hk, hfs.1, hfs.2]
    · split
      · simp [hk, hfs.2]
      · simp [hfs.1, ih hfs.2]

theorem sortedKeys_setField {k : String} {v : Json} {fs : List (String × Json)}
    (h : sortedKeys fs = true) : sortedKeys (setField k v fs) = true := by
  induction fs with
  | nil => rfl
  | cons f fs ih =>
    obtain ⟨l, w⟩ := f
    simp only [sortedKeys, Bool.and_eq_true, List.all_eq_true, decide_eq_true_eq] at h
    rw [setField]
    split
    · next hlt =>
      simp only [sortedKeys, List.all_cons, Bool.and_eq_true, List.all_eq_true,
        decide_eq_true_eq]
      exact ⟨⟨hlt, fun x hx => Std.lt_trans hlt (h.1 x hx)⟩, h.1, h.2⟩
    · split
      · next heq =>
        subst heq
        simp only [sortedKeys, Bool.and_eq_true, List.all_eq_true, decide_eq_true_eq]
        exact ⟨h.1, h.2⟩
      · next hlt hne =>
        have hgt : l < k := Std.lt_of_le_of_ne (Std.not_lt.mp hlt) (fun e => hne e.symm)
        simp only [sortedKeys, Bool.and_eq_true]
        refine ⟨all_setField (by simpa using hgt) ?_, ih h.2⟩
        simpa only [List.all_eq_true, decide_eq_true_eq] using h.1

/-- fields set one after the other, so that the last of a name wins -/
def sortFields (fs : List (String × Json)) : List (String × Json) :=
  fs.foldl (fun acc f => setField f.1 f.2 acc) []

/-! ## canonical documents -/

mutual
/-- nothing unreadable, every number in range, the keys of every object ascending -/
def canonical : Json → Bool
  | .unreadable => false
  | .number n => n.canonical
  | .array xs => canonicalItems xs
  | .object fs => sortedKeys fs && canonicalFields fs
  | _ => true

/-- every document of a list is canonical -/
def canonicalItems : List Json → Bool
  | [] => true
  | x :: xs => x.canonical && canonicalItems xs

/-- the value of every field is canonical -/
def canonicalFields : List (String × Json) → Bool
  | [] => true
  | (_, v) :: fs => v.canonical && canonicalFields fs
end

theorem canonicalItems_eq_all (xs : List Json) : canonicalItems xs = xs.all canonical := by
  induction xs with
  | nil => rfl
  | cons x xs ih => simp [canonicalItems, ih]

theorem canonicalFields_eq_all (fs : List (String × Json)) :
    canonicalFields fs = fs.all (·.2.canonical) := by
  induction fs with
  | nil => rfl
  | cons f fs ih => simp [canonicalFields, ih]

mutual
/-- the value a document means, none if a part of it is unreadable -/
def normalize? : Json → Option Json
  | .unreadable => none
  | .number n => if n.canonical then some (.number n) else none
  | .array xs => (normalizeItems? xs).map .array
  | .object fs => (normalizeFields? fs).map fun gs => .object (sortFields gs)
  | .null => some .null
  | .bool b => some (.bool b)
  | .text s => some (.text s)

/-- the values a list of documents means -/
def normalizeItems? : List Json → Option (List Json)
  | [] => some []
  | x :: xs =>
    match x.normalize?, normalizeItems? xs with
    | some y, some ys => some (y :: ys)
    | _, _ => none

/-- the values a list of fields means, in the order written -/
def normalizeFields? : List (String × Json) → Option (List (String × Json))
  | [] => some []
  | (k, v) :: fs =>
    match v.normalize?, normalizeFields? fs with
    | some w, some gs => some ((k, w) :: gs)
    | _, _ => none
end

theorem sortedKeys_foldl_setField (fs acc : List (String × Json)) (h : sortedKeys acc = true) :
    sortedKeys (fs.foldl (fun acc f => setField f.1 f.2 acc) acc) = true := by
  induction fs generalizing acc with
  | nil => exact h
  | cons f fs ih => exact ih _ (sortedKeys_setField h)

theorem sortedKeys_sortFields (fs : List (String × Json)) : sortedKeys (sortFields fs) = true :=
  sortedKeys_foldl_setField fs [] rfl

theorem all_foldl_setField {p : String × Json → Bool} (fs acc : List (String × Json))
    (hfs : fs.all p = true) (hacc : acc.all p = true) :
    (fs.foldl (fun acc f => setField f.1 f.2 acc) acc).all p = true := by
  induction fs generalizing acc with
  | nil => exact hacc
  | cons f fs ih =>
    simp only [List.all_cons, Bool.and_eq_true] at hfs
    exact ih _ hfs.2 (all_setField hfs.1 hacc)

theorem all_sortFields {p : String × Json → Bool} {fs : List (String × Json)}
    (h : fs.all p = true) : (sortFields fs).all p = true :=
  all_foldl_setField fs [] h rfl

mutual
theorem canonical_normalize? : (j : Json) → {v : Json} → j.normalize? = some v →
    v.canonical = true
  | .unreadable, _, h => by simp [normalize?] at h
  | .null, _, h | .bool _, _, h | .text _, _, h => by
    simp only [normalize?, Option.some.injEq] at h
    simp [← h, canonical]
  | .number n, _, h => by
    simp only [normalize?, Option.ite_none_right_eq_some, Option.some.injEq] at h
    simp [← h.2, canonical, h.1]
  | .array xs, _, h => by
    simp only [normalize?, Option.map_eq_some_iff] at h
    obtain ⟨ys, hys, rfl⟩ := h
    exact canonical_normalizeItems? xs hys
  | .object fs, _, h => by
    simp only [normalize?, Option.map_eq_some_iff] at h
    obtain ⟨gs, hgs, rfl⟩ := h
    simp only [canonical, Bool.and_eq_true]
    refine ⟨sortedKeys_sortFields gs, ?_⟩
    rw [canonicalFields_eq_all]
    refine all_sortFields ?_
    rw [← canonicalFields_eq_all]
    exact canonical_normalizeFields? fs hgs

theorem canonical_normalizeItems? : (xs : List Json) → {ys : List Json} →
    normalizeItems? xs = some ys → canonicalItems ys = true
  | [], _, h => by
    simp only [normalizeItems?, Option.some.injEq] at h
    simp [← h, canonicalItems]
  | x :: xs, _, h => by
    simp only [normalizeItems?] at h
    split at h
    · next y ys hx hxs =>
      simp only [Option.some.injEq] at h
      simp [← h, canonicalItems, canonical_normalize? x hx, canonical_normalizeItems? xs hxs]
    · simp at h

theorem canonical_normalizeFields? : (fs : List (String × Json)) →
    {gs : List (String × Json)} → normalizeFields? fs = some gs → canonicalFields gs = true
  | [], _, h => by
    simp only [normalizeFields?, Option.some.injEq] at h
    simp [← h, canonicalFields]
  | (k, v) :: fs, _, h => by
    simp only [normalizeFields?] at h
    split at h
    · next w gs hv hfs =>
      simp only [Option.some.injEq] at h
      simp [← h, canonicalFields, canonical_normalize? v hv, canonical_normalizeFields? fs hfs]
    · simp at h
end

theorem setField_of_all_lt {k : String} {v : Json} {fs : List (String × Json)}
    (h : ∀ f ∈ fs, f.1 < k) : setField k v fs = fs ++ [(k, v)] := by
  induction fs with
  | nil => rfl
  | cons f fs ih =>
    have hf := h f (by simp)
    rw [setField, if_neg (Std.not_lt.mpr (Std.le_of_lt hf)),
      if_neg (fun e => Std.lt_irrefl (e ▸ hf)), ih (fun g hg => h g (by simp [hg]))]
    rfl

theorem foldl_setField_of_sorted (fs acc : List (String × Json)) (h : sortedKeys fs = true)
    (hacc : ∀ a ∈ acc, ∀ f ∈ fs, a.1 < f.1) :
    fs.foldl (fun acc f => setField f.1 f.2 acc) acc = acc ++ fs := by
  induction fs generalizing acc with
  | nil => simp
  | cons f fs ih =>
    simp only [sortedKeys, Bool.and_eq_true, List.all_eq_true, decide_eq_true_eq] at h
    rw [List.foldl_cons, setField_of_all_lt (fun a ha => hacc a ha f (by simp)), ih _ h.2]
    · simp
    · intro a ha g hg
      rcases List.mem_append.mp ha with ha | ha
      · exact hacc a ha g (by simp [hg])
      · rw [List.mem_singleton.mp ha]
        exact h.1 g hg

theorem sortFields_of_sorted {fs : List (String × Json)} (h : sortedKeys fs = true) :
    sortFields fs = fs := by
  simpa [sortFields] using foldl_setField_of_sorted fs [] h (by simp)

mutual
theorem normalize?_canonical : (j : Json) → j.canonical = true → j.normalize? = some j
  | .unreadable, h => by simp [canonical] at h
  | .null, _ | .bool _, _ | .text _, _ => by simp [normalize?]
  | .number n, h => by
    simp only [canonical] at h
    simp [normalize?, h]
  | .array xs, h => by
    simp only [canonical] at h
    simp [normalize?, normalizeItems?_canonical xs h]
  | .object fs, h => by
    simp only [canonical, Bool.and_eq_true] at h
    simp [normalize?, normalizeFields?_canonical fs h.2, sortFields_of_sorted h.1]

theorem normalizeItems?_canonical : (xs : List Json) → canonicalItems xs = true →
    normalizeItems? xs = some xs
  | [], _ => by simp [normalizeItems?]
  | x :: xs, h => by
    simp only [canonicalItems, Bool.and_eq_true] at h
    simp [normalizeItems?, normalize?_canonical x h.1, normalizeItems?_canonical xs h.2]

theorem normalizeFields?_canonical : (fs : List (String × Json)) → canonicalFields fs = true →
    normalizeFields? fs = some fs
  | [], _ => by simp [normalizeFields?]
  | (k, v) :: fs, h => by
    simp only [canonicalFields, Bool.and_eq_true] at h
    simp [normalizeFields?, normalize?_canonical v h.1, normalizeFields?_canonical fs h.2]
end

/-! ## values -/

/-- a free-form value: a canonical document -/
structure Value where
  json : Json
  canonical : json.canonical = true
  deriving DecidableEq

namespace Value

/-- the value a document means, none if a part of it is unreadable -/
def ofJson? (j : Json) : Option Value :=
  match h : j.normalize? with
  | some v => some ⟨v, canonical_normalize? j h⟩
  | none => none

/-- a value reads back from its own document -/
@[simp] theorem ofJson?_json (v : Value) : ofJson? v.json = some v := by
  unfold ofJson?
  split
  · next w h =>
    rw [normalize?_canonical _ v.canonical] at h
    cases h
    rfl
  · next h =>
    rw [normalize?_canonical _ v.canonical] at h
    cases h

/-- the value of a text, none where the grammar is broken or a part is unreadable -/
def parse? (s : String) : Option Value := (ofString? s).bind ofJson?

/-- the compact text of a value -/
def render (v : Value) : String := v.json.render

/-- no value -/
def null : Value := ⟨.null, rfl⟩

/-- a text as a value -/
def ofString (s : String) : Value := ⟨.text s, rfl⟩

/-- the object without fields -/
def empty : Value := ⟨.object [], rfl⟩

/-- `null` or the object without fields -/
def isVoid (v : Value) : Bool := v.json = .null || v.json = .object []

instance : Inhabited Value := ⟨null⟩
instance : Repr Value := ⟨fun v _ => repr v.json⟩

end Value

/-- free-form fields: the inside of an object value -/
structure Members where
  fields : List (String × Json)
  canonical : (Json.object fields).canonical = true
  deriving DecidableEq

namespace Members

/-- no fields -/
def empty : Members := ⟨[], rfl⟩

/-- whether there are no fields -/
def isEmpty (m : Members) : Bool := m.fields.isEmpty

/-- the fields as an object -/
def toJson (m : Members) : Json := .object m.fields

/-- the fields of an object, none for another document or an unreadable part -/
def ofJson? (j : Json) : Option Members :=
  match Value.ofJson? j with
  | some ⟨.object fs, h⟩ => some ⟨fs, h⟩
  | _ => none

@[simp] theorem ofJson?_toJson (m : Members) : ofJson? m.toJson = some m := by
  have h := Value.ofJson?_json ⟨.object m.fields, m.canonical⟩
  simp only at h
  simp [ofJson?, toJson, h]

instance : Inhabited Members := ⟨empty⟩
instance : Repr Members := ⟨fun m _ => repr m.fields⟩

end Members
end ChatRelay.Json
