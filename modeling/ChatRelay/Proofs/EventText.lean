import ChatRelay.ServerEvent
import Mathlib

/-!
# Server-sent events, read back

A reader of an event stream takes its text line by line.  A line is a field: a name, a colon, and a
value, from which one blank at the front is taken off.  A blank line ends an event.  Its name is the
value of its last field `event`, unless that is empty, and its data are the values of its fields
`data`, a line each.  Whatever the data are, the events that were written are read, and none of
their fields but those that were written.

* `EventField.ofLine_text`      a line is the field that was written there;
* `EventField.gather_append`    a blank line ends an event and nothing else does;
* `ServerEvent.ofFields_fields` an event is made of its fields;
* `ServerEvent.read?_bytes`     events on the wire are read back.
-/

namespace ChatRelay

/-! ## reading -/

/-- a field of an event -/
structure EventField where
  name : List Char
  value : List Char
  deriving DecidableEq, Repr

/-- a line as a field: without a colon all of it is the name -/
def EventField.ofLine (line : List Char) : EventField :=
  match Text.cutAt? ':' line with
  | none => { name := line, value := [] }
  | some (name, ' ' :: value) => { name, value }
  | some (name, value) => { name, value }

/-- the fields of every event among lines, `gathered` those since the last blank line; fields that
no blank line follows belong to no event -/
def EventField.gather : (gathered : List EventField) → List (List Char) → List (List EventField)
  | _, [] => []
  | gathered, line :: lines =>
    if line = [] then gathered :: gather [] lines else gather (gathered ++ [ofLine line]) lines

/-- the values of the fields of one name -/
def EventField.values (name : List Char) (fields : List EventField) : List (List Char) :=
  (fields.filter (·.name = name)).map (·.value)

namespace ServerEvent

/-- the lines of a text; what no line end follows is no line -/
def linesOf (cs : List Char) : List (List Char) := (Text.split (· = '\n') cs).dropLast

/-- an event of its fields -/
def ofFields (fields : List EventField) : ServerEvent where
  name :=
    match (EventField.values "event".toList fields).getLast? with
    | none | some [] => none
    | some name => some (String.ofList name)
  data := String.ofList (Text.glue '\n' (EventField.values "data".toList fields))

/-- the fields of the events of a text -/
def readFields (cs : List Char) : List (List EventField) := EventField.gather [] (linesOf cs)

/-- the events of a byte sequence, none where it is no text -/
def read? (bytes : ByteArray) : Option (List ServerEvent) :=
  (String.fromUTF8? bytes).map fun s => (readFields s.toList).map ofFields

/-! ## writing -/

/-- the fields that an event is written with -/
def fields (e : ServerEvent) : List EventField :=
  (e.name.toList.map fun name => { name := "event".toList, value := name.toList })
    ++ (Text.split (· = '\n') e.data.toList).map fun line =>
      { name := "data".toList, value := line }

/-- the bytes of an event on the wire -/
def bytes (e : ServerEvent) : ByteArray := e.render.toUTF8

/-- whether the name of an event can be told from no name and from further lines -/
def IsFramed (e : ServerEvent) : Prop := ∀ name ∈ e.name, name ≠ "" ∧ '\n' ∉ name.toList

instance : DecidablePred IsFramed := fun e =>
  inferInstanceAs (Decidable (∀ name ∈ e.name, name ≠ "" ∧ '\n' ∉ name.toList))

end ServerEvent

/-! ## lines and fields -/

namespace EventField

variable {f : EventField} {fs gathered : List EventField} {line rest : List Char}

/-- the line that a field is written on, without its end -/
def text (f : EventField) : List Char := f.name ++ ':' :: ' ' :: f.value

/-- a field that stays on one line and whose name stays in front of the colon -/
structure IsLine (f : EventField) : Prop where
  name : ':' ∉ f.name
  text : '\n' ∉ f.text

theorem text_ne_nil (f : EventField) : f.text ≠ [] :=
  List.append_ne_nil_of_right_ne_nil f.name (List.cons_ne_nil _ _)

theorem ofLine_text (h : ':' ∉ f.name) : ofLine f.text = f := by
  rw [ofLine, text, Text.cutAt?_append h]
  rfl

theorem linesOf_append (h : '\n' ∉ line) (rest : List Char) :
    ServerEvent.linesOf (line ++ '\n' :: rest) = line :: ServerEvent.linesOf rest := by
  have hline : ∀ c ∈ line, decide (c = '\n') = false :=
    fun _ hc => decide_eq_false fun e => h (e ▸ hc)
  rw [ServerEvent.linesOf, Text.split_append hline (decide_eq_true rfl),
    List.dropLast_cons_of_ne_nil (Text.split_ne_nil _ _)]
  rfl

theorem linesOf_texts (h : ∀ f ∈ fs, f.IsLine) (rest : List Char) :
    ServerEvent.linesOf (fs.flatMap (fun f => f.text ++ ['\n']) ++ rest)
      = fs.map text ++ ServerEvent.linesOf rest := by
  induction fs with
  | nil => rfl
  | cons f fs ih =>
    rw [List.flatMap_cons, List.append_assoc, List.append_assoc, List.singleton_append,
      linesOf_append (h f List.mem_cons_self).text, ih fun g hg => h g (List.mem_cons_of_mem f hg),
      List.map_cons, List.cons_append]

/-- lines of fields up to a blank line are the fields of one event -/
theorem gather_append (h : ∀ f ∈ fs, f.IsLine) (lines : List (List Char)) :
    gather gathered (fs.map text ++ [] :: lines) = (gathered ++ fs) :: gather [] lines := by
  induction fs generalizing gathered with
  | nil => rw [List.map_nil, List.nil_append, gather, if_pos rfl, List.append_nil]
  | cons f fs ih =>
    rw [List.map_cons, List.cons_append, gather, if_neg f.text_ne_nil,
      ofLine_text (h f List.mem_cons_self).name, ih fun g hg => h g (List.mem_cons_of_mem f hg),
      List.append_assoc, List.singleton_append]

end EventField

namespace ServerEvent

variable {e : ServerEvent} {es : List ServerEvent}

theorem isLine_of_mem_fields (h : e.IsFramed) : ∀ f ∈ e.fields, f.IsLine := by
  have hvalue : ∀ {name value : List Char}, ':' ∉ name → '\n' ∉ name → '\n' ∉ value →
      EventField.IsLine { name, value } := fun hcolon hname hvalue =>
    ⟨hcolon, by simpa [EventField.text] using ⟨hname, hvalue⟩⟩
  intro f hf
  rcases List.mem_append.mp hf with hf | hf
  · obtain ⟨name, hname, rfl⟩ := List.mem_map.mp hf
    exact hvalue (by decide) (by decide) (h name (Option.mem_toList.mp hname)).2
  · obtain ⟨line, hline, rfl⟩ := List.mem_map.mp hf
    refine hvalue (by decide) (by decide) fun hmem => ?_
    exact absurd (Text.sep_of_mem_split hline '\n' hmem) (by decide)

theorem chars_eq (e : ServerEvent) :
    e.chars = e.fields.flatMap (fun f => f.text ++ ['\n']) ++ ['\n'] := by
  rw [chars, fields, List.flatMap_append]
  simp only [List.flatMap_map]
  cases e.name with
  | none => rfl
  | some name =>
    rw [Option.toList_some, List.flatMap_singleton]
    rfl

/-- the fields that are read are those that were written, event by event -/
theorem readFields_chars (h : ∀ e ∈ es, e.IsFramed) :
    readFields (es.flatMap chars) = es.map fields := by
  induction es with
  | nil => rfl
  | cons e es ih =>
    have hfields := isLine_of_mem_fields (h e List.mem_cons_self)
    have hrest : EventField.gather [] (linesOf (es.flatMap chars)) = es.map fields :=
      ih fun x hx => h x (List.mem_cons_of_mem e hx)
    have hblank : linesOf ('\n' :: es.flatMap chars) = [] :: linesOf (es.flatMap chars) :=
      EventField.linesOf_append List.not_mem_nil _
    rw [readFields, List.flatMap_cons, chars_eq, List.append_assoc, List.singleton_append,
      EventField.linesOf_texts hfields, hblank, EventField.gather_append hfields, hrest]
    rfl

theorem values_event_fields (e : ServerEvent) :
    EventField.values "event".toList e.fields = e.name.toList.map String.toList := by
  simp [EventField.values, fields, List.filter_map, Function.comp_def]

theorem values_data_fields (e : ServerEvent) :
    EventField.values "data".toList e.fields = Text.split (· = '\n') e.data.toList := by
  simp [EventField.values, fields, List.filter_map, Function.comp_def]

theorem ofFields_fields (h : e.IsFramed) : ofFields e.fields = e := by
  have hdata : String.ofList (Text.glue '\n' (Text.split (· = '\n') e.data.toList)) = e.data := by
    rw [Text.glue_split, String.ofList_toList]
  rw [ofFields, values_event_fields, values_data_fields, hdata]
  obtain ⟨name, data⟩ := e
  cases name with
  | none => rfl
  | some name =>
    have hne : name.toList ≠ [] := fun hnil => (h name rfl).1 (String.toList_eq_nil_iff.mp hnil)
    obtain ⟨c, cs, hcs⟩ := List.exists_cons_of_ne_nil hne
    have hname : String.ofList (c :: cs) = name := by rw [← hcs, String.ofList_toList]
    simp only [Option.toList_some, List.map_cons, List.map_nil, List.getLast?_singleton, hcs, hname]

theorem foldl_bytes (es : List ServerEvent) (front : String) :
    (es.map bytes).foldl (· ++ ·) front.toUTF8
      = (front ++ String.ofList (es.flatMap chars)).toUTF8 := by
  induction es generalizing front with
  | nil => simp
  | cons e es ih =>
    have hstep : front.toUTF8 ++ e.bytes = (front ++ e.render).toUTF8 :=
      String.toByteArray_append.symm
    rw [List.map_cons, List.foldl_cons, hstep, ih, List.flatMap_cons, String.ofList_append,
      String.append_assoc]
    rfl

/-- **Events are read back.**  The bytes of events, one after the other, are read as these events
and with the fields that they were written with, whatever their data are. -/
theorem read?_bytes (es : List ServerEvent) (h : ∀ e ∈ es, e.IsFramed) :
    read? ((es.map bytes).foldl (· ++ ·) .empty) = some es ∧
      readFields (es.flatMap chars) = es.map fields := by
  have hread := readFields_chars h
  refine ⟨?_, hread⟩
  have hbytes : (es.map bytes).foldl (· ++ ·) ByteArray.empty
      = (String.ofList (es.flatMap chars)).toUTF8 := by
    have hall := foldl_bytes es ""
    rwa [String.empty_append] at hall
  have hevents : (es.map fields).map ofFields = es := by
    rw [List.map_map]
    exact (List.map_congr_left fun e he => ofFields_fields (h e he)).trans (List.map_id es)
  have htext : ∀ s : String, String.fromUTF8? s.toUTF8 = some s := fun s =>
    dif_pos s.isValidUTF8
  rw [hbytes, read?, htext, Option.map_some, String.toList_ofList, hread, hevents]

/-- data with a blank line, a field and an event in them, and no data -/
def mimicry : List ServerEvent :=
  [{ name := some "delta", data := "\nevent: forged\n\ndata: x\n" }, { data := "" }]

theorem read?_bytes_mimicry :
    (∀ e ∈ mimicry, e.IsFramed) ∧
      read? ((mimicry.map bytes).foldl (· ++ ·) .empty) = some mimicry ∧
      readFields (mimicry.flatMap chars) = mimicry.map fields := by
  have hframed : ∀ e ∈ mimicry, e.IsFramed := by decide
  exact ⟨hframed, read?_bytes mimicry hframed⟩

end ServerEvent
end ChatRelay
