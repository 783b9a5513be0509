import ChatRelay.Conversation.Assembly
import ChatRelay.Dialect.Anthropic.Collected
import ChatRelay.Proofs.SlotOrder

/-!
# The turn that gathered events tell

A list of events without errors is gathered into blocks, and the blocks, in the order of their
indices, make the turn: their texts and thoughts one after the other, the last signature, the tool
calls.  A draft keeps its tool calls under their own numbers.  While both grow, every call is
followed by a `Track`, which knows its number and its block; only at the end messages are compared.

* `foldl_addTo_text`, `foldl_addTo_reasoning`, `foldl_addTo_signature`, `foldl_addTo_calls`
                      what the blocks of a turn add up to;
* `collect_eq`        the response of a list of events without errors;
* `Tells`             what the events of a message that has not ended say;
* `Tells.message`     events that say what a draft holds give its message.
-/

namespace ChatRelay

/-- what a tool call says, wherever it stands -/
def ToolCall.words (c : ToolCall) : String × String × String := (c.id, c.name, c.arguments)

/-- the tool call that says something, under a number -/
def ToolCall.ofWords (w : (String × String × String) × Nat) : ToolCall :=
  { index := UInt32.ofNat w.2, id := w.1.1, name := w.1.2.1, arguments := w.1.2.2 }

namespace Anthropic

/-! ## the turn of blocks -/

namespace Growing

/-- the text of a block -/
def spoken : Growing → String
  | .text s => s
  | _ => ""

/-- the thinking of a block -/
def thought : Growing → String
  | .thinking thought _ => thought
  | _ => ""

/-- the signature of a block -/
def sign? : Growing → Option String
  | .thinking _ sign => sign
  | .redacted data => some data
  | _ => none

/-- whether a block is a tool call -/
def isCall : Growing → Bool
  | .toolUse .. => true
  | _ => false

/-- the tool call of a block -/
def call? : Growing → Option (String × String × String)
  | .toolUse id name arguments => some (id, name, arguments)
  | _ => none

theorem filterMap_call?_values (bs : Slots Growing) : bs.values.filterMap call?
    = (Slots.values (bs.filter (·.2.isCall))).filterMap call? := by
  simp only [Slots.values, List.filterMap_map, List.filterMap_filter, Function.comp_def]
  congr 1
  funext p
  cases p.2 <;> simp [call?, isCall]

/-- whether growth is text or thinking that a block takes -/
def takes : Growing → Delta → Bool
  | .text _, .text _ => true
  | .thinking .., .thinking _ => true
  | .thinking .., .signature _ => true
  | _, _ => false

end Growing

namespace Delta

/-- the text of growth -/
def spoken : Delta → String
  | .text s => s
  | _ => ""

/-- the thinking of growth -/
def thought : Delta → String
  | .thinking thought => thought
  | _ => ""

/-- the signature of growth -/
def sign? : Delta → Option String
  | .signature sign => some sign
  | _ => none

end Delta

/-- growth that a block takes adds its text, its thinking and its signature, and makes no call -/
theorem Growing.grow_of_takes {g : Growing} {d : Delta} (h : g.takes d = true) :
    (g.grow d).spoken = g.spoken ++ d.spoken ∧ (g.grow d).thought = g.thought ++ d.thought ∧
      (g.grow d).sign? = d.sign?.or g.sign? ∧ g.isCall = false ∧ (g.grow d).isCall = false := by
  cases g <;> cases d <;> simp_all [takes, grow, spoken, thought, sign?, isCall, Delta.spoken,
    Delta.thought, Delta.sign?]

/-- the last of some signatures -/
def lastSign (signs : List (Option String)) : Option String :=
  signs.foldl (fun last sign => sign.or last) none

theorem lastSign_snoc (signs : List (Option String)) (sign : Option String) :
    lastSign (signs ++ [sign]) = sign.or (lastSign signs) := by
  simp [lastSign]

theorem foldl_addTo_text (gs : List Growing) (t : Turn) :
    (gs.foldl Growing.addTo t).text = t.text ++ concat (gs.map Growing.spoken) := by
  induction gs generalizing t with
  | nil => simp
  | cons g gs ih =>
    have hg : (g.addTo t).text = t.text ++ g.spoken := by
      cases g <;> simp [Growing.addTo, Growing.spoken, Turn.addText, Turn.addReasoning, Turn.sign,
        Turn.addCall]
    rw [List.foldl_cons, ih, hg, List.map_cons, concat_cons, String.append_assoc]

theorem foldl_addTo_reasoning (gs : List Growing) (t : Turn) :
    (gs.foldl Growing.addTo t).reasoning.getD ""
      = t.reasoning.getD "" ++ concat (gs.map Growing.thought) := by
  induction gs generalizing t with
  | nil => simp
  | cons g gs ih =>
    have hg : (g.addTo t).reasoning.getD "" = t.reasoning.getD "" ++ g.thought := by
      cases g <;> simp [Growing.addTo, Growing.thought, Turn.addText, Turn.addReasoning, Turn.sign,
        Turn.addCall]
    rw [List.foldl_cons, ih, hg, List.map_cons, concat_cons, String.append_assoc]

theorem foldl_addTo_signature (gs : List Growing) (t : Turn) :
    (gs.foldl Growing.addTo t).signature
      = (gs.map Growing.sign?).foldl (fun last sign => sign.or last) t.signature := by
  induction gs generalizing t with
  | nil => rfl
  | cons g gs ih =>
    have hg : (g.addTo t).signature = g.sign?.or t.signature := by
      cases g <;> simp [Growing.addTo, Growing.sign?, Turn.addText, Turn.addReasoning, Turn.sign,
        Turn.addCall]
    rw [List.foldl_cons, ih, hg, List.map_cons, List.foldl_cons]

theorem foldl_addTo_calls (gs : List Growing) (t : Turn) :
    (gs.foldl Growing.addTo t).calls
      = t.calls ++ ((gs.filterMap Growing.call?).zipIdx t.calls.length).map ToolCall.ofWords := by
  induction gs generalizing t with
  | nil => simp
  | cons g gs ih =>
    rw [List.foldl_cons, ih]
    cases g <;> simp [Growing.addTo, Growing.call?, Turn.addText, Turn.addReasoning, Turn.sign,
      Turn.addCall, ToolCall.ofWords, List.filterMap_cons]

theorem map_words_ofWords (ws : List (String × String × String)) (n : Nat) :
    ((ws.zipIdx n).map ToolCall.ofWords).map ToolCall.words = ws := by
  rw [List.map_map]
  exact List.zipIdx_map_fst n ws

/-! ## gathering -/

/-- the state behind all events of a list -/
def gathered (es : List Event) : Collected := es.foldl (fun s e => (s.push e).2) {}

@[simp] theorem gathered_nil : gathered [] = {} := rfl

theorem gathered_snoc (es : List Event) (e : Event) :
    gathered (es ++ [e]) = ((gathered es).push e).2 := by
  simp [gathered]

theorem count_push (s : Collected) (e : Event) : (s.push e).2.count = s.count + 1 := by
  cases e with
  | blockStart i b =>
    show (Collected.note _ (.blockStart i b)).count = _
    rw [Collected.note]
    split <;> rfl
  | messageStart _ | blockDelta _ _ | blockStop _ | messageDelta _ _ | messageStop | ping
  | error _ => rfl

theorem count_foldl_push (s : Collected) (es : List Event) :
    (es.foldl (fun s e => (s.push e).2) s).count = s.count + es.length := by
  induction es generalizing s with
  | nil => rfl
  | cons e es ih =>
    rw [List.foldl_cons, ih, count_push, List.length_cons]
    omega

theorem pushAll_of_silent {es : List Event} (h : ∀ e ∈ es, e.name ≠ "error") (s : Collected) :
    s.pushAll es = .ok (es.foldl (fun s e => (s.push e).2) s) := by
  induction es generalizing s with
  | nil => rfl
  | cons e es ih =>
    have he := h e List.mem_cons_self
    rw [Collected.pushAll, List.foldl_cons]
    cases e with
    | error d => exact absurd rfl he
    | messageStart _ | blockStart _ _ | blockDelta _ _ | blockStop _ | messageDelta _ _
    | messageStop | ping => exact ih (fun e he => h e (List.mem_cons_of_mem _ he)) _

/-- the turn that a list of events tells -/
def told (es : List Event) : Turn := (gathered es).blocks.values.foldl Growing.addTo {}

/-- events without errors make a response: who speaks, the turn, the stop reason, the usage -/
theorem collect_eq {es : List Event} (h : ∀ e ∈ es, e.name ≠ "error") (hne : es ≠ [])
    (now : UInt64) :
    collect now es = .ok {
      id := (gathered es).id
      object := "chat.completion"
      created := now
      model := (gathered es).model
      choices := [{
        message := some (told es).message
        finish := some (match (gathered es).stopReason with
          | some reason => finishOfStop reason
          | none => if (told es).calls.isEmpty then .stop else .toolCalls) }]
      usage := (gathered es).usage } := by
  have hcount : (gathered es).count ≠ 0 := by
    rw [gathered, count_foldl_push]
    have := List.length_pos_iff.mpr hne
    omega
  rw [collect, pushAll_of_silent h]
  show (gathered es).finish now = _
  rw [Collected.finish, if_neg hcount]
  rfl

/-! ## one event more -/

/-- whether an event is about a block, or says nothing -/
def Event.isInner : Event → Bool
  | .blockStart .. | .blockDelta .. | .blockStop _ | .ping => true
  | .messageStart _ | .messageDelta .. | .messageStop | .error _ => false

/-- whether an event says nothing about the message -/
def Event.isIdle : Event → Bool
  | .blockStop _ | .messageStop | .ping => true
  | .messageStart _ | .blockStart .. | .blockDelta .. | .messageDelta .. | .error _ => false

theorem Event.name_ne_of_isIdle {e : Event} (h : e.isIdle = true) : e.name ≠ "error" := by
  cases e <;> simp_all [isIdle, name]

theorem silent_snoc {es : List Event} (h : ∀ x ∈ es, x.name ≠ "error") {e : Event}
    (he : e.name ≠ "error") : ∀ x ∈ es ++ [e], x.name ≠ "error" := by
  intro x hx
  rcases List.mem_append.mp hx with hx | hx
  · exact h x hx
  · rw [List.mem_singleton.mp hx]
    exact he

/-- what a collection holds besides its blocks -/
def Collected.shell (s : Collected) : Collected := { s with blocks := [], count := 0 }

theorem shell_gathered_snoc (es : List Event) {e : Event} (h : e.isInner = true) :
    (gathered (es ++ [e])).shell = (gathered es).shell := by
  rw [gathered_snoc]
  cases e with
  | blockStart i b =>
    show (Collected.note _ (.blockStart i b)).shell = _
    rw [Collected.note]
    split <;> rfl
  | blockDelta _ _ | blockStop _ | ping => rfl
  | messageStart _ | messageDelta _ _ | messageStop | error _ => simp [Event.isInner] at h

/-- an event that says nothing is only counted -/
theorem gathered_idle (es : List Event) {e : Event} (h : e.isIdle = true) :
    gathered (es ++ [e]) = { gathered es with count := (gathered es).count + 1 } := by
  rw [gathered_snoc]
  cases e with
  | blockStop _ | messageStop | ping => rfl
  | messageStart _ | blockStart _ _ | blockDelta _ _ | messageDelta _ _ | error _ =>
    simp [Event.isIdle] at h

theorem gathered_idles (es : List Event) {tail : List Event} (h : ∀ e ∈ tail, e.isIdle = true) :
    gathered (es ++ tail) = { gathered es with count := (gathered es).count + tail.length } := by
  induction tail generalizing es with
  | nil => rw [List.append_nil]; rfl
  | cons e tail ih =>
    rw [List.append_cons, ih (es ++ [e]) fun x hx => h x (List.mem_cons_of_mem _ hx),
      gathered_idle es (h e List.mem_cons_self), List.length_cons]
    simp [Nat.add_assoc, Nat.add_comm]

theorem silent_idles {es tail : List Event} (h : ∀ x ∈ es, x.name ≠ "error")
    (hidle : ∀ e ∈ tail, e.isIdle = true) : ∀ x ∈ es ++ tail, x.name ≠ "error" := by
  intro x hx
  rcases List.mem_append.mp hx with hx | hx
  · exact h x hx
  · exact Event.name_ne_of_isIdle (hidle x hx)

theorem blocks_gathered_start {es : List Event} {i : UInt32} {b : Block} {g : Growing}
    (hb : Growing.ofBlock? b = some g) (hi : ∀ p ∈ (gathered es).blocks, p.1 < i) :
    (gathered (es ++ [.blockStart i b])).blocks = (gathered es).blocks ++ [(i, g)] := by
  rw [gathered_snoc]
  show (Collected.note _ (.blockStart i b)).blocks = _
  rw [Collected.note, hb]
  exact Slots.update_append (fun _ => g) hi

theorem blocks_gathered_delta {es : List Event} (hs : Slots.Sorted (gathered es).blocks)
    {xs ys : Slots Growing} {i : UInt32} {g : Growing}
    (hb : (gathered es).blocks = xs ++ (i, g) :: ys) (d : Delta) :
    (gathered (es ++ [.blockDelta i d])).blocks = xs ++ (i, g.grow d) :: ys := by
  rw [gathered_snoc]
  show Slots.update i _ (gathered es).blocks = _
  rw [hb] at hs ⊢
  rw [Slots.update_middle _ hs]
  rfl

/-! ## tool calls on their way -/

/-- a tool call on its way: its number, its block, and what it says so far -/
structure Track where
  call : UInt32
  block : UInt32
  id : String
  name : String
  arguments : String

namespace Track

def words (t : Track) : String × String × String := (t.id, t.name, t.arguments)

/-- the call among those of a draft -/
def slot (t : Track) : UInt32 × ToolCall :=
  (t.call, { index := t.call, id := t.id, name := t.name, arguments := t.arguments })

/-- the call among the blocks -/
def entry (t : Track) : UInt32 × Growing := (t.block, .toolUse t.id t.name t.arguments)

/-- the call that a fragment begins, in a block -/
def begin (c : ToolCall) (block : UInt32) : Track := ⟨c.index, block, c.id, c.name, c.arguments⟩

/-- the call with more arguments -/
def grow (t : Track) (more : String) : Track := { t with arguments := t.arguments ++ more }

theorem map_words_slot (ts : List Track) :
    (Slots.values (ts.map slot)).map ToolCall.words = ts.map words := by
  simp [Slots.values, slot, ToolCall.words, words]

/-- the first fragment of a call whose number is above all others -/
theorem update_new {ts : List Track} {c : ToolCall} (h : ∀ t ∈ ts, t.call < c.index)
    (block : UInt32) :
    Slots.update c.index (Draft.joinCall c) (ts.map slot)
      = (ts ++ [begin c block]).map slot := by
  have hlt : ∀ p ∈ ts.map slot, p.1 < c.index := by
    intro p hp
    obtain ⟨t, ht, rfl⟩ := List.mem_map.mp hp
    exact h t ht
  rw [Slots.update_append _ hlt, List.map_append]
  simp [Draft.joinCall, slot, begin, firstText]

/-- a further fragment of a call: its identifier and name do not count -/
theorem update_grow {xs ys : List Track} {t : Track}
    (hs : (xs ++ t :: ys).Pairwise (·.call < ·.call)) {c : ToolCall} (hc : c.index = t.call)
    (hid : t.id ≠ "" ∨ c.id = "") (hname : t.name ≠ "" ∨ c.name = "") :
    Slots.update c.index (Draft.joinCall c) ((xs ++ t :: ys).map slot)
      = (xs ++ t.grow c.arguments :: ys).map slot := by
  have hfirst : ∀ {a b : String}, a ≠ "" ∨ b = "" → firstText a b = a := by
    intro a b hab
    by_cases ha : a = ""
    · rw [firstText, if_pos ha, ha, hab.resolve_left (fun h => h ha)]
    · rw [firstText, if_neg ha]
  have hsplit : (xs ++ t :: ys).map slot
      = xs.map slot ++ (c.index, t.slot.2) :: ys.map slot := by
    rw [List.map_append, List.map_cons, hc]
    rfl
  have hsorted : Slots.Sorted (xs.map slot ++ (c.index, t.slot.2) :: ys.map slot) := by
    rw [← hsplit]
    exact List.pairwise_map.mpr hs
  rw [hsplit, Slots.update_middle _ hsorted, List.map_append, List.map_cons]
  simp [Draft.joinCall, slot, grow, hc, hfirst hid, hfirst hname]

/-- tracks whose calls are numbered as they come -/
def Numbered (ts : List Track) : Prop := ts.map (·.call.toNat) = List.range ts.length

theorem Numbered.lt {ts : List Track} (h : Numbered ts) : ∀ t ∈ ts, t.call.toNat < ts.length := by
  intro t ht
  have hmem : t.call.toNat ∈ ts.map (·.call.toNat) := List.mem_map_of_mem ht
  rw [h, List.mem_range] at hmem
  exact hmem

theorem Numbered.ascending {ts : List Track} (h : Numbered ts) :
    ts.Pairwise (·.call < ·.call) := by
  have hr : (ts.map (·.call.toNat)).Pairwise (· < ·) := by
    rw [h]
    exact List.pairwise_lt_range
  exact List.Pairwise.of_map _ (fun _ _ hlt => UInt32.lt_iff_toNat_lt.mpr hlt) hr

theorem Numbered.snoc {ts : List Track} (h : Numbered ts) {t : Track}
    (ht : t.call.toNat = ts.length) : Numbered (ts ++ [t]) := by
  rw [Numbered, List.map_append, h, List.length_append, List.length_singleton, List.range_succ,
    ← ht]
  rfl

/-- the number of a block's call, among those of all blocks, the latest first -/
theorem lookup_block {xs ys : List Track} {t : Track}
    (hs : (xs ++ t :: ys).Pairwise (·.block < ·.block)) :
    ((xs ++ t :: ys).map fun t => (t.block, t.call)).reverse.lookup t.block = some t.call := by
  rw [List.map_append, List.map_cons, List.reverse_append, List.reverse_cons, List.append_assoc]
  refine List.lookup_eq_some_iff.mpr ⟨_, _, rfl, fun p hp => ?_⟩
  -- the blocks of later calls stand in front and are other blocks
  obtain ⟨t', ht', rfl⟩ := List.mem_map.mp (List.mem_reverse.mp hp)
  have hlt : t.block < t'.block :=
    (List.pairwise_cons.mp (List.pairwise_append.mp hs).2.1).1 t' ht'
  simpa using UInt32.ne_of_lt hlt

theorem map_grow {β : Type} {f : Track → β} {xs ys : List Track} {t : Track} {more : String}
    (h : f (t.grow more) = f t) : (xs ++ t.grow more :: ys).map f = (xs ++ t :: ys).map f := by
  simp [h]

theorem Numbered.grow {xs ys : List Track} {t : Track} (h : Numbered (xs ++ t :: ys))
    (more : String) : Numbered (xs ++ t.grow more :: ys) := by
  rw [Numbered, map_grow rfl, h]
  simp

end Track

/-! ## what the events of an unfinished message say -/

/-- what the events of a message that `m` started say so far, its tool calls in the order of their
blocks; signatures are left out -/
structure Tells (m : Answer) (ts : List Track) (es : List Event) (text thought : String) :
    Prop where
  silent : ∀ e ∈ es, e.name ≠ "error"
  shell : (gathered es).shell = { id := m.id, model := m.model, usage := some m.usage.lift }
  sorted : Slots.Sorted (gathered es).blocks
  text : concat ((gathered es).blocks.values.map Growing.spoken) = text
  thought : concat ((gathered es).blocks.values.map Growing.thought) = thought
  calls : (gathered es).blocks.filter (·.2.isCall) = ts.map Track.entry

theorem concat_grow {f : Growing → String} {xs ys : Slots Growing} {i : UInt32} {g g' : Growing}
    {more : String} (hg : f g' = f g ++ more) (hys : (∀ p ∈ ys, f p.2 = "") ∨ more = "") :
    concat ((Slots.values (xs ++ (i, g') :: ys)).map f)
      = concat ((Slots.values (xs ++ (i, g) :: ys)).map f) ++ more := by
  simp only [Slots.values, List.map_append, List.map_cons, concat_append, concat_cons, hg,
    String.append_assoc]
  rcases hys with hys | rfl
  · have hnil : concat ((ys.map (·.2)).map f) = "" := by
      refine concat_eq_empty fun x hx => ?_
      obtain ⟨g, hg, rfl⟩ := List.mem_map.mp hx
      obtain ⟨p, hp, rfl⟩ := List.mem_map.mp hg
      exact hys p hp
    rw [hnil, String.append_empty, String.empty_append]
  · rw [String.append_empty, String.empty_append]

namespace Tells

variable {m : Answer} {ts : List Track} {es : List Event} {text thought : String}

theorem opening (m : Answer) : Tells m [] [.messageStart m] "" "" where
  silent := by simp [Event.name]
  shell := rfl
  sorted := .nil
  text := rfl
  thought := rfl
  calls := rfl

theorem pass (h : Tells m ts es text thought) {e : Event} (he : e.isIdle = true) :
    Tells m ts (es ++ [e]) text thought := by
  have hsame := gathered_idle es he
  exact {
    silent := silent_snoc h.silent (Event.name_ne_of_isIdle he)
    shell := by rw [hsame]; exact h.shell
    sorted := by rw [hsame]; exact h.sorted
    text := by rw [hsame]; exact h.text
    thought := by rw [hsame]; exact h.thought
    calls := by rw [hsame]; exact h.calls }

theorem start (h : Tells m ts es text thought) {i : UInt32} {b : Block} {g : Growing}
    (hb : Growing.ofBlock? b = some g) (hi : ∀ p ∈ (gathered es).blocks, p.1 < i)
    {ts' : List Track} (hcalls : [(i, g)].filter (·.2.isCall) = ts'.map Track.entry) :
    Tells m (ts ++ ts') (es ++ [.blockStart i b]) (text ++ g.spoken) (thought ++ g.thought) := by
  have hblocks := blocks_gathered_start hb hi
  exact {
    silent := silent_snoc h.silent (by simp [Event.name])
    shell := (shell_gathered_snoc es rfl).trans h.shell
    sorted := by
      rw [hblocks]
      refine List.pairwise_append.mpr ⟨h.sorted, List.pairwise_singleton _ _, fun p hp q hq => ?_⟩
      rw [List.mem_singleton.mp hq]
      exact hi p hp
    text := by
      rw [hblocks, Slots.values_append, List.map_append, concat_append, h.text]
      simp [Slots.values]
    thought := by
      rw [hblocks, Slots.values_append, List.map_append, concat_append, h.thought]
      simp [Slots.values]
    calls := by rw [hblocks, List.filter_append, h.calls, hcalls, List.map_append] }

/-- a block of text or thinking that grows, behind which nothing of its kind has been said -/
theorem grow (h : Tells m ts es text thought) {xs ys : Slots Growing} {i : UInt32} {g : Growing}
    (hb : (gathered es).blocks = xs ++ (i, g) :: ys) {d : Delta} (hd : g.takes d = true)
    (hspoken : (∀ p ∈ ys, p.2.spoken = "") ∨ d.spoken = "")
    (hthought : (∀ p ∈ ys, p.2.thought = "") ∨ d.thought = "") :
    Tells m ts (es ++ [.blockDelta i d]) (text ++ d.spoken) (thought ++ d.thought) := by
  have hblocks := blocks_gathered_delta h.sorted hb d
  have hkeys : (xs ++ (i, g.grow d) :: ys).map (·.1) = (gathered es).blocks.map (·.1) := by
    rw [hb]
    simp
  obtain ⟨hs, ht, -, hg, hg'⟩ := Growing.grow_of_takes hd
  exact {
    silent := silent_snoc h.silent (by simp [Event.name])
    shell := (shell_gathered_snoc es rfl).trans h.shell
    sorted := by
      rw [hblocks]
      exact Slots.sorted_of_keys hkeys h.sorted
    text := by rw [hblocks, concat_grow hs hspoken, ← hb, h.text]
    thought := by rw [hblocks, concat_grow ht hthought, ← hb, h.thought]
    calls := by
      have hc := h.calls
      rw [hb] at hc
      rw [hblocks, ← hc]
      simp [List.filter_append, hg, hg'] }

theorem ascending (h : Tells m ts es text thought) : ts.Pairwise (·.block < ·.block) := by
  have hs : ((gathered es).blocks.filter (·.2.isCall)).Pairwise (·.1 < ·.1) := h.sorted.filter _
  rw [h.calls, List.pairwise_map] at hs
  exact hs

/-- the block of a call on its way -/
theorem split (h : Tells m ts es text thought) {us vs : List Track} {t : Track}
    (ht : ts = us ++ t :: vs) :
    ∃ xs ys, (gathered es).blocks = xs ++ t.entry :: ys ∧
      xs.filter (·.2.isCall) = us.map Track.entry ∧
      ys.filter (·.2.isCall) = vs.map Track.entry := by
  have hc := h.calls
  rw [ht, List.map_append, List.map_cons] at hc
  obtain ⟨xs, rest, hb, hxs, hrest⟩ := List.filter_eq_append_iff.mp hc
  obtain ⟨between, ys, rfl, hnone, -, hys⟩ := List.filter_eq_cons_iff.mp hrest
  refine ⟨xs ++ between, ys, by rw [hb, List.append_assoc], ?_, hys⟩
  rw [List.filter_append, hxs, List.filter_eq_nil_iff.mpr hnone, List.append_nil]

theorem growCall (h : Tells m ts es text thought) {us vs : List Track} {t : Track}
    (ht : ts = us ++ t :: vs) (more : String) :
    Tells m (us ++ t.grow more :: vs) (es ++ [.blockDelta t.block (.inputJson more)]) text
      thought := by
  obtain ⟨xs, ys, hb, hxs, hys⟩ := h.split ht
  have hblocks : (gathered (es ++ [.blockDelta t.block (.inputJson more)])).blocks
      = xs ++ (t.grow more).entry :: ys := blocks_gathered_delta h.sorted hb _
  have hkeys : (xs ++ (t.grow more).entry :: ys).map (·.1) = (gathered es).blocks.map (·.1) := by
    rw [hb]
    simp [Track.entry, Track.grow]
  have hspoken : (t.grow more).entry.2.spoken = t.entry.2.spoken ++ "" := rfl
  have hthought : (t.grow more).entry.2.thought = t.entry.2.thought ++ "" := rfl
  exact {
    silent := silent_snoc h.silent (by simp [Event.name])
    shell := (shell_gathered_snoc es rfl).trans h.shell
    sorted := by
      rw [hblocks]
      exact Slots.sorted_of_keys hkeys h.sorted
    text := by
      rw [hblocks, ← h.text, hb]
      exact (concat_grow hspoken (.inr rfl)).trans String.append_empty
    thought := by
      rw [hblocks, ← h.thought, hb]
      exact (concat_grow hthought (.inr rfl)).trans String.append_empty
    calls := by
      rw [hblocks, List.filter_append, List.filter_cons_of_pos rfl, hxs, hys, List.map_append,
        List.map_cons] }

theorem told_calls (h : Tells m ts es text thought) {fs : List Event}
    (hb : (gathered fs).blocks = (gathered es).blocks) :
    (told fs).calls = ((ts.map Track.words).zipIdx 0).map ToolCall.ofWords := by
  have hwords : (Slots.values (ts.map Track.entry)).filterMap Growing.call?
      = ts.map Track.words := by
    simp [Slots.values, Track.entry, Growing.call?, Track.words, Function.comp_def]
  rw [told, foldl_addTo_calls, hb, Growing.filterMap_call?_values, h.calls, hwords]
  rfl

theorem told_text (h : Tells m ts es text thought) {fs : List Event}
    (hb : (gathered fs).blocks = (gathered es).blocks) : (told fs).text = text := by
  rw [told, foldl_addTo_text, hb, h.text]
  exact String.empty_append

theorem told_reasoning (h : Tells m ts es text thought) {fs : List Event}
    (hb : (gathered fs).blocks = (gathered es).blocks) :
    (told fs).reasoning.getD "" = thought := by
  rw [told, foldl_addTo_reasoning, hb, h.thought]
  exact String.empty_append

/-- the message of the turn is that of a draft which holds the same, the numbers of the calls
aside -/
theorem message {d : Draft} (h : Tells m ts es d.text (d.reasoning.getD ""))
    (hd : d.calls = ts.map Track.slot) {fs : List Event}
    (hb : (gathered fs).blocks = (gathered es).blocks) :
    ∃ n, (d.choice 0).message = some n ∧ (told fs).message.content = n.content ∧
      (told fs).message.reasoning.getD "" = n.reasoning.getD "" ∧
      (told fs).message.calls = (n.calls.map ToolCall.words).zipIdx.map ToolCall.ofWords ∧
      n.calls = d.calls.values ∧ n.signature = d.signature := by
  have hcalls : (told fs).calls
      = ((d.calls.values.map ToolCall.words).zipIdx 0).map ToolCall.ofWords := by
    rw [h.told_calls hb, hd, Track.map_words_slot]
  have hempty : (told fs).calls.isEmpty = d.calls.values.isEmpty := by
    rw [hcalls]
    cases d.calls.values <;> simp [List.zipIdx_cons]
  have hchoice := d.calls_choice 0
  refine ⟨_, rfl, ?_, h.told_reasoning hb, ?_, hchoice, rfl⟩
  · show (if (told fs).text ≠ "" ∨ (told fs).calls.isEmpty then _ else _) = _
    rw [hempty, h.told_text hb]
  · rw [Turn.calls_message, hcalls]
    exact congrArg (fun cs => (cs.map ToolCall.words).zipIdx.map ToolCall.ofWords) hchoice.symm

end Tells
end Anthropic
end ChatRelay
