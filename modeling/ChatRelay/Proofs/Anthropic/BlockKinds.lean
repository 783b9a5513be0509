import ChatRelay.Dialect.Anthropic.Lift
import ChatRelay.Proofs.Anthropic.Gathered

/-!
# What a turn gathers from its blocks

The blocks of a turn that is read are gathered by kind: tool uses as numbered calls, thoughts as one
text, and of signatures and withheld data the last.

* `callsOf`, `reasoningOf`, `sealOf`   what blocks hold of each kind;
* `foldl_addThought_eq`                a turn gathers just this;
* `isEmpty_foldl_addThought_iff`       the blocks of which it gathers nothing.
-/

namespace ChatRelay.Anthropic

/-! ## kind by kind -/

namespace Block

/-- the signature of a thinking block -/
def signature? : Block → Option String
  | .thinking _ sign => sign
  | _ => none

/-- the data of thinking that is withheld -/
def withheld? : Block → Option String
  | .redacted data => some data
  | _ => none

/-- the seal of a block, of either kind -/
def seal? (b : Block) : Option String := b.signature?.or b.withheld?

/-- the call of a tool use, not yet numbered -/
def call? : Block → Option ToolCall
  | .toolUse id name input => some { id, name, arguments := input.render }
  | _ => none

def thought? : Block → Option String
  | .thinking thought _ => some thought
  | _ => none

end Block

/-- the calls of the tool uses among some blocks, numbered from zero -/
def callsOf (bs : List Block) : List ToolCall :=
  (bs.filterMap Block.call?).mapIdx fun i c => { c with index := UInt32.ofNat i }

/-- the thoughts of some blocks as one, none where no block thinks -/
def reasoningOf (bs : List Block) : Option String :=
  let thoughts := bs.filterMap Block.thought?
  if thoughts = [] then none else some (concat thoughts)

/-- the last signature or withheld data of some blocks -/
def sealOf (bs : List Block) : Option String := (bs.filterMap Block.seal?).getLast?

/-! ## block by block -/

section

variable (bs : List Block)

theorem callsOf_concat {b : Block} (h : b.call? = none) : callsOf (bs ++ [b]) = callsOf bs := by
  rw [callsOf, List.filterMap_append, List.filterMap_cons_none h, List.filterMap_nil,
    List.append_nil]
  rfl

theorem callsOf_toolUse (id name : String) (input : Json.Value) :
    callsOf (bs ++ [Block.toolUse id name input])
      = callsOf bs ++ [{
          index := UInt32.ofNat (callsOf bs).length
          id
          name
          arguments := input.render }] := by
  have huses : (bs ++ [Block.toolUse id name input]).filterMap Block.call?
      = bs.filterMap Block.call? ++ [{ id, name, arguments := input.render }] :=
    List.filterMap_append
  rw [callsOf, huses, List.mapIdx_concat, callsOf, List.length_mapIdx]

theorem reasoningOf_concat {b : Block} (h : b.thought? = none) :
    reasoningOf (bs ++ [b]) = reasoningOf bs := by
  rw [reasoningOf, List.filterMap_append, List.filterMap_cons_none h, List.filterMap_nil,
    List.append_nil]
  rfl

theorem reasoningOf_thinking (thought : String) (sign : Option String) :
    reasoningOf (bs ++ [Block.thinking thought sign])
      = some ((reasoningOf bs).getD "" ++ thought) := by
  have hthoughts : (bs ++ [Block.thinking thought sign]).filterMap Block.thought?
      = bs.filterMap Block.thought? ++ [thought] := List.filterMap_append
  have hsome : bs.filterMap Block.thought? ++ [thought] ≠ [] :=
    List.append_ne_nil_of_right_ne_nil _ (List.cons_ne_nil _ _)
  rw [reasoningOf, hthoughts, if_neg hsome, concat_append, concat_cons, concat_nil,
    String.append_empty, reasoningOf]
  split
  · next hnone =>
    rw [hnone]
    rfl
  · rfl

theorem sealOf_concat (b : Block) : sealOf (bs ++ [b]) = b.seal?.or (sealOf bs) := by
  rw [sealOf, List.filterMap_append]
  cases hb : b.seal? with
  | none =>
    rw [List.filterMap_cons_none hb, List.filterMap_nil, List.append_nil]
    rfl
  | some s =>
    rw [List.filterMap_cons_some hb, List.filterMap_nil, List.getLast?_concat]
    rfl

/-- a turn gathers what its blocks hold, kind by kind -/
theorem foldl_addThought_eq :
    bs.foldl addThought {} = {
      reasoning := reasoningOf bs
      signature := sealOf bs
      calls := callsOf bs } := by
  induction bs using List.reverseRecOn with
  | nil => rfl
  | append_singleton bs b ih =>
    rw [List.foldl_append, ih, List.foldl_cons, List.foldl_nil, sealOf_concat]
    cases b with
    | thinking thought sign =>
      rw [reasoningOf_thinking, callsOf_concat bs rfl]
      cases sign <;> rfl
    | toolUse id name input =>
      rw [callsOf_toolUse, reasoningOf_concat bs rfl]
      rfl
    | text _ | image _ | toolResult _ _ _ | redacted _ =>
      rw [callsOf_concat bs rfl, reasoningOf_concat bs rfl]
      rfl

/-- nothing is gathered of blocks that neither call nor think -/
theorem isEmpty_foldl_addThought_iff : (bs.foldl addThought {}).isEmpty = true ↔
    ∀ b ∈ bs, b.thought? = none ∧ b.seal? = none ∧ b.call? = none := by
  have hthought : (reasoningOf bs).isNone = true ↔ ∀ b ∈ bs, b.thought? = none := by
    rw [← List.filterMap_eq_nil_iff, reasoningOf]
    split
    · next hnone => exact iff_of_true rfl hnone
    · next hsome => exact iff_of_false Bool.false_ne_true hsome
  have hseal : (sealOf bs).isNone = true ↔ ∀ b ∈ bs, b.seal? = none := by
    rw [Option.isNone_iff_eq_none, sealOf, List.getLast?_eq_none_iff, List.filterMap_eq_nil_iff]
  have hcalls : (callsOf bs).isEmpty = true ↔ ∀ b ∈ bs, b.call? = none := by
    rw [List.isEmpty_iff, callsOf, List.mapIdx_eq_nil_iff, List.filterMap_eq_nil_iff]
  rw [foldl_addThought_eq, Turn.isEmpty]
  simp only [decide_true, Bool.true_and, Bool.and_eq_true, hthought, hseal, hcalls,
    ← forall₂_and, and_assoc]

end

end ChatRelay.Anthropic
