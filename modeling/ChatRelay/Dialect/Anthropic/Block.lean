import ChatRelay.Json.Record

/-!
# Content blocks

The content of a message in this dialect is a list of blocks: text, images, tool uses and their
results, and thinking, open or withheld.  A result may hold blocks itself.

* `Block.ofJson`, `Block.toJson`   the wire form of a block;
* `ToolOutput.plainText`           the text of a result.
-/

namespace ChatRelay.Anthropic

open Json (Reader Problem Record Access field fieldOf?)

/-- where an image is -/
inductive ImageSource where
  | base64 (mediaType data : String)
  | url (address : String)
  deriving DecidableEq, Repr

/-- what a tool gave back: nothing, a text, or blocks -/
inductive ToolOutput (β : Type) where
  | missing
  | text (s : String)
  | blocks (blocks : List β)
  deriving DecidableEq, Repr

/-- a content block -/
inductive Block where
  | text (s : String)
  | image (source : ImageSource)
  | toolUse (id name : String) (input : Json.Value)
  | toolResult (toolUseId : String) (output : ToolOutput Block) (failed : Option Bool)
  | thinking (thought : String) (signature : Option String)
  | redacted (data : String)
  deriving Repr

/-! ## equality -/

mutual
/-- whether two blocks are the same -/
def Block.decEq : (a b : Block) → Decidable (a = b)
  | .text x, .text y => decidable_of_iff (x = y) (by simp)
  | .image x, .image y => decidable_of_iff (x = y) (by simp)
  | .toolUse i n v, .toolUse j m w =>
    decidable_of_iff (i = j ∧ n = m ∧ v = w) (by simp)
  | .toolResult i o f, .toolResult j p g =>
    match decEqOutput o p with
    | isTrue h => decidable_of_iff (i = j ∧ f = g) (by simp [h])
    | isFalse h => isFalse (fun e => h (Block.toolResult.inj e).2.1)
  | .thinking t s, .thinking u r => decidable_of_iff (t = u ∧ s = r) (by simp)
  | .redacted x, .redacted y => decidable_of_iff (x = y) (by simp)
  | .text _, .image _ | .text _, .toolUse .. | .text _, .toolResult ..
  | .text _, .thinking .. | .text _, .redacted _ => isFalse nofun
  | .image _, .text _ | .image _, .toolUse .. | .image _, .toolResult ..
  | .image _, .thinking .. | .image _, .redacted _ => isFalse nofun
  | .toolUse .., .text _ | .toolUse .., .image _ | .toolUse .., .toolResult ..
  | .toolUse .., .thinking .. | .toolUse .., .redacted _ => isFalse nofun
  | .toolResult .., .text _ | .toolResult .., .image _ | .toolResult .., .toolUse ..
  | .toolResult .., .thinking .. | .toolResult .., .redacted _ => isFalse nofun
  | .thinking .., .text _ | .thinking .., .image _ | .thinking .., .toolUse ..
  | .thinking .., .toolResult .. | .thinking .., .redacted _ => isFalse nofun
  | .redacted _, .text _ | .redacted _, .image _ | .redacted _, .toolUse ..
  | .redacted _, .toolResult .. | .redacted _, .thinking .. => isFalse nofun

/-- whether two outputs are the same -/
def decEqOutput : (a b : ToolOutput Block) → Decidable (a = b)
  | .missing, .missing => isTrue rfl
  | .text x, .text y => decidable_of_iff (x = y) (by simp)
  | .blocks xs, .blocks ys =>
    match decEqBlocks xs ys with
    | isTrue h => isTrue (by rw [h])
    | isFalse h => isFalse (fun e => h (ToolOutput.blocks.inj e))
  | .missing, .text _ | .missing, .blocks _ => isFalse nofun
  | .text _, .missing | .text _, .blocks _ => isFalse nofun
  | .blocks _, .missing | .blocks _, .text _ => isFalse nofun

/-- whether two lists of blocks are the same -/
def decEqBlocks : (xs ys : List Block) → Decidable (xs = ys)
  | [], [] => isTrue rfl
  | [], _ :: _ => isFalse nofun
  | _ :: _, [] => isFalse nofun
  | x :: xs, y :: ys =>
    match Block.decEq x y, decEqBlocks xs ys with
    | isTrue h, isTrue hs => isTrue (by rw [h, hs])
    | isFalse h, _ => isFalse (fun e => h (List.cons.inj e).1)
    | _, isFalse h => isFalse (fun e => h (List.cons.inj e).2)
end

instance : DecidableEq Block := Block.decEq

/-! ## texts -/

/-- the text of a text block -/
def Block.text? : Block → Option String
  | .text t => some t
  | _ => none

/-! ## wire form -/

namespace ImageSource

/-- the tags of image sources -/
def tags : List String := ["base64", "url"]

/-- reads an image source; it is part of a block and so was set aside -/
def ofJson : Reader ImageSource := fun j => do
  let tag ← Json.tagOf .held tags j
  if tag = "base64" then
    let r ← Record.ofTagged ["media_type", "data"] j
    return .base64 (← r.require "media_type" Json.asText) (← r.require "data" Json.asText)
  else
    let r ← Record.ofTagged ["url"] j
    return .url (← r.require "url" Json.asText)

/-- writes an image source -/
def toJson : ImageSource → Json
  | .base64 mediaType data =>
    Json.tagged "base64" (field "media_type" (.text mediaType) ++ field "data" (.text data))
  | .url address => Json.tagged "url" (field "url" (.text address))

end ImageSource

namespace Block

/-- the tags of blocks -/
def tags : List String :=
  ["text", "image", "tool_use", "tool_result", "thinking", "redacted_thinking"]

/-- reads what a tool gave back, its blocks with `read` -/
def outputOfJson (read : Reader Block) : Option Json → Except Problem (ToolOutput Block)
  | none | some .null => .ok .missing
  | some (.text s) => .ok (.text s)
  | some j => (Json.asList read j).map .blocks

/-- reads a block whose results nest less than `levels` deep -/
def ofJsonWithin : (levels : Nat) → Access → Reader Block
  | 0, _, _ => .error (.expected "a block")
  | levels + 1, access, j => do
    let tag ← Json.tagOf access tags j
    if tag = "text" then
      let r ← Record.ofTagged ["text"] j
      return .text (← r.require "text" Json.asText)
    else if tag = "image" then
      let r ← Record.ofTagged ["source"] j
      return .image (← r.require "source" ImageSource.ofJson)
    else if tag = "tool_use" then
      let r ← Record.ofTagged ["id", "name", "input"] j
      return .toolUse (← r.require "id" Json.asText) (← r.require "name" Json.asText)
        (← r.require "input" Json.asValue)
    else if tag = "tool_result" then
      let r ← Record.ofTagged ["tool_use_id", "content", "is_error"] j
      return .toolResult (← r.require "tool_use_id" Json.asText)
        (← outputOfJson (ofJsonWithin levels .held) (r.find? "content"))
        (← r.get? "is_error" Json.asBool)
    else if tag = "thinking" then
      let r ← Record.ofTagged ["thinking", "signature"] j
      return .thinking (← r.require "thinking" Json.asText) (← r.get? "signature" Json.asText)
    else
      let r ← Record.ofTagged ["data"] j
      return .redacted (← r.require "data" Json.asText)

/-- reads a block -/
def ofJson (access : Access) : Reader Block := fun j => ofJsonWithin (j.depth + 1) access j

mutual
/-- writes a block -/
def toJson : Block → Json
  | .text t => Json.tagged "text" (field "text" (.text t))
  | .image source => Json.tagged "image" (field "source" source.toJson)
  | .toolUse id name input =>
    Json.tagged "tool_use"
      (field "id" (.text id) ++ field "name" (.text name) ++ field "input" input.json)
  | .toolResult toolUseId output failed =>
    Json.tagged "tool_result"
      (field "tool_use_id" (.text toolUseId) ++ outputFields output
        ++ fieldOf? "is_error" failed .bool)
  | .thinking thought signature =>
    Json.tagged "thinking"
      (field "thinking" (.text thought) ++ fieldOf? "signature" signature .text)
  | .redacted data => Json.tagged "redacted_thinking" (field "data" (.text data))

/-- writes what a tool gave back, nothing where it gave nothing -/
def outputFields : ToolOutput Block → List (String × Json)
  | .missing => []
  | .text t => field "content" (.text t)
  | .blocks bs => field "content" (.array (toJsons bs))

/-- writes blocks -/
def toJsons : List Block → List Json
  | [] => []
  | b :: bs => b.toJson :: toJsons bs
end

end Block

/-- what a tool gave back as text; blocks other than text say nothing -/
def ToolOutput.plainText : ToolOutput Block → String
  | .missing => ""
  | .text t => t
  | .blocks bs => (bs.filterMap Block.text?).foldr (· ++ ·) ""

end ChatRelay.Anthropic
