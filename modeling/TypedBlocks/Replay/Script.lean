import TypedBlocks.Fault
import TypedBlocks.Json.Read

/-!
# Scripts

A script is a recorded list of edits. It calls blocks by aliases of its own, because their ids are
known only once the script is replayed. In JSON a step is a record labelled by what it does.
-/

namespace TypedBlocks.Replay

/-- A recorded edit. -/
inductive Step where
  /-- makes a block of a type, its picker preset to the variable of a name if one is given -/
  | create (id blockType : String) (preset : Option String)
  | connect (child parent input : String)
  | unplug (block : String)
  /-- opens a category, and takes out the block at an index if one is given -/
  | category (name : String) (index : Option Nat) (id : Option String)
  deriving DecidableEq

/-- A recorded list of edits. -/
structure Script where
  steps : List Step
  deriving DecidableEq

namespace Step

/-- One more than the greatest index: two to the power of 64. -/
def indexBound : Nat := 0x10000000000000000

/-- Reads a step. It stands in the list of steps of a script, two containers deep. -/
def ofJson? (json : Json) : Option Step := do
  let (op, rest) ← json.labelled? "op" 2
  if op = "create" then
    let field ← rest.fields? [⟨"id", .required⟩, ⟨"type", .required⟩, ⟨"variable", .defaulted⟩]
    let id ← Json.requiredField Json.text? (field "id")
    let blockType ← Json.requiredField Json.text? (field "type")
    let preset ← Json.optionalField Json.text? (field "variable")
    return .create id blockType preset
  else if op = "connect" then
    let field ← rest.fields? [⟨"child", .required⟩, ⟨"parent", .required⟩, ⟨"input", .required⟩]
    let child ← Json.requiredField Json.text? (field "child")
    let parent ← Json.requiredField Json.text? (field "parent")
    let input ← Json.requiredField Json.text? (field "input")
    return .connect child parent input
  else if op = "unplug" then
    let field ← rest.fields? [⟨"block", .required⟩]
    let block ← Json.requiredField Json.text? (field "block")
    return .unplug block
  else if op = "category" then
    let field ← rest.fields? [⟨"name", .required⟩, ⟨"take", .defaulted⟩, ⟨"id", .defaulted⟩]
    let name ← Json.requiredField Json.text? (field "name")
    let index ← Json.optionalField (Json.natBelow? indexBound) (field "take")
    let id ← Json.optionalField Json.text? (field "id")
    return .category name index id
  else none

end Step

namespace Script

/-- Reads a script. -/
def ofJson? (json : Json) : Option Script := do
  let field ← json.fields? [⟨"steps", .required⟩]
  let steps ← Json.requiredField (Json.list? Step.ofJson?) (field "steps")
  return { steps }

/-- The script that a JSON text writes. -/
def ofJsonText (text : String) : Except Fault Script :=
  match (Json.parse? text).bind ofJson? with
  | some s => .ok s
  | none => .error .json

end Script

end TypedBlocks.Replay
