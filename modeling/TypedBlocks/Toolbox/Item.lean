import TypedBlocks.Fault
import TypedBlocks.Variable

/-!
# Toolbox items

The entries of a toolbox category: blocks to drag out, a variable preset in them if wanted, and
gaps. In JSON an item is a record labelled by its kind.
-/

namespace TypedBlocks.Toolbox

/-- An entry of a toolbox category. -/
inductive Item where
  /-- a block of a type, its picker preset to a variable if one is given -/
  | block (blockType : String) (preset : Option Variable)
  /-- an empty space -/
  | separator (gap : UInt32)
  deriving DecidableEq

namespace Item

/-- An item as JSON; a missing variable is left out. -/
def toJson : Item → Json
  | .block blockType preset =>
    .record ([("kind", .text "block"), ("block_type", .text blockType)] ++
      Json.optionalMember "variable" Variable.toJson preset)
  | .separator gap => .record [("kind", .text "separator"), ("gap", .nat gap.toNat)]

/-- Reads an item. -/
def ofJson? (json : Json) : Option Item := do
  let (kind, rest) ← json.labelled? "kind" 0
  if kind = "block" then
    let field ← rest.fields? [⟨"block_type", .required⟩, ⟨"variable", .defaulted⟩]
    let blockType ← Json.requiredField Json.text? (field "block_type")
    let preset ← Json.optionalField Variable.ofJson? (field "variable")
    return .block blockType preset
  else if kind = "separator" then
    let field ← rest.fields? [⟨"gap", .required⟩]
    let gap ← Json.requiredField (Json.natBelow? UInt32.size) (field "gap")
    return .separator gap.toUInt32
  else none

/-- The item that a JSON text writes. -/
def ofJsonText (text : String) : Except Fault Item :=
  match (Json.parse? text).bind ofJson? with
  | some item => .ok item
  | none => .error .json

end Item

end TypedBlocks.Toolbox
