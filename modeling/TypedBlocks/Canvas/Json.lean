import TypedBlocks.Canvas
import TypedBlocks.Definition.Json

/-!
# A canvas as JSON

How a host writes its blocks down. The numbers of a position are written by the caller's choice,
since JSON cannot hold all of them.
-/

namespace TypedBlocks

/-- An input as JSON: a missing check is left out, and `statement` unless it is one. -/
def Input.toJson (i : Input) : Json :=
  .record (Json.optionalMember "check" Json.texts i.check ++
    (if i.statement then [("statement", .bool true)] else []) ++
    [("target", .ofOption .text i.target)])

/-- A place in an input as JSON. -/
def Plug.toJson (p : Plug) : Json := .record [("block", .text p.block), ("input", .text p.input)]

/-- A field as JSON, with its name. -/
def Field.toJson (name : String) (f : Field) : Json :=
  .record
    [("name", .text name), ("value", .text f.value),
      ("options", .array (f.choices.map Choice.toJson))]

/-- The entries of a table in the order of their names. -/
def inNameOrder (t : Table String α) : List (String × α) :=
  t.entries.mergeSort fun a b => a.1 ≤ b.1

/-- A block as JSON, the numbers of its position written by `number`. -/
def Block.toJson (number : Float → Json) (b : Block) : Json :=
  .record
    [("type", .text b.type), ("has_output", .bool b.hasOutput),
      ("output_check", .ofOption .texts b.outputCheck), ("parent", .ofOption Plug.toJson b.parent),
      ("inputs", .record ((inNameOrder b.inputs).map fun e => (e.1, e.2.toJson))),
      ("fields", .record ((inNameOrder b.fields).map fun e => (e.1, e.2.toJson e.1))),
      ("position", .array [number b.position.1, number b.position.2])]

end TypedBlocks
