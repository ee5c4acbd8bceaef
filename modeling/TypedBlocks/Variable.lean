import TypedBlocks.Json.Read

/-!
# Variables

A variable of a workspace, and its JSON. Its type is the text of a tag, or anything else a host has
put there; the empty type is that of a variable nothing is known about.
-/

namespace TypedBlocks

/-- A variable of a workspace. -/
structure Variable where
  id : String
  name : String
  /-- the text of a tag, empty while nothing is known -/
  type : String
  deriving DecidableEq

namespace Variable

/-- A variable as JSON. -/
def toJson (v : Variable) : Json :=
  .record [("id", .text v.id), ("name", .text v.name), ("type", .text v.type)]

/-- Reads a variable. -/
def ofJson? (json : Json) : Option Variable := do
  let field ← json.fields? [⟨"id", .required⟩, ⟨"name", .required⟩, ⟨"type", .required⟩]
  let id ← Json.requiredField Json.text? (field "id")
  let name ← Json.requiredField Json.text? (field "name")
  let type ← Json.requiredField Json.text? (field "type")
  return { id, name, type }

end Variable

end TypedBlocks
