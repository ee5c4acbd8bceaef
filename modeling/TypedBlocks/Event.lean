import TypedBlocks.Fault
import TypedBlocks.Json.Read

/-!
# Events

A host reports each connection edit as an event: which block, where it was, where it is now. Hosts
can report anything, so an event is a claim about the canvas and need not be true of it.
-/

namespace TypedBlocks

/-- The report of one connection edit. Nothing keeps a host from reporting what has not happened. -/
structure Event where
  /-- the block that was plugged in or pulled out -/
  block : String
  /-- the block it is now plugged into -/
  newParent : Option String
  /-- the block it was plugged into -/
  oldParent : Option String
  /-- the workspace it happened in -/
  workspace : String
  deriving DecidableEq

/-- What an event says has happened. -/
inductive Change where
  /-- the block was plugged into `parent` -/
  | connected (parent : String)
  /-- the block was pulled out of `parent` -/
  | disconnected (parent : String)
  /-- nothing about connections -/
  | other
  deriving DecidableEq

namespace Event

/-- The event of plugging a block in. -/
def connect (workspace block parent : String) : Event :=
  { block, newParent := some parent, oldParent := none, workspace }

/-- The event of pulling a block out. -/
def disconnect (workspace block parent : String) : Event :=
  { block, newParent := none, oldParent := some parent, workspace }

/-- What an event says; a new parent counts before an old one. One that names neither says
nothing. -/
def change (e : Event) : Change :=
  match e.newParent, e.oldParent with
  | some parent, _ => .connected parent
  | none, some parent => .disconnected parent
  | none, none => .other

/-- An optional text as messages show it. -/
def quotedOption : Option String → String
  | some s => "Some(" ++ Text.quoted s ++ ")"
  | none => "None"

/-- An event as messages show it. -/
def describe (e : Event) : String :=
  "ConnectionEvent \x7b block_id: " ++ Text.quoted e.block ++
    ", new_parent_id: " ++ quotedOption e.newParent ++
    ", old_parent_id: " ++ quotedOption e.oldParent ++
    ", workspace_id: " ++ Text.quoted e.workspace ++ " \x7d"

/-- An event as JSON; missing parents are left out. -/
def toJson (e : Event) : Json :=
  .record ([("blockId", .text e.block)] ++
    Json.optionalMember "newParentId" Json.text e.newParent ++
    Json.optionalMember "oldParentId" Json.text e.oldParent ++
    [("workspaceId", .text e.workspace)])

/-- Reads an event. -/
def ofJson? (json : Json) : Option Event := do
  let field ← json.fields?
    [⟨"blockId", .required⟩, ⟨"newParentId", .defaulted⟩, ⟨"oldParentId", .defaulted⟩,
      ⟨"workspaceId", .required⟩]
  let block ← Json.requiredField Json.text? (field "blockId")
  let newParent ← Json.optionalField Json.text? (field "newParentId")
  let oldParent ← Json.optionalField Json.text? (field "oldParentId")
  let workspace ← Json.requiredField Json.text? (field "workspaceId")
  return { block, newParent, oldParent, workspace }

/-- The event that a JSON text writes. -/
def ofJsonText (text : String) : Except Fault Event :=
  match (Json.parse? text).bind ofJson? with
  | some e => .ok e
  | none => .error .json

end Event

end TypedBlocks
