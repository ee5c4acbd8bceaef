import TypedBlocks.Canvas
import TypedBlocks.Catalog

/-!
# Making blocks

A block is made from its definition. A picker of variables is bound to the preset variable if
there is one, else to the first variable of the type it wants, else to a new variable, so it is
always bound. A new variable is called `item`, or `item2`, `item3` and so on if those names are
taken.
-/

namespace TypedBlocks.Canvas

/-! ## Names for new variables -/

/-- The names that a new variable may be given, in the order in which they are tried: `item`,
`item2`, `item3` and so on. -/
def candidateName (n : Nat) : String :=
  if n = 0 then "item" else "item" ++ Nat.repr (n + 1)

/-- The first candidate that is not taken. One more candidate than there are names is enough. -/
def freshName (taken : List String) : String :=
  match (List.range (taken.length + 1)).find? fun n => candidateName n ∉ taken with
  | some n => candidateName n
  | none => candidateName 0

/-- The variable that a picker is bound to, which may be a new one. An empty type is none to look
for. -/
def pickVariable (ids : IdSupply) (c : Canvas) (preset : Option String) (type : String) :
    Variable × Canvas :=
  match preset.bind c.findVariable with
  | some v => (v, c)
  | none =>
    match if type = "" then none else c.vars.find? (·.type = type) with
    | some v => (v, c)
    | none => c.ensureVariable ids (freshName (c.vars.map (·.name))) type none

/-! ## Blocks from definitions -/

/-- A block in the making, and the canvas it may have added a variable to. Parts are added one after
the other. -/
structure Draft where
  canvas : Canvas
  inputs : Table String Input := .empty
  fields : Table String Field := .empty

/-- Adds what a part of a message stands for: a field for a picker or a dropdown, an input for an
input or a place for statements. Icons and labels leave nothing on the block. -/
def Draft.addPart (ids : IdSupply) (preset : Option String) (draft : Draft) :
    Definition.Part → Draft
  | .icon _ _ => draft
  | .label _ _ => draft
  | .picker name _ default =>
    let type :=
      match default with
      | some tag => tag.text
      | none => ""
    let (v, canvas) := draft.canvas.pickVariable ids preset type
    { draft with canvas, fields := draft.fields.put name { value := v.id, choices := [] } }
  | .dropdown name choices value =>
    let value := (value.or (choices.head?.map (·.value))).getD ""
    { draft with fields := draft.fields.put name { value, choices } }
  | .input name check =>
    let check := check.map (·.map Tag.text)
    { draft with inputs := draft.inputs.put name { check, statement := false, target := none } }
  | .statements name =>
    let input : Input := { check := none, statement := true, target := none }
    { draft with inputs := draft.inputs.put name input }

/-- Does a block with this output have an output? -/
def hasOutput : Definition.Output → Bool
  | .statement => false
  | _ => true

/-- The check of an output: the text of its tag if it is typed, and none otherwise. -/
def outputCheck : Definition.Output → Option (List String)
  | .typed tag => some [tag.text]
  | _ => none

/-- A block made from a definition, plugged in nowhere. Its pickers are bound in the order of the
parts, and each may add a variable. -/
def build (ids : IdSupply) (c : Canvas) (d : Definition) (preset : Option String) :
    Block × Canvas :=
  let draft := d.parts.foldl (Draft.addPart ids preset) { canvas := c }
  ({ type := d.blockType
     hasOutput := hasOutput d.output
     outputCheck := outputCheck d.output
     parent := none
     inputs := draft.inputs
     fields := draft.fields
     position := (0, 0) }, draft.canvas)

/-- Makes a block of a type, under an id that is drawn for it first. A preset that names no variable
counts as none. It fails if the catalog is poisoned, or has no definition of that type. -/
def create (ids : IdSupply) (catalog : Catalog) (c : Canvas) (blockType : String)
    (preset : Option String) : Except Fault (String × Canvas) := do
  let catalog ← catalog.shared
  match catalog.definition? blockType with
  | none => throw (.noDefinition blockType)
  | some d =>
    let (id, c) := c.draw ids
    let (b, c) := c.build ids d preset
    return (id, { c with blocks := c.blocks.put id b })

end TypedBlocks.Canvas
