import TypedBlocks.Settings
import TypedBlocks.Workspace

/-!
# Editors

A workspace together with the catalog that its blocks are made from, and what a user can do there:
make blocks, open categories and take blocks out of them, plug blocks in and pull them out. `Edit`
holds these as values, for runs of any length.
-/

namespace TypedBlocks

/-- A workspace and the catalog behind it. Two editors that share a catalog are two of these with
the same one, brought up to date between edits. -/
structure Editor where
  catalog : Catalog
  workspace : Workspace

/-- Something that a user does. Whether it succeeds is for `perform` to say. -/
inductive Edit where
  | create (blockType : String) (preset : Option String)
  | take (item : Toolbox.Item)
  | openCategory (name : String)
  | connect (child parent input : String)
  | unplug (block : String)

namespace Editor

/-- An editor with an empty workspace. -/
def start (workspace : String) (settings : Settings) : Editor where
  catalog := Catalog.initial settings.shade
  workspace := Workspace.empty workspace

/-- Makes a block of a type, and says which. -/
def create (ids : IdSupply) (e : Editor) (blockType : String) (preset : Option String) :
    Editor × Except Fault String :=
  match e.workspace.create ids e.catalog blockType preset with
  | .ok (id, workspace) => ({ e with workspace }, .ok id)
  | .error fault => (e, .error fault)

/-- Takes a block out of the toolbox, and says which; of a separator nothing is made. -/
def take (ids : IdSupply) (e : Editor) (item : Toolbox.Item) :
    Editor × Except Fault (Option String) :=
  match e.workspace.take ids e.catalog item with
  | .ok (id, workspace) => ({ e with workspace }, .ok id)
  | .error fault => (e, .error fault)

/-- Opens a category, if there is one of that name, and says what it lists. The catalog keeps the
definitions that were made for it. -/
def openCategory (e : Editor) (name : String) : Editor × Option (List Toolbox.Item) :=
  let (items, catalog, workspace) := e.workspace.openCategory e.catalog name
  ({ catalog, workspace }, items)

/-- Plugs a block into an input. Also an edit that fails may have pulled a block out. -/
def connect (ids : IdSupply) (e : Editor) (child parent input : String) :
    Editor × Except Fault Unit :=
  let (workspace, result) := e.workspace.connect ids child parent input
  ({ e with workspace }, result)

/-- Pulls a block out of its input. -/
def unplug (ids : IdSupply) (e : Editor) (block : String) : Editor × Except Fault Unit :=
  let (workspace, result) := e.workspace.unplug ids block
  ({ e with workspace }, result)

/-- Does what an edit says. What is handed back says no more than whether it succeeded, and why
not. -/
def perform (ids : IdSupply) (e : Editor) : Edit → Editor × Except Fault Unit
  | .create blockType preset => ((e.create ids blockType preset).1,
      (e.create ids blockType preset).2.map fun _ => ())
  | .take item => ((e.take ids item).1, (e.take ids item).2.map fun _ => ())
  | .openCategory name => ((e.openCategory name).1, .ok ())
  | .connect child parent input => e.connect ids child parent input
  | .unplug block => e.unplug ids block

end Editor

end TypedBlocks
