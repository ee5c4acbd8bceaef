import TypedBlocks.Editor
import TypedBlocks.Replay.Script
import TypedBlocks.Session

/-!
# Replaying scripts

A script is replayed step by step in an editor; a table says which block each alias stands for.
The first step that fails ends the replay, and the editor stays as that step left it.
-/

namespace TypedBlocks.Replay

/-- Why a step failed: over a name or an index in the script, or because the edit did. -/
inductive StepFault where
  | unknownVariable (name : String)
  | unknownAlias (label : String)
  | noCategory (name : String)
  | noEntry (category : String) (index : Nat)
  | notABlock (category : String) (index : Nat)
  | aliasTaken (label : String)
  /-- the edit itself failed -/
  | edit (fault : Fault)
  deriving DecidableEq

/-- The text of a fault of a step. -/
def StepFault.message : StepFault → String
  | .unknownVariable name => "unknown variable " ++ name
  | .unknownAlias label => "unknown block alias " ++ label
  | .noCategory name => "no toolbox category " ++ name
  | .noEntry category index => "category " ++ category ++ " has no entry " ++ Nat.repr index
  | .notABlock category index =>
    "entry " ++ Nat.repr index ++ " of " ++ category ++ " is not a block"
  | .aliasTaken label => "block alias " ++ label ++ " is used twice"
  | .edit fault => fault.message

/-- A step that failed, by its number, and why. -/
structure Failure where
  step : Nat
  cause : StepFault
  deriving DecidableEq

/-- What a failure is about. -/
def Failure.summary (f : Failure) : String := "step " ++ Nat.repr f.step ++ " failed"

/-- The text of a failure, its cause included. -/
def Failure.message (f : Failure) : String := f.summary ++ ": " ++ f.cause.message

/-- An editor in which a script is replayed, and the blocks that its aliases stand for. Scripts know
blocks by these, never by ids. -/
structure State where
  editor : Editor
  aliases : Table String String

namespace State

/-- A replay that has not begun. -/
def start (editor : Editor) : State := { editor, aliases := .empty }

/-- Lets an alias stand for a block. An alias that is taken stands for the new block from then on,
and the step fails. -/
def name (s : State) (label block : String) : State × Except StepFault Unit :=
  ({ s with aliases := s.aliases.put label block },
    if (s.aliases.get? label).isSome then .error (.aliasTaken label) else .ok ())

/-- The block that an alias stands for. It fails if nothing has been given that alias. -/
def blockOf (s : State) (label : String) : Except StepFault String :=
  match s.aliases.get? label with
  | some block => .ok block
  | none => .error (.unknownAlias label)

/-- The variable that a picker is to be preset to: the first of that name. It fails if there is
none, and without a name there is no preset. -/
def presetVariable (s : State) : Option String → Except StepFault (Option String)
  | none => .ok none
  | some name =>
    match s.editor.workspace.canvas.vars.find? (·.name = name) with
    | some v => .ok (some v.id)
    | none => .error (.unknownVariable name)

/-- Takes the entry of a category at an index, and gives it an alias if there is one. It fails if
there is no such entry, or if that is no block. -/
def takeEntry (ids : IdSupply) (s : State) (category : String) (items : List Toolbox.Item)
    (index : Nat) (id : Option String) : State × Except StepFault Unit :=
  match items[index]? with
  | none => (s, .error (.noEntry category index))
  | some item =>
    match s.editor.take ids item with
    | (editor, .error fault) => ({ s with editor }, .error (.edit fault))
    | (editor, .ok none) => ({ s with editor }, .error (.notABlock category index))
    | (editor, .ok (some block)) =>
      match id with
      | some label => name { s with editor } label block
      | none => ({ s with editor }, .ok ())

/-- Replays a step. What a step has done before it fails is not undone. -/
def step (ids : IdSupply) (s : State) : Step → State × Except StepFault Unit
  | .create id blockType preset =>
    match s.presetVariable preset with
    | .error fault => (s, .error fault)
    | .ok preset =>
      match s.editor.create ids blockType preset with
      | (editor, .error fault) => ({ s with editor }, .error (.edit fault))
      | (editor, .ok block) => name { s with editor } id block
  | .connect child parent input =>
    match s.blockOf child with
    | .error fault => (s, .error fault)
    | .ok child =>
      match s.blockOf parent with
      | .error fault => (s, .error fault)
      | .ok parent =>
        let (editor, result) := s.editor.connect ids child parent input
        ({ s with editor }, result.mapError .edit)
  | .unplug block =>
    match s.blockOf block with
    | .error fault => (s, .error fault)
    | .ok block =>
      let (editor, result) := s.editor.unplug ids block
      ({ s with editor }, result.mapError .edit)
  | .category category index id =>
    match s.editor.openCategory category with
    | (editor, none) => ({ s with editor }, .error (.noCategory category))
    | (editor, some items) =>
      match index with
      | none => ({ s with editor }, .ok ())
      | some index => takeEntry ids { s with editor } category items index id

/-- Replays steps, the first of them with number `number`, up to the first that fails, which is
named by its number. -/
def run (ids : IdSupply) (s : State) (number : Nat) : List Step → State × Except Failure Unit
  | [] => (s, .ok ())
  | step :: rest =>
    match s.step ids step with
    | (s, .error cause) => (s, .error { step := number, cause })
    | (s, .ok ()) => run ids s (number + 1) rest

end State

/-- Replays a script in a new editor, with a session over a domain that is attached before and, if
the script succeeds, detached after it. -/
def replay (ids : IdSupply) (workspace : String) (settings : Settings) (domain : Domain)
    (script : Script) : State × Except Failure Unit :=
  let editor := Editor.start workspace settings
  let propagator : Propagator := { domain, snapRadius := settings.snapRadius }
  let (session, attached) := Session.attach ids editor.workspace propagator
  match (State.start { editor with workspace := attached }).run ids 0 script.steps with
  | (s, .error failure) => (s, .error failure)
  | (s, .ok ()) =>
    ({ s with editor := { s.editor with workspace := session.detach s.editor.workspace } }, .ok ())

end TypedBlocks.Replay
