import TypedBlocks.Canvas.Amendment
import TypedBlocks.Canvas.Create
import TypedBlocks.Toolbox

/-!
# Workspaces

A workspace is a canvas with an audience: listeners, who are told of every edit a user makes, and
toolbox categories, which users take blocks from.

What a listener does on being told is a `Reaction`, a program over the effects that a host offers
to listeners. It can amend the canvas, look at it, let a propagator handle the event, and change
the audience; it cannot make user edits or report events, so reports never nest. Listeners are
taken out of the workspace while they run: those they add are told of the next event on, and those
in the midst of being told cannot be removed.

The journal keeps what happened while listeners ran, and the notices.
-/

namespace TypedBlocks

/-- What a listener does on being told of an event, one thing after the other. What it learns on the
way may decide how it goes on. -/
inductive Reaction where
  /-- nothing more -/
  | done
  /-- lets a propagator handle an event -/
  | propagate (p : Propagator) (event : Event) (next : Reaction)
  /-- amends the canvas, and learns how that went -/
  | amend (amendment : Amendment) (next : Except Fault Unit → Reaction)
  /-- looks at the canvas -/
  | look (next : Canvas → Reaction)
  /-- adds a listener, and learns its id -/
  | listen (listener : Event → Reaction) (next : String → Reaction)
  /-- removes a listener, and learns whether there was one -/
  | unlisten (id : String) (next : Bool → Reaction)
  /-- registers a category -/
  | register (name : String) (category : Toolbox.Category) (next : Reaction)
  /-- removes a category, and learns whether there was one -/
  | unregister (name : String) (next : Bool → Reaction)

/-- Is told of events. -/
abbrev Listener := Event → Reaction

/-- Something that happened while listeners ran, or that was noted. -/
inductive Entry where
  /-- a listener was told of an event -/
  | told (listener : String) (event : Event)
  /-- a listener amended the canvas -/
  | amended (listener : String) (result : Except Fault Unit)
  /-- a listener added a listener -/
  | listened (listener added : String)
  /-- a listener removed a listener, or found none to remove -/
  | unlistened (listener removed : String) (found : Bool)
  /-- something was passed over or undone -/
  | noted (notice : Notice)

/-- A canvas with its audience: those who are told of edits, the categories of the toolbox, and what
has happened so far. -/
structure Workspace where
  id : String
  canvas : Canvas
  /-- in the order in which they are told -/
  listeners : List (String × Listener)
  categories : Table String Toolbox.Category
  /-- what happened, the oldest first -/
  journal : List Entry

namespace Workspace

/-- An empty workspace. -/
def empty (id : String) : Workspace :=
  { id, canvas := .empty, listeners := [], categories := .empty, journal := [] }

/-- Writes entries into the journal. -/
def record (w : Workspace) (entries : List Entry) : Workspace :=
  { w with journal := w.journal ++ entries }

/-! ## The audience -/

/-- Adds a listener under a new id, behind all others. -/
def addListener (ids : IdSupply) (w : Workspace) (listener : Listener) : String × Workspace :=
  let (id, canvas) := w.canvas.draw ids
  (id, { w with canvas, listeners := w.listeners ++ [(id, listener)] })

/-- Removes a listener, and says whether there was one. While an event is reported, only those who
were added meanwhile can be found. -/
def removeListener (w : Workspace) (id : String) : Bool × Workspace :=
  (w.listeners.any (·.1 = id), { w with listeners := w.listeners.filter (·.1 ≠ id) })

/-- Registers a category, in the place of one of the same name, whoever that belongs to. -/
def registerCategory (w : Workspace) (name : String) (category : Toolbox.Category) : Workspace :=
  { w with categories := w.categories.put name category }

/-- Removes a category, and says whether there was one. -/
def removeCategory (w : Workspace) (name : String) : Bool × Workspace :=
  ((w.categories.get? name).isSome, { w with categories := w.categories.erase name })

/-! ## Reports -/

/-- Runs the reaction of the listener `me`, and notes in the journal what it does. -/
def react (ids : IdSupply) (me : String) : Reaction → Workspace → Workspace
  | .done, w => w
  | .propagate p event next, w =>
    let (canvas, notices) := p.handle w.canvas event
    react ids me next ({ w with canvas }.record (notices.map .noted))
  | .amend amendment next, w =>
    match amendment.apply ids w.canvas with
    | .ok canvas => react ids me (next (.ok ())) ({ w with canvas }.record [.amended me (.ok ())])
    | .error fault => react ids me (next (.error fault)) (w.record [.amended me (.error fault)])
  | .look next, w => react ids me (next w.canvas) w
  | .listen listener next, w =>
    let (id, w) := w.addListener ids listener
    react ids me (next id) (w.record [.listened me id])
  | .unlisten id next, w =>
    let (found, w) := w.removeListener id
    react ids me (next found) (w.record [.unlistened me id found])
  | .register name category next, w => react ids me next (w.registerCategory name category)
  | .unregister name next, w =>
    let (found, w) := w.removeCategory name
    react ids me (next found) w

/-- Tells a listener of an event: notes that, and runs its reaction. -/
def tell (ids : IdSupply) (event : Event) (w : Workspace) (listener : String × Listener) :
    Workspace :=
  react ids listener.1 (listener.2 event) (w.record [.told listener.1 event])

/-- Reports an event: tells all listeners in turn. They are taken out of the workspace for that time
and put back in front of those that were added meanwhile, so none of them can be removed. -/
def report (ids : IdSupply) (w : Workspace) (event : Event) : Workspace :=
  let after := w.listeners.foldl (tell ids event) { w with listeners := [] }
  { after with listeners := w.listeners ++ after.listeners }

/-! ## User edits -/

/-- Makes a block of a type. -/
def create (ids : IdSupply) (catalog : Catalog) (w : Workspace) (blockType : String)
    (preset : Option String) : Except Fault (String × Workspace) :=
  match w.canvas.create ids catalog blockType preset with
  | .ok (id, canvas) => .ok (id, { w with canvas })
  | .error fault => .error fault

/-- Makes the block of a toolbox item, preset to the variable that it is listed with; a separator
makes none. -/
def take (ids : IdSupply) (catalog : Catalog) (w : Workspace) :
    Toolbox.Item → Except Fault (Option String × Workspace)
  | .block blockType preset =>
    match w.create ids catalog blockType (preset.map (·.id)) with
    | .ok (id, w) => .ok (some id, w)
    | .error fault => .error fault
  | .separator _ => .ok (none, w)

/-- Opens a category; `none` if there is none of that name. What was passed over in listing it is
noted. -/
def openCategory (catalog : Catalog) (w : Workspace) (name : String) :
    Option (List Toolbox.Item) × Catalog × Workspace :=
  match w.categories.get? name with
  | none => (none, catalog, w)
  | some category =>
    let listing := category catalog w.canvas
    (some listing.items, listing.catalog, w.record (listing.notices.map .noted))

/-- Pulls a block out of its input, and reports it. It fails if there is no such block, or if that
is plugged in nowhere; nothing is reported then. -/
def unplug (ids : IdSupply) (w : Workspace) (child : String) : Workspace × Except Fault Unit :=
  match w.canvas.release child with
  | .error fault => (w, .error fault)
  | .ok (plug, canvas) =>
    (report ids { w with canvas } (.disconnect w.id child plug.block), .ok ())

/-- Does an input take an output? One with no restriction takes or fits any other; otherwise they
have to share a tag text. -/
def compatible (output accepted : Option (List String)) : Bool :=
  match output, accepted with
  | some output, some accepted => output.any fun tag => accepted.contains tag
  | _, _ => true

/-- Checks that a block may be plugged into an input, and finds what the input holds. Both blocks
and the input have to be there; a block does not fit into itself, nor without an output, nor in a
place for statements, nor where the checks share no text. -/
def approve (c : Canvas) (child parent input : String) : Except Fault (Option String) :=
  match c.block? child with
  | none => .error (.noBlock child)
  | some childBlock =>
    match c.block? parent with
    | none => .error (.noBlock parent)
    | some parentBlock =>
      match parentBlock.inputs.get? input with
      | none => .error (.noInput parent input)
      | some slot =>
        if child = parent ∨ !childBlock.hasOutput ∨ slot.statement ∨
            !compatible childBlock.outputCheck slot.check then
          .error (.misfit child parent input)
        else .ok slot.target

/-- Pulls a block out if it is plugged in, with a report, so that it can be plugged in elsewhere. -/
def vacate (ids : IdSupply) (w : Workspace) (child : String) : Workspace × Except Fault Unit :=
  match w.canvas.plug? child with
  | none => (w, .ok ())
  | some _ => w.unplug ids child

/-- Pulls out what an input was found to hold, unless it is the block that is to go there. It was
found before the block was pulled out of where it was, and may be gone by now. -/
def evict (ids : IdSupply) (w : Workspace) (child : String) :
    Option String → Workspace × Except Fault Unit
  | none => (w, .ok ())
  | some occupant => if occupant = child then (w, .ok ()) else w.unplug ids occupant

/-- Plugs a block into an input. The block is pulled out of where it was, then the block that the
input held is pulled out of it, each with a report of its own, and then the connection is made and
reported. -/
def connect (ids : IdSupply) (w : Workspace) (child parent input : String) :
    Workspace × Except Fault Unit :=
  match approve w.canvas child parent input with
  | .error fault => (w, .error fault)
  | .ok occupant =>
    match w.vacate ids child with
    | (w, .error fault) => (w, .error fault)
    | (w, .ok ()) =>
      match w.evict ids child occupant with
      | (w, .error fault) => (w, .error fault)
      | (w, .ok ()) =>
        (report ids { w with canvas := w.canvas.plugIn child parent input }
          (.connect w.id child parent), .ok ())

end Workspace

end TypedBlocks
