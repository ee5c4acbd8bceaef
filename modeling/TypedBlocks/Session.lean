import TypedBlocks.Workspace

/-!
# Sessions

A session wires a propagator into a workspace: it declares the document variables of the domain,
listens to edits, and offers the two toolbox categories. It is to be detached from the workspace
it was attached to.
-/

namespace TypedBlocks

/-- A propagator that is wired into a workspace. A workspace may have several, and a propagator may
be wired in more than once. -/
structure Session where
  propagator : Propagator
  /-- the workspace it was attached to -/
  workspace : String
  /-- the id of its listener -/
  listener : String

namespace Session

/-- Listens for a propagator: lets it handle every event, and does nothing else. -/
def listenerOf (p : Propagator) : Listener := fun event => .propagate p event .done

/-- The category of document variables of a propagator, over the variables that there are when it is
opened. -/
def documentVariablesOf (p : Propagator) : Toolbox.Category := fun catalog canvas =>
  p.variableListing catalog canvas.vars

/-- The category of links of a propagator. -/
def linksOf (p : Propagator) : Toolbox.Category := fun catalog _ => p.linkListing catalog

/-- Declares a document variable, unless there is one of its name, which keeps its type. -/
def declare (ids : IdSupply) (c : Canvas) (v : DocumentVariable) : Canvas :=
  (c.ensureVariable ids v.name (Tag.document v.collection).text none).2

/-- Wires a propagator into a workspace: declares the document variables of its domain, adds its
listener, and registers both categories, in the place of those of another session. -/
def attach (ids : IdSupply) (w : Workspace) (p : Propagator) : Session × Workspace :=
  let w := { w with canvas := p.domain.documentVariables.foldl (declare ids) w.canvas }
  let (listener, w) := w.addListener ids (listenerOf p)
  let w := w.registerCategory Toolbox.documentVariablesName (documentVariablesOf p)
  let w := w.registerCategory Toolbox.linksName (linksOf p)
  ({ propagator := p, workspace := w.id, listener }, w)

/-- Takes a session out of its workspace, with its listener and whichever categories have the two
names; another workspace is left as it is, which is noted. -/
def detach (s : Session) (w : Workspace) : Workspace :=
  if w.id ≠ s.workspace then w.record [.noted (.foreignDetach s.workspace w.id)]
  else
    let w := (w.removeListener s.listener).2
    let w := (w.removeCategory Toolbox.documentVariablesName).2
    (w.removeCategory Toolbox.linksName).2

end Session

end TypedBlocks
