import TypedBlocks.Editor
import TypedBlocks.Proofs.Catalog.Sound
import TypedBlocks.Session

/-!
# Runs

What happens to an editor over time, one act after the other. Users edit, sessions come and go, the
host reports events of any content and amends the canvas, listeners are added and removed, and
other editors have the shared catalog make definitions. Acts that fail are acts as well: they leave
the editor as it is then.

`Editor.perform_cases` says all that an edit can do, so what edits keep is proved in five cases.
`Reach` collects the editors that a start leads to when only some acts are allowed. A fact about
all of them is proved by one lemma for each kind of act; `Reach.run` is the way back, from a list of
acts to an editor that is reached.

`Editor.harbour` is a small editor to try theorems on, with one block of each kind but the loop;
in `Editor.harbourLoaded` they are plugged into each other.
-/

namespace TypedBlocks

/-- Something that happens to an editor, by its user or from outside. None of it is assumed to make
sense. -/
inductive Act where
  /-- the user does something -/
  | edit (edit : Edit)
  /-- a propagator is wired in -/
  | attach (p : Propagator)
  /-- a session is taken out -/
  | detach (s : Session)
  /-- the host reports an event, of any content -/
  | report (event : Event)
  /-- the canvas is amended -/
  | amend (amendment : Amendment)
  /-- a listener is added -/
  | listen (listener : Listener)
  /-- a listener is removed -/
  | unlisten (id : String)
  /-- another editor asks the catalog for the getter of a collection -/
  | askGetter (domain : Domain) (id : String)
  /-- another editor asks the catalog for the link of a link type -/
  | askLink (domain : Domain) (l : LinkType)

/-- What a user does, and what other editors do to the catalog meanwhile. -/
def Act.ByUser : Act → Prop
  | .edit _ => True
  | .askGetter _ _ => True
  | .askLink _ _ => True
  | _ => False

namespace Catalog

/-- The catalog after something was asked for. A request that fails leaves it as it is. -/
def afterAsking (c : Catalog) (supplied : Except Fault Supplied) : Catalog :=
  match supplied with
  | .ok s => s.catalog
  | .error _ => c

/-- Asking leaves a catalog sound. -/
theorem Sound.afterAsking {c : Catalog} (h : c.Sound) {supplied : Except Fault Supplied}
    (hs : ∀ s, supplied = .ok s → s.catalog.Sound) : (c.afterAsking supplied).Sound := by
  cases supplied with
  | ok s => exact hs s rfl
  | error fault => exact h

end Catalog

namespace Editor

/-- The editor after an amendment of its canvas. -/
def amend (ids : IdSupply) (e : Editor) (a : Amendment) : Editor :=
  match a.apply ids e.workspace.canvas with
  | .ok canvas => { e with workspace := { e.workspace with canvas } }
  | .error _ => e

/-- The editor after an act. -/
def act (ids : IdSupply) (e : Editor) : Act → Editor
  | .edit edit => (e.perform ids edit).1
  | .attach p => { e with workspace := (Session.attach ids e.workspace p).2 }
  | .detach s => { e with workspace := s.detach e.workspace }
  | .report event => { e with workspace := e.workspace.report ids event }
  | .amend a => e.amend ids a
  | .listen listener => { e with workspace := (e.workspace.addListener ids listener).2 }
  | .unlisten id => { e with workspace := (e.workspace.removeListener id).2 }
  | .askGetter domain id =>
    { e with catalog := e.catalog.afterAsking (e.catalog.getter domain id) }
  | .askLink domain l => { e with catalog := e.catalog.afterAsking (e.catalog.link domain l) }

/-! ## What edits do -/

/-- A block is made, or the editor stays as it is. The catalog is the same in either case: blocks
are made of definitions that are there. -/
theorem create_outcome (ids : IdSupply) (e : Editor) (blockType : String)
    (preset : Option String) :
    (∃ fault, e.create ids blockType preset = (e, .error fault)) ∨
    ∃ id canvas, e.workspace.canvas.create ids e.catalog blockType preset = .ok (id, canvas) ∧
      e.create ids blockType preset =
        ({ e with workspace := { e.workspace with canvas } }, .ok id) := by
  rw [create, Workspace.create]
  cases hc : e.workspace.canvas.create ids e.catalog blockType preset with
  | error fault => exact .inl ⟨fault, rfl⟩
  | ok made => exact .inr ⟨made.1, made.2, rfl, rfl⟩

theorem create_cases (ids : IdSupply) (e : Editor) (blockType : String) (preset : Option String) :
    (e.create ids blockType preset).1 = e ∨
    ∃ id canvas, e.workspace.canvas.create ids e.catalog blockType preset = .ok (id, canvas) ∧
      (e.create ids blockType preset).1 =
        { e with workspace := { e.workspace with canvas } } := by
  rcases e.create_outcome ids blockType preset with ⟨fault, he⟩ | ⟨id, canvas, hc, he⟩
  · exact .inl (congrArg Prod.fst he)
  · exact .inr ⟨id, canvas, hc, congrArg Prod.fst he⟩

/-- Taking a block out of the toolbox makes it, preset to the variable that it is listed with. -/
theorem take_block (ids : IdSupply) (e : Editor) (blockType : String) (preset : Option Variable) :
    e.take ids (.block blockType preset) =
      ((e.create ids blockType (preset.map (·.id))).1,
        (e.create ids blockType (preset.map (·.id))).2.map some) := by
  rw [take, Workspace.take, create]
  cases e.workspace.create ids e.catalog blockType (preset.map (·.id)) <;> rfl

/-- So as an edit it is the same as making that block. -/
theorem perform_take (ids : IdSupply) (e : Editor) (blockType : String)
    (preset : Option Variable) :
    e.perform ids (.take (.block blockType preset)) =
      e.perform ids (.create blockType (preset.map (·.id))) := by
  simp only [perform, take_block]
  cases (e.create ids blockType (preset.map (·.id))).2 <;> rfl

/-- Taking an item out of the toolbox makes its block, or does nothing. -/
theorem take_cases (ids : IdSupply) (e : Editor) (item : Toolbox.Item) :
    (e.take ids item).1 = e ∨
    ∃ blockType preset, (e.take ids item).1 = (e.create ids blockType preset).1 := by
  cases item with
  | separator gap => exact .inl rfl
  | block blockType preset =>
    exact .inr ⟨blockType, preset.map (·.id), by rw [take_block]⟩

/-- **All that an edit can do**: nothing, make one block, list a category, plug a block in, or pull
one out. -/
theorem perform_cases (ids : IdSupply) (e : Editor) (edit : Edit) :
    (e.perform ids edit).1 = e ∨
    (∃ blockType preset id canvas,
      e.workspace.canvas.create ids e.catalog blockType preset = .ok (id, canvas) ∧
      (e.perform ids edit).1 = { e with workspace := { e.workspace with canvas } }) ∨
    (∃ name category, e.workspace.categories.get? name = some category ∧
      (e.perform ids edit).1 =
        { catalog := (category e.catalog e.workspace.canvas).catalog
          workspace := e.workspace.record
            ((category e.catalog e.workspace.canvas).notices.map .noted) }) ∨
    (∃ child parent input, (e.perform ids edit).1 =
      { e with workspace := (e.workspace.connect ids child parent input).1 }) ∨
    (∃ block, (e.perform ids edit).1 =
      { e with workspace := (e.workspace.unplug ids block).1 }) := by
  cases edit with
  | create blockType preset =>
    rcases e.create_cases ids blockType preset with hsame | ⟨id, canvas, hc, he⟩
    · exact .inl hsame
    · exact .inr (.inl ⟨blockType, preset, id, canvas, hc, he⟩)
  | take item =>
    rcases e.take_cases ids item with hsame | ⟨blockType, preset, he⟩
    · exact .inl hsame
    · rcases e.create_cases ids blockType preset with hsame | ⟨id, canvas, hc, he'⟩
      · exact .inl (he.trans hsame)
      · exact .inr (.inl ⟨blockType, preset, id, canvas, hc, he.trans he'⟩)
  | openCategory name =>
    simp only [perform, openCategory, Workspace.openCategory]
    cases hcategory : e.workspace.categories.get? name with
    | none => exact .inl rfl
    | some category => exact .inr (.inr (.inl ⟨name, category, hcategory, rfl⟩))
  | connect child parent input => exact .inr (.inr (.inr (.inl ⟨child, parent, input, rfl⟩)))
  | unplug block => exact .inr (.inr (.inr (.inr ⟨block, rfl⟩)))

/-! ## Runs -/

/-- An editor with an empty workspace that a propagator was wired into before anything else, as
editors are used. -/
def startWith (ids : IdSupply) (workspace : String) (settings : Settings) (p : Propagator) :
    Editor :=
  (start workspace settings).act ids (.attach p)

/-- The editors that allowed acts lead to, any number of them and in any order. -/
inductive Reach (ids : IdSupply) (start : Editor) (allowed : Act → Prop) : Editor → Prop
  /-- nothing has happened -/
  | start : Reach ids start allowed start
  /-- one more thing has happened -/
  | act {e : Editor} (a : Act) (h : Reach ids start allowed e) (ha : allowed a) :
      Reach ids start allowed (e.act ids a)

/-- A list of allowed acts leads to an editor that is reached. -/
theorem Reach.run {ids : IdSupply} {start : Editor} {allowed : Act → Prop} (acts : List Act)
    (h : ∀ a ∈ acts, allowed a) : Reach ids start allowed (acts.foldl (Editor.act ids) start) := by
  suffices hgo : ∀ e, Reach ids start allowed e →
      Reach ids start allowed (acts.foldl (Editor.act ids) e) from hgo start .start
  induction acts with
  | nil => exact fun e he => he
  | cons a acts ih =>
    rw [List.forall_mem_cons] at h
    exact fun e he => ih h.2 (e.act ids a) (he.act a h.1)

/-- The editor that a list of acts leads to, one after the other. -/
def after (ids : IdSupply) (e : Editor) (acts : List Act) : Editor :=
  acts.foldl (act ids) e

theorem after_concat (ids : IdSupply) (e : Editor) (acts : List Act) (a : Act) :
    e.after ids (acts ++ [a]) = (e.after ids acts).act ids a := by
  rw [after, List.foldl_append]
  rfl

theorem Reach.after {ids : IdSupply} {start : Editor} {allowed : Act → Prop} {acts : List Act}
    (h : ∀ a ∈ acts, allowed a) : Reach ids start allowed (start.after ids acts) :=
  Reach.run acts h

end Editor

/-! ## A harbour -/

/-- A supply that never repeats itself: every id is one stroke longer than the one before. -/
def strokes : IdSupply := fun n => String.ofList (List.replicate (n + 1) '|')

theorem strokes_injective : Function.Injective strokes := by
  intro m n h
  have hlength : (strokes m).toList.length = (strokes n).toList.length := by rw [h]
  simpa [strokes] using hlength

theorem strokes_ne_empty (n : Nat) : strokes n ≠ "" := by
  intro h
  have hlength : (strokes n).toList.length = 0 := by rw [h]; rfl
  simp [strokes] at hlength

/-- Ships call at ports, and there is a variable for a ship. Each collection has one attribute, so
that it shows which of them a dropdown offers. -/
def Domain.harbour : Domain where
  collections :=
    [{ id := "ship", name := "Ship", attributes := [{ id := "flag", name := "Flag" }] },
      { id := "port", name := "Port", attributes := [{ id := "depth", name := "Depth" }] }]
  linkTypes := [{ name := "calls at", collections := ("ship", "port") }]
  documentVariables := [{ name := "the ship", collection := "ship" }]

/-- The propagator of the harbour. -/
def Propagator.harbour : Propagator := { domain := .harbour, snapRadius := 28 }

namespace Editor

/-- An editor of the harbour, in which edits were made on three blocks: the getter of ships
`|||`, the link between ships and ports `||||`, and an attribute getter `|||||`. -/
def harbour (edits : List Edit) : Editor :=
  ((([.openCategory Toolbox.documentVariablesName, .openCategory Toolbox.linksName,
    .create "variables_get_ship_document" none, .create "port_ship_link" none,
    .create "get_attribute" none] : List Edit) ++ edits).map Act.edit).foldl
      (act strokes) (startWith strokes "harbour" {} .harbour)

theorem reach_harbour (edits : List Edit) :
    Reach strokes (startWith strokes "harbour" {} .harbour) Act.ByUser (harbour edits) := by
  refine Reach.run _ fun a ha => ?_
  obtain ⟨edit, -, rfl⟩ := List.mem_map.mp ha
  trivial

/-- The harbour with the ship in the link, and the link in the attribute getter. -/
def harbourLoaded : Editor :=
  harbour [.connect "|||" "||||" Definition.linkInput,
    .connect "||||" "|||||" Definition.documentInput]

theorem reach_harbourLoaded :
    Reach strokes (startWith strokes "harbour" {} .harbour) Act.ByUser harbourLoaded :=
  reach_harbour _

end Editor

end TypedBlocks
