import TypedBlocks.Proofs.Renaming.Making
import TypedBlocks.Proofs.Renaming.Rules
import TypedBlocks.Proofs.Run.Attended

/-!
# Sessions with other ids

Two workspaces are *alike* when the same propagator listens to both and one has the renamed canvas
of the other. Their own ids may differ, and so may the ids of their listeners and their journals: no
edit reads them. Two editors are alike when their workspaces are and they have the same catalog.

Edits of blocks that correspond keep editors alike, and have results that correspond.
-/

namespace TypedBlocks

open Definition

/-- What two operations came to corresponds: the states that they left are related, and their
results are the same but for the ids. -/
structure Corresponds {α β γ ε : Type} (R : α → α → Prop) (f : β → γ) (g : ε → ε)
    (r : α × Except ε β) (r' : α × Except ε γ) : Prop where
  state : R r.1 r'.1
  result : r'.2 = (r.2.map f).mapError g

/-- Both operations failed, or both succeeded. -/
@[elab_as_elim]
theorem Corresponds.elim {α β γ ε : Type} {R : α → α → Prop} {f : β → γ} {g : ε → ε}
    {motive : α × Except ε β → α × Except ε γ → Prop} {r : α × Except ε β} {r' : α × Except ε γ}
    (h : Corresponds R f g r r')
    (error : ∀ a a' e, R a a' → motive (a, .error e) (a', .error (g e)))
    (ok : ∀ a a' b, R a a' → motive (a, .ok b) (a', .ok (f b))) : motive r r' := by
  obtain ⟨a, result⟩ := r
  obtain ⟨a', result'⟩ := r'
  obtain ⟨h, rfl : result' = _⟩ := h
  cases result with
  | error e => exact error a a' e h
  | ok b => exact ok a a' b h

variable {ρ : Renaming} {p : Propagator}

namespace Workspace

/-- Two workspaces in session, the second with the renamed canvas of the first. -/
structure Alike (ρ : Renaming) (p : Propagator) (w w' : Workspace) : Prop where
  session : InSession p w
  session' : InSession p w'
  canvas : w'.canvas = w.canvas.rename ρ
  categories : w'.categories = w.categories

/-- A report leaves the categories of a session in their place. -/
theorem categories_report_in_session (ids : IdSupply) {w : Workspace} (h : InSession p w)
    (event : Event) : (report ids w event).categories = w.categories := by
  obtain ⟨⟨listener, hl⟩, -⟩ := h
  simp only [report, hl, List.foldl_cons, List.foldl_nil]
  rfl

/-- Whether a connection is approved, and of what it is refused for otherwise, does not depend on
the ids. -/
theorem approve_rename (ρ : Renaming) (c : Canvas) (child parent input : String) :
    approve (c.rename ρ) (ρ child) (ρ parent) input =
      ρ.result (Option.map ρ) (approve c child parent input) := by
  rw [approve, approve, Canvas.block?_rename, Canvas.block?_rename]
  cases c.block? child with
  | none => rfl
  | some childBlock =>
    cases c.block? parent with
    | none => rfl
    | some parentBlock =>
      simp only [Option.map_some, Block.rename, Table.get?_mapValues]
      cases parentBlock.inputs.get? input with
      | none => rfl
      | some slot =>
        simp only [Option.map_some, Input.rename, Renaming.eq_iff]
        split <;> rfl

variable {w w' : Workspace}

namespace Alike

/-- Canvases that correspond may take the place of those that did. -/
theorem of_canvas (h : Alike ρ p w w') (c : Canvas) :
    Alike ρ p { w with canvas := c } { w' with canvas := c.rename ρ } :=
  ⟨⟨h.session.listeners, h.session.categories⟩, ⟨h.session'.listeners, h.session'.categories⟩, rfl,
    h.categories⟩

/-- **Reports.** What the events say of the workspace does not matter: no rule looks at it. -/
theorem report (h : Alike ρ p w w') (ids ids' : IdSupply) {e e' : Event}
    (he : ∀ c, p.respond c e' = p.respond c (e.rename ρ)) :
    Alike ρ p (w.report ids e) (w'.report ids' e') := by
  obtain ⟨hcanvas, hsession⟩ := report_in_session ids h.session e
  obtain ⟨hcanvas', hsession'⟩ := report_in_session ids' h.session' e'
  refine ⟨hsession, hsession', ?_, ?_⟩
  · rw [hcanvas', hcanvas, he, h.canvas, p.respond_rename]
    rfl
  · rw [categories_report_in_session ids' h.session', categories_report_in_session ids h.session,
      h.categories]

/-- Pulling blocks out keeps two workspaces alike, and ends in the same way in both. -/
theorem unplug (h : Alike ρ p w w') (ids : IdSupply) (child : String) :
    Corresponds (Alike ρ p) (fun _ => ()) (Fault.rename ρ) (w.unplug ids child)
      (w'.unplug (ρ.supply ids) (ρ child)) := by
  rw [Workspace.unplug, Workspace.unplug, h.canvas, Canvas.release_rename]
  cases w.canvas.release child with
  | error fault => exact ⟨h, rfl⟩
  | ok r => exact ⟨(h.of_canvas r.2).report ids (ρ.supply ids) fun _ => rfl, rfl⟩

/-- So does making room for a child. -/
theorem vacate (h : Alike ρ p w w') (ids : IdSupply) (child : String) :
    Corresponds (Alike ρ p) (fun _ => ()) (Fault.rename ρ) (w.vacate ids child)
      (w'.vacate (ρ.supply ids) (ρ child)) := by
  rw [Workspace.vacate, Workspace.vacate, h.canvas, Canvas.plug?_rename]
  cases w.canvas.plug? child with
  | none => exact ⟨h, rfl⟩
  | some plug => exact h.unplug ids child

/-- So does making room in an input. -/
theorem evict (h : Alike ρ p w w') (ids : IdSupply) (child : String) (occupant : Option String) :
    Corresponds (Alike ρ p) (fun _ => ()) (Fault.rename ρ) (w.evict ids child occupant)
      (w'.evict (ρ.supply ids) (ρ child) (occupant.map ρ)) := by
  cases occupant with
  | none => exact ⟨h, rfl⟩
  | some occupant =>
    simp only [Option.map_some, Workspace.evict, Renaming.eq_iff]
    split
    · exact ⟨h, rfl⟩
    · exact h.unplug ids occupant

/-- **Connecting** blocks that correspond comes to workspaces that are alike, with the same result;
a fault names blocks that correspond. -/
theorem connect (h : Alike ρ p w w') (ids : IdSupply) (child parent input : String) :
    Corresponds (Alike ρ p) (fun _ => ()) (Fault.rename ρ) (w.connect ids child parent input)
      (w'.connect (ρ.supply ids) (ρ child) (ρ parent) input) := by
  rw [Workspace.connect, Workspace.connect, h.canvas, approve_rename]
  cases approve w.canvas child parent input with
  | error fault => exact ⟨h, rfl⟩
  | ok occupant =>
    dsimp only [Renaming.result_ok]
    refine (h.vacate ids child).elim (fun _ _ fault h1 => ⟨h1, rfl⟩) fun w1 w1' _ h1 => ?_
    dsimp only
    refine (h1.evict ids child occupant).elim (fun _ _ fault h2 => ⟨h2, rfl⟩) fun w2 w2' _ h2 => ?_
    have hplug := h2.of_canvas (w2.canvas.plugIn child parent input)
    rw [← Canvas.plugIn_rename, ← h2.canvas] at hplug
    exact ⟨hplug.report ids (ρ.supply ids) fun _ => rfl, rfl⟩

/-- Attaching a session to empty workspaces. -/
theorem attach (ρ : Renaming) (ids : IdSupply) (workspace workspace' : String) (p : Propagator) :
    Alike ρ p (Session.attach ids (empty workspace) p).2
      (Session.attach (ρ.supply ids) (empty workspace') p).2 where
  session := (attended_attach ids workspace p).session
  session' := (attended_attach (ρ.supply ids) workspace' p).session
  canvas := by
    have hdeclare : ∀ (vars : List DocumentVariable) (c : Canvas),
        vars.foldl (Session.declare (ρ.supply ids)) (c.rename ρ) =
          (vars.foldl (Session.declare ids) c).rename ρ := by
      intro vars
      induction vars with
      | nil => exact fun _ => rfl
      | cons v vars ih => exact fun c => by rw [List.foldl_cons, c.declare_rename, ih]; rfl
    have hdeclared : p.domain.documentVariables.foldl (Session.declare (ρ.supply ids))
        Canvas.empty = _ := hdeclare _ Canvas.empty
    simp only [Session.attach, addListener, empty, registerCategory, hdeclared]
    rfl
  categories := rfl

end Alike

end Workspace

/-! ## The toolbox -/

/-- An item that is preset to another variable. -/
def Toolbox.Item.rename (ρ : String → String) : Item → Item
  | .block blockType preset => .block blockType (preset.map (Variable.rename ρ))
  | .separator gap => .separator gap

/-- A listing with other ids. Its notices are about collections, whose ids are not renamed. -/
def Toolbox.Listing.rename (ρ : String → String) (listing : Listing) : Listing :=
  { listing with items := listing.items.map (Item.rename ρ) }

namespace Propagator

open Toolbox

variable (ρ : String → String) (p : Propagator)

theorem addVariable_rename (listing : Listing) (v : Variable) :
    p.addVariable (listing.rename ρ) (v.rename ρ) = (p.addVariable listing v).rename ρ := by
  simp only [addVariable, Variable.rename, Listing.rename]
  cases Tag.ofText v.type with
  | document collection =>
    cases hs : p.ensureGetter listing.catalog collection with
    | ok s => simp [hs, Item.rename, Variable.rename]
    | error fault => simp [hs]
  | _ => rfl

/-- The variables are listed in their own order, so the listing of renamed variables is the renamed
listing. -/
theorem variableListing_rename (catalog : Catalog) (vars : List Variable) :
    p.variableListing catalog (vars.map (Variable.rename ρ)) =
      (p.variableListing catalog vars).rename ρ := by
  have hlist : ∀ (vars : List Variable) (listing : Listing),
      (vars.map (Variable.rename ρ)).foldl p.addVariable (listing.rename ρ) =
        (vars.foldl p.addVariable listing).rename ρ := by
    intro vars
    induction vars with
    | nil => exact fun _ => rfl
    | cons v vars ih =>
      intro listing
      rw [List.map_cons, List.foldl_cons, List.foldl_cons, addVariable_rename, ih]
  have hlisted : (vars.map (Variable.rename ρ)).foldl p.addVariable
      { items := [], catalog, notices := [] } = _ :=
    hlist vars { items := [], catalog, notices := [] }
  simp only [variableListing, hlisted, Listing.rename, List.map_append]
  rfl

/-- The entries of links are preset to nothing. -/
theorem linkListing_rename (catalog : Catalog) :
    (p.linkListing catalog).rename ρ = p.linkListing catalog := by
  have hlist : ∀ (links : List LinkType) (listing : Listing), listing.rename ρ = listing →
      (links.foldl p.addLink listing).rename ρ = links.foldl p.addLink listing := by
    intro links
    induction links with
    | nil => exact fun _ h => h
    | cons l links ih =>
      refine fun listing h => ih _ ?_
      have hitems : listing.items.map (Item.rename ρ) = listing.items := congrArg Listing.items h
      rw [addLink]
      cases p.ensureLink listing.catalog l with
      | error fault => simp only [Listing.rename, hitems]
      | ok s =>
        simp only [Listing.rename, apply_ite (List.map (Item.rename ρ)), List.map_append, hitems]
        rfl
  exact hlist p.domain.linkTypes { items := [], catalog, notices := [] } rfl

end Propagator

/-! ## Editors -/

namespace Editor

/-- Two editors in session with the same catalog, the second with the renamed canvas of the first.
-/
structure Alike (ρ : Renaming) (p : Propagator) (e e' : Editor) : Prop where
  sound : e.catalog.Sound
  catalog : e'.catalog = e.catalog
  workspace : Workspace.Alike ρ p e.workspace e'.workspace

namespace Alike

variable {e e' : Editor}

/-- The same session, attached to two new workspaces, declares the same variables there, under the
ids of either supply. -/
theorem startWith (ρ : Renaming) (ids : IdSupply) (workspace workspace' : String)
    (settings : Settings) (p : Propagator) :
    Alike ρ p (Editor.startWith ids workspace settings p)
      (Editor.startWith (ρ.supply ids) workspace' settings p) :=
  ⟨Catalog.sound_initial settings.shade, rfl, .attach ρ ids workspace workspace' p⟩

/-- Making blocks keeps two editors alike; the id of the new block in one is renamed to that in the
other. -/
theorem create (h : Alike ρ p e e') (ids : IdSupply) (blockType : String)
    (preset : Option String) :
    Corresponds (Alike ρ p) ρ (Fault.rename ρ) (e.create ids blockType preset)
      (e'.create (ρ.supply ids) blockType (preset.map ρ)) := by
  rw [Editor.create, Editor.create, Workspace.create, Workspace.create, h.catalog,
    h.workspace.canvas, Canvas.create_rename _ _ _ h.sound]
  cases e.workspace.canvas.create ids e.catalog blockType preset with
  | error fault => exact ⟨h, rfl⟩
  | ok made => exact ⟨⟨h.sound, rfl, h.workspace.of_canvas made.2⟩, rfl⟩

/-- Taking blocks out of the toolbox is making them, preset to the variable that they are listed
with. -/
theorem take (h : Alike ρ p e e') (ids : IdSupply) (item : Toolbox.Item) :
    Corresponds (Alike ρ p) (Option.map ρ) (Fault.rename ρ) (e.take ids item)
      (e'.take (ρ.supply ids) (item.rename ρ)) := by
  cases item with
  | separator gap => exact ⟨h, rfl⟩
  | block blockType preset =>
    have hpreset : (preset.map (Variable.rename ρ)).map (·.id) = (preset.map (·.id)).map ρ := by
      cases preset <;> rfl
    obtain ⟨hcreate, hresult⟩ := h.create ids blockType (preset.map (·.id))
    rw [Toolbox.Item.rename, take_block, take_block, hpreset]
    refine ⟨hcreate, ?_⟩
    rw [hresult]
    cases (e.create ids blockType (preset.map (·.id))).2 <;> rfl

/-- Opening a category lists the same in both, but for the ids of variables. -/
theorem openCategory (h : Alike ρ p e e') (name : String) :
    Alike ρ p (e.openCategory name).1 (e'.openCategory name).1 ∧
      (e'.openCategory name).2 =
        (e.openCategory name).2.map (List.map (Toolbox.Item.rename ρ)) := by
  rw [Editor.openCategory, Editor.openCategory, Workspace.openCategory, Workspace.openCategory,
    h.catalog, h.workspace.categories]
  cases hcategory : e.workspace.categories.get? name with
  | none => exact ⟨⟨h.sound, rfl, h.workspace⟩, rfl⟩
  | some category =>
    have hlisting : category e.catalog (e.workspace.canvas.rename ρ) =
        (category e.catalog e.workspace.canvas).rename ρ := by
      rcases h.workspace.session.categories name category hcategory with rfl | rfl
      · exact p.variableListing_rename ρ e.catalog e.workspace.canvas.vars
      · exact (p.linkListing_rename ρ e.catalog).symm
    have hsound : (category e.catalog e.workspace.canvas).catalog.Sound := by
      rcases h.workspace.session.categories name category hcategory with rfl | rfl
      · exact h.sound.variableListing p e.workspace.canvas.vars
      · exact h.sound.linkListing p
    obtain ⟨hsession, hsession', hcanvas, hcategories⟩ := h.workspace
    dsimp only
    rw [hcanvas, hlisting]
    exact ⟨⟨hsound, rfl, ⟨hsession.listeners, hsession.categories⟩,
      ⟨hsession'.listeners, hsession'.categories⟩, hcanvas, hcategories⟩, rfl⟩

theorem connect (h : Alike ρ p e e') (ids : IdSupply) (child parent input : String) :
    Corresponds (Alike ρ p) (fun _ => ()) (Fault.rename ρ) (e.connect ids child parent input)
      (e'.connect (ρ.supply ids) (ρ child) (ρ parent) input) :=
  have hafter := h.workspace.connect ids child parent input
  ⟨⟨h.sound, h.catalog, hafter.state⟩, hafter.result⟩

theorem unplug (h : Alike ρ p e e') (ids : IdSupply) (block : String) :
    Corresponds (Alike ρ p) (fun _ => ()) (Fault.rename ρ) (e.unplug ids block)
      (e'.unplug (ρ.supply ids) (ρ block)) :=
  have hafter := h.workspace.unplug ids block
  ⟨⟨h.sound, h.catalog, hafter.state⟩, hafter.result⟩

end Alike

end Editor

end TypedBlocks
