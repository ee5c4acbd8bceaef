import TypedBlocks.Proofs.Run.Steady

/-!
# Runs with stray events

Any number of sessions may come and go, of any domains, and hosts may report events that never
happened. Two things stand firm over all such runs, because the workspace stays steady
(`Reach.believing`):

* no event ends in an error: the worst that handling one comes to is that attributes are not
  offered, because the domain does not have their collection, and then nothing has happened;
* whatever is plugged in fits, although outputs have changed since.
-/

namespace TypedBlocks

open Canvas Workspace

variable {ids : IdSupply}

/-- What users do, what other editors do to the catalog meanwhile, sessions that come and go, and
events of any content. -/
def Act.InSessions : Act → Prop
  | .edit _ => True
  | .attach _ => True
  | .detach _ => True
  | .report _ => True
  | .askGetter _ _ => True
  | .askLink _ _ => True
  | _ => False

namespace Editor

variable {e : Editor}

/-- The workspace is steady, its categories are those of sessions, and the catalog is sound. -/
structure Believing (ids : IdSupply) (e : Editor) : Prop where
  steady : Steady ids e.workspace
  categories : ∀ name category, e.workspace.categories.get? name = some category →
    ∃ p, category = Session.documentVariablesOf p ∨ category = Session.linksOf p
  sound : e.catalog.Sound
  unfailed : (∀ n, ids n ≠ "") → Unfailed e.workspace

namespace Believing

theorem start (ids : IdSupply) (workspace : String) (settings : Settings) :
    Believing ids (Editor.start workspace settings) where
  steady := ⟨nofun, .empty ids⟩
  categories _ _ h := by cases h
  sound := Catalog.sound_initial _
  unfailed _ := nofun

/-- What only touches the workspace leaves its categories alone. -/
theorem of_steady (h : Believing ids e) {w : Workspace} (hsteady : Steady ids w)
    (hcategories : w.categories = e.workspace.categories)
    (hunfailed : (∀ n, ids n ≠ "") → Unfailed e.workspace → Unfailed w) :
    Believing ids { e with workspace := w } where
  steady := hsteady
  categories name category hcategory := h.categories name category (hcategories ▸ hcategory)
  sound := h.sound
  unfailed hne := hunfailed hne (h.unfailed hne)

theorem perform (hids : Function.Injective ids) (h : Believing ids e) (edit : Edit) :
    Believing ids (e.perform ids edit).1 := by
  rcases e.perform_cases ids edit with he | ⟨_, _, _, _, hc, he⟩ | ⟨name, category, hcategory, he⟩ |
    ⟨child, parent, input, he⟩ | ⟨block, he⟩
  · rw [he]
    exact h
  · rw [he]
    exact h.of_steady ⟨h.steady.ofSessions, h.steady.sturdy.create hids h.sound hc⟩ rfl
      fun _ hw => hw
  · rw [he]
    refine ⟨⟨h.steady.ofSessions, h.steady.sturdy⟩, h.categories, ?_, fun hne => ?_⟩
    · obtain ⟨p, rfl | rfl⟩ := h.categories name category hcategory
      · exact h.sound.variableListing p e.workspace.canvas.vars
      · exact h.sound.linkListing p
    · refine (h.unfailed hne).note ?_
      obtain ⟨p, rfl | rfl⟩ := h.categories name category hcategory
      · exact p.variableListing_notices e.catalog e.workspace.canvas.vars
      · exact p.linkListing_notices e.catalog
  · rw [he]
    obtain ⟨hsteady, hunfailed⟩ := h.steady.connect child parent input
    exact h.of_steady hsteady
      (connect_audience ids h.steady.ofSessions child parent input).categories hunfailed
  · rw [he]
    have hled := h.steady.unplug_led block
    exact h.of_steady (h.steady.unplug block) hled.audience.categories hled.unfailed

/-- A session that is attached declares variables, listens, and brings its categories. -/
theorem attach (h : Believing ids e) (p : Propagator) :
    Believing ids (e.act ids (.attach p)) := by
  obtain ⟨hblocks, hdrawn⟩ := Session.attach_blocks ids e.workspace p
  refine ⟨⟨fun l hl => ?_, h.steady.sturdy.declared (Session.attach_declared ids e.workspace p)
    hblocks hdrawn⟩, fun name category hcategory => ?_, h.sound, h.unfailed⟩
  · rcases List.mem_append.mp hl with hl | hl
    · exact h.steady.ofSessions l hl
    · rw [List.mem_singleton.mp hl]
      exact ⟨p, rfl⟩
  · simp only [act, Session.attach, addListener, registerCategory, Table.get?_put] at hcategory
    split at hcategory
    · exact ⟨p, .inr (Option.some.inj hcategory).symm⟩
    · split at hcategory
      · exact ⟨p, .inl (Option.some.inj hcategory).symm⟩
      · exact h.categories name category hcategory

/-- A session that is detached takes its listener and the categories along. -/
theorem detach (h : Believing ids e) (s : Session) :
    Believing ids (e.act ids (.detach s)) := by
  rw [act, Session.detach]
  split
  · refine h.of_steady ⟨h.steady.ofSessions, h.steady.sturdy⟩ rfl fun _ hw => hw.record ?_
    intro event fault hmem
    cases List.mem_singleton.mp hmem
  · refine ⟨⟨fun l hl => h.steady.ofSessions l (List.mem_of_mem_filter hl), h.steady.sturdy⟩,
      fun name category hcategory => ?_, h.sound, h.unfailed⟩
    simp only [removeCategory, removeListener, Table.get?_erase] at hcategory
    split at hcategory
    · cases hcategory
    · split at hcategory
      · cases hcategory
      · exact h.categories name category hcategory

theorem act (hids : Function.Injective ids) (h : Believing ids e) {a : Act} (ha : a.InSessions) :
    Believing ids (e.act ids a) := by
  cases a with
  | edit edit => exact h.perform hids edit
  | attach p => exact h.attach p
  | detach s => exact h.detach s
  | report event =>
    have hled := h.steady.report_led event
    exact h.of_steady (h.steady.led hled) hled.audience.categories hled.unfailed
  | askGetter domain id =>
    exact ⟨h.steady, h.categories, h.sound.afterAsking fun _ => h.sound.getter, h.unfailed⟩
  | askLink domain l =>
    exact ⟨h.steady, h.categories, h.sound.afterAsking fun _ => h.sound.link, h.unfailed⟩
  | _ => cases ha

end Believing

/-- **Sessions leave their workspace steady**, whatever they are told, however many of them there
are and of whichever propagators. -/
theorem Reach.believing (hids : Function.Injective ids) {workspace : String} {settings : Settings}
    (h : Reach ids (Editor.start workspace settings) Act.InSessions e) : Believing ids e := by
  induction h with
  | start => exact .start ids workspace settings
  | act a _ ha ih => exact ih.act hids ha

/-! ## Errors -/

/-- **No event ends in an error.** Let sessions be attached and detached, users do what they like,
and hosts report any events, true or not. No event that was reported so far has ended in an error,
and no other would, for any propagator. The only fault that a rule can run into is that the domain
does not have a collection; that is noted as a warning, and the canvas is as it was. -/
theorem events_handled (hids : Function.Injective ids) (hne : ∀ n, ids n ≠ "")
    {workspace : String} {settings : Settings}
    (h : Reach ids (Editor.start workspace settings) Act.InSessions e) :
    (∀ event fault, Entry.noted (.failed event fault) ∉ e.workspace.journal) ∧
    ∀ (p : Propagator) (event : Event),
      (∀ failed fault, .failed failed fault ∉ (p.handle e.workspace.canvas event).2) ∧
      ∀ fault, (p.respond e.workspace.canvas event).fault = some fault →
        ∃ id, fault = .noCollection id ∧ p.domain.collection? id = .error (.noCollection id) ∧
          (p.respond e.workspace.canvas event).canvas = e.workspace.canvas ∧
          p.handle e.workspace.canvas event =
            (e.workspace.canvas, [.skippedRefresh (.noCollection id)]) := by
  have hbelieving := h.believing hids
  have hequipped := hbelieving.steady.sturdy.equipped hne
  refine ⟨hbelieving.unfailed hne, fun p event => ⟨fun failed fault hmem => ?_, fun fault hf => ?_⟩⟩
  · cases Propagator.handle_notices hequipped event _ hmem
  · rcases p.respond_smooth hequipped event with hsmooth | ⟨id, hgone, he⟩
    · rw [hsmooth.fault] at hf
      cases hf
    · rw [he, Option.some.injEq] at hf
      refine ⟨id, hf.symm, hgone, by rw [he], ?_⟩
      rw [Propagator.handle, he]
      rfl

/-- A second session knows no collections. It is told that a ship is in an attribute getter, which
it is not, and passes over that. -/
theorem events_handled_abroad :
    let abroad : Propagator := { domain := ⟨[], [], []⟩, snapRadius := 28 }
    let e := [.attach .harbour, .edit (.openCategory Toolbox.documentVariablesName),
      .attach abroad, .edit (.create "variables_get_ship_document" none),
      .edit (.create "get_attribute" none), .report (.connect "harbour" "||||" "|||||"),
      .report (.disconnect "harbour" "||||" "nowhere")].foldl (act strokes) (start "harbour" {})
    (∀ event fault, Entry.noted (.failed event fault) ∉ e.workspace.journal) ∧
      abroad.handle e.workspace.canvas (.connect "harbour" "||||" "|||||") =
        (e.workspace.canvas, [.skippedRefresh (.noCollection "ship")]) := by
  intro abroad e
  obtain ⟨hjournal, hevents⟩ := events_handled strokes_injective strokes_ne_empty
    (Reach.run _ (by simp [Act.InSessions]) : Reach strokes (start "harbour" {}) Act.InSessions e)
  have hfault : (abroad.respond e.workspace.canvas (.connect "harbour" "||||" "|||||")).fault =
      some (.noCollection "ship") := by decide +kernel
  obtain ⟨id, hid, -, -, hhandle⟩ := (hevents abroad _).2 _ hfault
  cases hid
  exact ⟨hjournal, hhandle⟩

/-! ## Connections -/

/-- **Whatever is plugged in fits**, in the same runs: a block that is plugged in has an output, its
input is there and is for values, and where both name the tags that they are for, they share one. So
no rule, no forged event and no second session gives a block an output that its place does not
take. -/
theorem plugged_fits (hids : Function.Injective ids) {workspace : String} {settings : Settings}
    (h : Reach ids (Editor.start workspace settings) Act.InSessions e)
    {child parent input : String} (hp : e.workspace.canvas.plug? child = some ⟨parent, input⟩) :
    ∃ c p i, e.workspace.canvas.block? child = some c ∧
      e.workspace.canvas.block? parent = some p ∧ p.inputs.get? input = some i ∧
      c.hasOutput = true ∧ i.statement = false ∧
      (c.outputCheck = none ∨ i.check = none ∨
        ∃ offered accepted, c.outputCheck = some offered ∧ i.check = some accepted ∧
          ∃ text ∈ offered, text ∈ accepted) := by
  have hsturdy := (h.believing hids).steady.sturdy
  have hfits := hsturdy.fitting child parent input (hsturdy.coherent.wired.plug_iff.mp hp)
  obtain ⟨check, f, slot, ho, hf, hs, hst, hcompat⟩ := hfits.exist
  obtain ⟨c, hc, hout⟩ := Option.map_eq_some_iff.mp ho
  obtain ⟨b, hb, rfl⟩ := Option.map_eq_some_iff.mp hf
  obtain ⟨i, hi, rfl⟩ := Option.map_eq_some_iff.mp hs
  obtain ⟨hoffers, rfl⟩ := Prod.mk.inj hout
  refine ⟨c, b, i, hc, hb, hi, hoffers, hst, ?_⟩
  cases hoffered : c.outputCheck with
  | none => exact .inl rfl
  | some offered =>
    cases haccepted : i.check with
    | none => exact .inr (.inl rfl)
    | some accepted =>
      refine .inr (.inr ⟨offered, accepted, rfl, rfl, ?_⟩)
      simpa [Input.slot, compatible, hoffered, haccepted] using hcompat

/-- The link is in the attribute getter when it is reported to hold a ship. It puts out ports then,
and fits as before. -/
theorem plugged_fits_oriented :
    let e := [.attach .harbour, .edit (.openCategory Toolbox.documentVariablesName),
      .edit (.openCategory Toolbox.linksName), .edit (.create "variables_get_ship_document" none),
      .edit (.create "port_ship_link" none), .edit (.create "get_attribute" none),
      .edit (.connect "||||" "|||||" Definition.documentInput),
      .report (.connect "harbour" "|||" "||||")].foldl (act strokes) (start "harbour" {})
    e.workspace.canvas.tag "||||" = .documentArray "port" ∧
      ∃ c p i, e.workspace.canvas.block? "||||" = some c ∧
        e.workspace.canvas.block? "|||||" = some p ∧
        p.inputs.get? Definition.documentInput = some i ∧ c.hasOutput = true ∧
        i.statement = false ∧
        (c.outputCheck = none ∨ i.check = none ∨
          ∃ offered accepted, c.outputCheck = some offered ∧ i.check = some accepted ∧
            ∃ text ∈ offered, text ∈ accepted) := by
  intro e
  exact ⟨by decide +kernel, plugged_fits strokes_injective
    (Reach.run _ (by simp [Act.InSessions]) : Reach strokes (start "harbour" {}) Act.InSessions e)
    (by decide +kernel)⟩

end Editor

end TypedBlocks
