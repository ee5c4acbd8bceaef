import TypedBlocks.Proofs.Catalog.Sound
import TypedBlocks.Proofs.Renaming.Canvas
import TypedBlocks.Session

/-!
# Making blocks with other ids

New ids come from the supply, so a canvas corresponds to its renaming from one new block or
variable to the next if the supply is renamed as well. Names of variables are no ids: which of them
are taken, and which is tried next, is the same on both sides.

What a part of a message makes is known by its kind, and what is an id on a block by the name of the
field. The two agree for the definitions there are (`Definition.Made.namesPickers`).
-/

namespace TypedBlocks

open Definition

/-- The field of a part is named like a variable picker just if it is one. A renaming tells by the
name whether the value of a field is an id, so definitions have to keep to that. -/
def Definition.Part.NamesPickers : Part → Prop
  | .picker name _ _ => name = variableField
  | .dropdown name _ _ => name ≠ variableField
  | _ => True

theorem Definition.Made.namesPickers {key : Key} {d : Definition} (h : Made key d) :
    ∀ part ∈ d.parts, part.NamesPickers := by
  cases h with
  | foreach => simp [parts, foreachLoop, Part.NamesPickers]
  | getAttribute => simp [parts, attributeGetter, Part.NamesPickers, attributeField, variableField]
  | collection c colour => simp [parts, documentGetter, Part.NamesPickers]
  | link l hfirst hsecond => simp [parts, Definition.link, Part.NamesPickers]

namespace Canvas

variable (ρ : Renaming) (ids : IdSupply)

/-! ## New variables -/

theorem ensureVariable_rename (c : Canvas) (name type : String) :
    (c.rename ρ).ensureVariable (ρ.supply ids) name type none =
      Prod.map (Variable.rename ρ) (rename ρ) (c.ensureVariable ids name type none) := by
  have hfind : (c.rename ρ).vars.find? (·.name = name) =
      (c.vars.find? (·.name = name)).map (Variable.rename ρ) := List.find?_map ..
  rw [ensureVariable, ensureVariable, hfind]
  cases c.vars.find? (·.name = name) with
  | some v => rfl
  | none =>
    simp only [Option.map_none, draw, rename, Prod.map, Prod.mk.injEq, Canvas.mk.injEq, true_and,
      and_true, List.map_append, List.map_cons, List.map_nil]
    exact ⟨rfl, rfl⟩

theorem declare_rename (c : Canvas) (v : DocumentVariable) :
    Session.declare (ρ.supply ids) (c.rename ρ) v = (Session.declare ids c v).rename ρ := by
  rw [Session.declare, ensureVariable_rename]
  rfl

theorem pickVariable_rename (c : Canvas) (preset : Option String) (type : String) :
    (c.rename ρ).pickVariable (ρ.supply ids) (preset.map ρ) type =
      Prod.map (Variable.rename ρ) (rename ρ) (c.pickVariable ids preset type) := by
  have hpreset : (preset.map ρ).bind (c.rename ρ).findVariable =
      (preset.bind c.findVariable).map (Variable.rename ρ) := by
    cases preset with
    | none => rfl
    | some id => exact c.findVariable_rename ρ id
  have hwanted : (if type = "" then none else (c.rename ρ).vars.find? (·.type = type)) =
      (if type = "" then none else c.vars.find? (·.type = type)).map (Variable.rename ρ) := by
    split
    · rfl
    · exact List.find?_map ..
  have hnames : (c.rename ρ).vars.map (·.name) = c.vars.map (·.name) := List.map_map ..
  rw [pickVariable, pickVariable, hpreset, hwanted, hnames, ensureVariable_rename]
  cases preset.bind c.findVariable with
  | some v => rfl
  | none => cases (if type = "" then none else c.vars.find? (·.type = type)) <;> rfl

/-! ## New blocks -/

/-- A block in the making, with other ids. -/
def Draft.rename (draft : Draft) : Draft where
  canvas := draft.canvas.rename ρ
  inputs := draft.inputs.mapValues fun _ => Input.rename ρ
  fields := draft.fields.mapValues (Field.rename ρ)

theorem Draft.addPart_rename (draft : Draft) (preset : Option String) {part : Part}
    (h : part.NamesPickers) :
    (draft.rename ρ).addPart (ρ.supply ids) (preset.map ρ) part =
      (draft.addPart ids preset part).rename ρ := by
  cases part with
  | icon | label => rfl
  | picker name types default =>
    obtain rfl : name = variableField := h
    simp only [addPart, Draft.rename, pickVariable_rename, Prod.map_fst, Prod.map_snd,
      Table.mapValues_put, Field.rename_variableField]
    rfl
  | dropdown name choices value =>
    simp only [addPart, Draft.rename, Table.mapValues_put, Field.rename_of_ne h]
  | input | statements =>
    simp only [addPart, Draft.rename, Table.mapValues_put, Input.rename, Option.map_none]

theorem build_rename (c : Canvas) {d : Definition} (hd : ∀ part ∈ d.parts, part.NamesPickers)
    (preset : Option String) :
    (c.rename ρ).build (ρ.supply ids) d (preset.map ρ) =
      Prod.map (Block.rename ρ) (rename ρ) (c.build ids d preset) := by
  have hparts : ∀ (parts : List Part) (draft : Draft), (∀ part ∈ parts, part.NamesPickers) →
      parts.foldl (Draft.addPart (ρ.supply ids) (preset.map ρ)) (draft.rename ρ) =
        (parts.foldl (Draft.addPart ids preset) draft).rename ρ := by
    intro parts
    induction parts with
    | nil => exact fun _ _ => rfl
    | cons part parts ih =>
      intro draft h
      rw [List.forall_mem_cons] at h
      rw [List.foldl_cons, List.foldl_cons, draft.addPart_rename ρ ids preset h.1, ih _ h.2]
  have hdraft : d.parts.foldl (Draft.addPart (ρ.supply ids) (preset.map ρ))
      { canvas := c.rename ρ } = _ := hparts d.parts { canvas := c } hd
  simp only [build, hdraft]
  rfl

theorem put_rename (c : Canvas) (id : String) (b : Block) :
    { c.rename ρ with blocks := (c.rename ρ).blocks.put (ρ id) (b.rename ρ) } =
      rename ρ { c with blocks := c.blocks.put id b } := by
  simp only [rename, Table.mapValues_put, Table.mapKeys_put]

/-- **Making a block of a type** makes the renamed block: the renamed supply draws the renamed id,
and a picker is bound to the renamed variable. -/
theorem create_rename (c : Canvas) {catalog : Catalog} (hc : catalog.Sound) (blockType : String)
    (preset : Option String) :
    (c.rename ρ).create (ρ.supply ids) catalog blockType (preset.map ρ) =
      ρ.result (Prod.map ρ (rename ρ)) (c.create ids catalog blockType preset) := by
  rw [create, create, Catalog.shared]
  split
  · rfl
  · simp only [bind, Except.bind]
    cases hd : catalog.definition? blockType with
    | none => rfl
    | some d =>
      obtain ⟨key, hmade⟩ := hc.definition? hd
      have hbuild := build_rename ρ ids (c.draw ids).2 hmade.namesPickers preset
      simp only [draw_rename, hbuild, Prod.map_fst, Prod.map_snd, put_rename]
      rfl

end Canvas

end TypedBlocks
