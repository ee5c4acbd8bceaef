import TypedBlocks.Proofs.Canvas.Names
import TypedBlocks.Proofs.Propagator.Touching
import TypedBlocks.Proofs.Session.Looping

/-!
# Getters and their variables

A document getter names a variable as a loop does (`loopVariable?`), and puts out a document of its
collection. It always names one that is there: no step takes a variable away (`Named.step`). It need
not agree with it. A new getter does if its picker was not preset to a variable of another type
(`agrees_made_iff`), and it goes on doing so until a loop whose picker has the same value is given a
list of documents of another collection (`Agrees.plugged_iff`); `plugged_vars` says what a step does
to the types of variables. What other getters do does not matter to any one of them.
-/

namespace TypedBlocks

open Definition

namespace Canvas

variable {ids : IdSupply} {p : Propagator} {c c' : Canvas}

/-- A block is a document getter of a collection. -/
def IsGetter (c : Canvas) (getter collection : String) : Prop :=
  ∃ f, c.frame? getter = some f ∧ f.type = getterType collection

/-- Every document getter names a variable. -/
def Named (c : Canvas) : Prop :=
  ∀ getter id, c.IsGetter getter id → (c.loopVariable? getter).isSome

/-- A getter of a collection agrees with its variable: the one that it names is there, and has the
type of what the getter puts out. -/
def Agrees (c : Canvas) (getter collection : String) : Prop :=
  (c.loopVariable? getter).map Variable.type = some (Tag.document collection).text

/-- Two blocks have pickers, and the pickers have one value. -/
def Shares (c : Canvas) (block other : String) : Prop :=
  ∃ value, (c.field? block variableField).map Field.value = some value ∧
    (c.field? other variableField).map Field.value = some value

/-! ## Making blocks -/

/-- Making a block leaves every variable that is named in place. -/
theorem loopVariable?_create {catalog : Catalog} {blockType id : String} {preset : Option String}
    (hmade : c.create ids catalog blockType preset = .ok (id, c')) {other : String}
    (hother : other ≠ id) {v : Variable} (hv : c.loopVariable? other = some v) :
    c'.loopVariable? other = some v := by
  obtain ⟨d, -, -, rfl⟩ := create_eq_ok hmade
  obtain ⟨field, hfield, hv⟩ := Option.bind_eq_some_iff.mp hv
  have hdeclared : Declared ids c ((c.draw ids).2.build ids d preset).2 :=
    Declared.trans (.of_vars rfl) (build_declared (c.draw ids).2 d preset)
  have hblocks : ((c.draw ids).2.build ids d preset).2.blocks = c.blocks :=
    (build_canvas ids (c.draw ids).2 d preset).1
  rw [loopVariable?, field?_add, if_neg hother, field?_of_blocks hblocks, hfield, Option.bind_some]
  exact hdeclared.findVariable hv

/-- What is a getter once a block was made is the new block, or was one before. -/
theorem isGetter_create {catalog : Catalog} (hsound : catalog.Sound) {blockType id : String}
    {preset : Option String} (hmade : c.create ids catalog blockType preset = .ok (id, c'))
    {getter collection : String} (h : c'.IsGetter getter collection) :
    (getter ≠ id ∧ c.IsGetter getter collection) ∨
    getter = id ∧ ∃ (made : Collection) (colour : String), made.id = collection ∧
      catalog.definition? blockType = some (documentGetter made colour) := by
  obtain ⟨d, hd, -, rfl⟩ := create_eq_ok hmade
  obtain ⟨key, hkey⟩ := hsound.definition? hd
  obtain ⟨f, hf, ht⟩ := h
  rw [frame?_add] at hf
  split at hf
  · rename_i he
    obtain rfl := Option.some.inj hf
    rw [build_frame] at ht
    obtain ⟨-, made, colour, hid, rfl⟩ := hkey.of_getterType ht
    exact .inr ⟨he, made, colour, hid, hd⟩
  · rename_i hne
    have hblocks : ((c.draw ids).2.build ids d preset).2.blocks = c.blocks :=
      (build_canvas ids (c.draw ids).2 d preset).1
    exact .inl ⟨hne, f, (frame?_of_blocks hblocks getter).symm.trans hf, ht⟩

/-- **A new getter names what its picker was bound to.** -/
theorem loopVariable?_documentGetter (hids : Function.Injective ids) (he : Enrolled ids c)
    {catalog : Catalog} {blockType id : String} {preset : Option String}
    (hmade : c.create ids catalog blockType preset = .ok (id, c')) {made : Collection}
    {colour : String} (hd : catalog.definition? blockType = some (documentGetter made colour)) :
    c'.loopVariable? id =
      some ((c.draw ids).2.pickVariable ids preset (Tag.document made.id).text).1 := by
  have henrolled := he.create hids hmade
  obtain ⟨d, hd', -, rfl⟩ := create_eq_ok hmade
  obtain rfl := Option.some.inj (hd.symm.trans hd')
  rw [loopVariable?, field?_add, if_pos rfl]
  exact henrolled.findVariable (mem_pickVariable ..)

/-! ## Getters name variables -/

namespace Named

/-- A change that no getter comes by, and that leaves variables where they are named. -/
theorem congr (h : Named c) (hframe : ∀ id, c'.frame? id = c.frame? id)
    (hnamed : ∀ id, (c.loopVariable? id).isSome → (c'.loopVariable? id).isSome) : Named c' := by
  rintro getter id ⟨f, hf, ht⟩
  exact hnamed getter (h getter id ⟨f, (hframe getter).symm.trans hf, ht⟩)

theorem touched (h : Named c) (ht : Touched c c') : Named c' := by
  induction ht with
  | refl => exact h
  | tail _ htouch ih => exact ih.congr htouch.pruned.frame fun _ => htouch.named

/-- **Every step leaves getters a variable to name.** -/
theorem step (hids : Function.Injective ids) (h : Named c) (he : Enrolled ids c)
    (hs : Step ids p c c') : Named c' := by
  cases hs with
  | pull hpulled =>
    obtain ⟨-, hp⟩ := hpulled
    exact (h.touched (.single (.detach hp))).touched (p.afterDisconnect_touched ..)
  | plug =>
    refine Named.touched (h.congr (fun id => frame?_plugIn ..) fun id hnamed => ?_)
      (p.afterConnect_touched ..)
    rw [loopVariable?, field?_plugIn]
    exact hnamed
  | make hc hsound hmade =>
    intro getter id hgetter
    rcases isGetter_create hsound hmade hgetter with ⟨hne, hgetter⟩ | ⟨rfl, made, colour, -, hd⟩
    · obtain ⟨v, hv⟩ := Option.isSome_iff_exists.mp (h getter id hgetter)
      exact Option.isSome_of_eq_some (loopVariable?_create hmade hne hv)
    · exact Option.isSome_of_eq_some (loopVariable?_documentGetter hids he hmade hd)

end Named

/-- Every step leaves the variables enrolled. -/
theorem Enrolled.step (hids : Function.Injective ids) (h : Enrolled ids c)
    (hs : Step ids p c c') : Enrolled ids c' := by
  have htouched : ∀ {c c' : Canvas}, Enrolled ids c → Touched c c' → Enrolled ids c' := by
    intro c c' h ht
    induction ht with
    | refl => exact h
    | tail _ htouch ih => exact ih.congr htouch.ids htouch.pruned.drawn
  cases hs with
  | pull hpulled =>
    obtain ⟨-, hp⟩ := hpulled
    exact htouched (htouched h (.single (.detach hp))) (p.afterDisconnect_touched ..)
  | @plug child parent input =>
    have hplugged : Enrolled ids (c.plugIn child parent input) := h.congr rfl (Nat.le_refl _)
    exact htouched hplugged (p.afterConnect_touched ..)
  | make _ _ hmade => exact h.create hids hmade

/-- So does any number of steps. -/
theorem Named.steps (hids : Function.Injective ids) (he : Enrolled ids c) (h : Named c)
    (hs : Steps ids p c c') : Enrolled ids c' ∧ Named c' := by
  induction hs with
  | refl => exact ⟨he, h⟩
  | tail _ hstep ih => exact ⟨ih.1.step hids hstep, ih.2.step hids ih.1 hstep⟩

/-! ## Getters and variables agree -/

/-- Whether a getter agrees shows in its picker and in the variables. -/
theorem agrees_congr {getter : String}
    (hfield : c'.field? getter variableField = c.field? getter variableField)
    (hvars : c'.vars = c.vars) (collection : String) :
    c'.Agrees getter collection ↔ c.Agrees getter collection := by
  simp only [Agrees, loopVariable?, findVariable, hfield, hvars]

/-- Pulling blocks out concerns no variable. -/
theorem Pulls.agrees_iff (h : Pulls ids p c c') (getter collection : String) :
    c'.Agrees getter collection ↔ c.Agrees getter collection :=
  agrees_congr (h.field? getter (by decide)) h.vars collection

/-- **A new getter agrees with its variable**, just if its picker was not preset to one of another
type. -/
theorem agrees_made_iff (hids : Function.Injective ids) (he : Enrolled ids c) {catalog : Catalog}
    {blockType id : String} {preset : Option String}
    (hmade : c.create ids catalog blockType preset = .ok (id, c')) {made : Collection}
    {colour : String} (hd : catalog.definition? blockType = some (documentGetter made colour)) :
    c'.Agrees id made.id ↔
      ∀ v, preset.bind c.findVariable = some v → v.type = (Tag.document made.id).text := by
  rw [Agrees, loopVariable?_documentGetter hids he hmade hd, Option.map_some, Option.some.injEq]
  exact type_pickVariable_iff ids (c.draw ids).2 (Tag.text_document_ne_empty made.id)

/-- Retyping a variable shows in all pickers that have its id. -/
theorem loopVariable?_retyped (c : Canvas) (id type block : String) :
    (c.retyped id type).loopVariable? block = (c.loopVariable? block).map fun v =>
      if (c.field? block variableField).map Field.value = some id then { v with type } else v := by
  rw [loopVariable?, loopVariable?, field?_retyped]
  cases c.field? block variableField with
  | none => rfl
  | some field =>
    rw [Option.bind_some, Option.bind_some, findVariable_retyped, Option.map_some]
    by_cases h : field.value = id
    · simp [h]
    · simp [h]

namespace Agrees

variable {getter collection : String}

/-- A block that is made makes no difference to the getters that were there. -/
theorem create (h : c.Agrees getter collection) {catalog : Catalog} {blockType id : String}
    {preset : Option String} (hmade : c.create ids catalog blockType preset = .ok (id, c'))
    (hother : getter ≠ id) : c'.Agrees getter collection := by
  obtain ⟨v, hv, htype⟩ := Option.map_eq_some_iff.mp h
  rw [Agrees, loopVariable?_create hmade hother hv, Option.map_some, htype]

/-- **The variable of a loop is retyped.** A getter goes on agreeing with its own just if its picker
has another value, or the type is the one that it puts out. -/
theorem retyped_iff (h : c.Agrees getter collection) {loop : String} {field : Field}
    (hfield : c.field? loop variableField = some field) (other : String) :
    (c.retyped field.value (Tag.document other).text).Agrees getter collection ↔
      (c.Shares getter loop → other = collection) := by
  obtain ⟨v, hv, htype⟩ := Option.map_eq_some_iff.mp h
  have hshares : c.Shares getter loop ↔
      (c.field? getter variableField).map Field.value = some field.value := by
    rw [Shares, hfield]
    simp
  rw [Agrees, loopVariable?_retyped, hv, Option.map_some, Option.map_some, hshares]
  split
  · rename_i hvalue
    simp [hvalue, Tag.text]
  · rename_i hvalue
    simp [hvalue, htype]

end Agrees

/-! ## What a connection does to variables -/

/-- A connection retypes no variable, unless its parent is a loop. -/
theorem vars_afterConnect {child parent : String}
    (hloop : ∀ f, c.frame? parent = some f → f.type ≠ foreachType) :
    (p.afterConnect c child parent).canvas.vars = c.vars := by
  have hexpel : ∀ input reason, (Propagator.expel c parent input reason).canvas.vars = c.vars := by
    intro input reason
    rw [Propagator.expel]
    cases hclear : c.clearInput parent input with
    | ok c' =>
      obtain ⟨child, plug, -, -, rfl⟩ := clearInput_eq_ok_iff.mp hclear
      rfl
    | error fault => cases fault <;> rfl
  rcases p.afterConnect_cases c child parent with he | ⟨f, hf, hcase⟩
  · rw [he]
    rfl
  · rcases hcase with ⟨collection, -, -, he⟩ | ⟨ht, -⟩ | ⟨collection, -, -, he⟩
    · rw [he, Propagator.orientLink]
      split
      · rw [setOutputTag_eq_ok (isSome_of_frame? hf)]
        rfl
      · exact hexpel ..
    · exact absurd ht (hloop f hf)
    · rw [he, Propagator.fillAttributes_canvas]
      split
      · rfl
      · split <;> rfl

/-- **What plugging a block in does to the variables**: nothing, unless it is a list of documents
and what it is plugged into a loop. The variable of the loop has the type of one of them then. -/
theorem Settled.plugged_vars (hc : Settled ids p.domain none c) (hl : Looped c)
    {child parent input : String} (hfits : Workspace.Fits c child parent input)
    (hplug : c.plug? child = none) (hfree : c.target? parent input = none) :
    let after := (p.afterConnect (c.plugIn child parent input) child parent).canvas
    (∃ f field collection, c.frame? parent = some f ∧ f.type = foreachType ∧
      c.tag child = .documentArray collection ∧ c.field? parent variableField = some field ∧
      after.vars = retype field.value (Tag.document collection).text c.vars) ∨
    (∀ f collection, c.frame? parent = some f → f.type = foreachType →
      c.tag child ≠ .documentArray collection) ∧ after.vars = c.vars := by
  intro after
  obtain ⟨check, f, slot, -, hf, -⟩ := hfits.exist
  by_cases hloop : f.type = foreachType
  · obtain ⟨rfl, hw, hheld, hbind⟩ := hc.bound_of_loop (p := p) hfits hplug hfree hf hloop
    cases htag : (c.tag child).isDocumentArray with
    | true =>
      obtain ⟨collection, htag⟩ := Tag.isDocumentArray_iff.mp htag
      obtain ⟨field, v, hfield, hne, hv⟩ := hl.field hf hloop
      refine .inl ⟨f, field, collection, hf, hloop, htag, hfield, ?_⟩
      rw [show after = _ from hbind, htag,
        Propagator.bindLoop_of_documents ((field?_plugIn ..).trans hfield) hne hv]
      rfl
    | false =>
      refine .inr ⟨fun g collection _ _ he => ?_, ?_⟩
      · rw [he] at htag
        cases htag
      · rw [show after = _ from hbind, Propagator.bindLoop_of_other hw htag hheld]
        rfl
  · have hother : ∀ g, (c.plugIn child parent input).frame? parent = some g →
        g.type ≠ foreachType := by
      intro g hg
      obtain rfl := Option.some.inj (hf.symm.trans ((frame?_plugIn ..).symm.trans hg))
      exact hloop
    refine .inr ⟨fun g collection hg ht => ?_, vars_afterConnect hother⟩
    obtain rfl := Option.some.inj (hf.symm.trans hg)
    exact absurd ht hloop

/-- **Something is plugged in.** A getter goes on agreeing with its variable, unless it is a list of
documents of another collection that is plugged into a loop whose picker has the same value. -/
theorem Agrees.plugged_iff {getter collection : String} (h : c.Agrees getter collection)
    (hc : Settled ids p.domain none c) (hl : Looped c) {child parent input : String}
    (hfits : Workspace.Fits c child parent input) (hplug : c.plug? child = none)
    (hfree : c.target? parent input = none) :
    (p.afterConnect (c.plugIn child parent input) child parent).canvas.Agrees getter collection ↔
      ∀ f other, c.frame? parent = some f → f.type = foreachType →
        c.tag child = .documentArray other → c.Shares getter parent → other = collection := by
  have htouched := p.afterConnect_touched (c.plugIn child parent input) child parent
  have hfield : (p.afterConnect (c.plugIn child parent input) child parent).canvas.field? getter
      variableField = c.field? getter variableField :=
    (htouched.field? getter (by decide)).trans (field?_plugIn ..)
  rcases hc.plugged_vars (p := p) hl hfits hplug hfree with
    ⟨f, field, other, hf, hloop, htag, hnamed, hvars⟩ | ⟨hnone, hvars⟩
  · have hsame := agrees_congr (c := c.retyped field.value (Tag.document other).text) hfield hvars
      collection
    rw [hsame, h.retyped_iff hnamed]
    constructor
    · intro hkept g other' hg _ htag'
      obtain rfl := Tag.documentArray.inj (htag.symm.trans htag')
      exact hkept
    · exact fun hall => hall f other hf hloop htag
  · exact iff_of_true ((agrees_congr hfield hvars collection).mpr h) fun g other hg ht htag =>
      absurd htag (hnone g other hg ht)

end Canvas

end TypedBlocks
