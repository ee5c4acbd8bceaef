import Mathlib.Logic.Relation
import TypedBlocks.Proofs.Propagator.Rules

/-!
# What a propagator touches

An event need not be true, and a propagator believes it. Still there are only five things that it
ever does to a canvas (`Touch`): it gives a link an output, undoes a connection, moves a block,
writes the attributes that a dropdown offers, or retypes a variable. Its response to an event, true
or not, is a run of these (`respond_touched`), so an invariant that every touch keeps is out of the
reach of events.
-/

namespace TypedBlocks

open Canvas Definition

namespace Canvas

/-- One thing that a propagator does to a canvas. -/
inductive Touch (c : Canvas) : Canvas → Prop where
  /-- a link is given an output, never that of a single document -/
  | emit {link : String} {f : Frame} {tag : Tag} (hf : c.frame? link = some f)
      (hlink : Tag.isLinkType f.type = true) (hplain : (Tag.ofText tag.text).isDocument = false) :
      Touch c (c.emit link tag)
  /-- a connection is undone -/
  | detach {child : String} {plug : Plug} (hp : c.plug? child = some plug) :
      Touch c (c.detach child plug)
  /-- a block is moved -/
  | shift {block : String} (hb : (c.block? block).isSome) (dx dy : Float) :
      Touch c (c.shift block dx dy)
  /-- a dropdown of attributes is written -/
  | write {getter : String} (hfield : (c.field? getter attributeField).isSome) (field : Field) :
      Touch c (c.write getter attributeField field)
  /-- a variable is given a type -/
  | retype {id : String} (hv : (c.findVariable id).isSome) (type : String) :
      Touch c (c.retyped id type)

/-- Any number of touches. -/
abbrev Touched : Canvas → Canvas → Prop := Relation.ReflTransGen Touch

variable {c c' : Canvas}

namespace Touch

/-- A touch is an amendment; writing a dropdown is two. -/
theorem amended (ids : IdSupply) (h : Touch c c') : Amended ids c c' := by
  cases h with
  | @emit link f tag hf =>
    exact .of_apply (a := .setOutputTag link tag) (setOutputTag_eq_ok (isSome_of_frame? hf) tag)
  | @detach child plug hp =>
    exact .of_apply (a := .pullOut child) (pullOut_eq_ok_iff.mpr ⟨plug, hp, rfl⟩)
  | @shift block hb dx dy =>
    exact .of_apply (a := .move block dx dy) (move_eq_ok_iff.mpr ⟨hb, rfl⟩)
  | @write getter hfield field =>
    rcases c.setChoices_setField getter attributeField field.choices field.value with
      ⟨-, c', hchoices, hvalue⟩ | ⟨hnone, -⟩
    · exact (Amended.of_apply (a := .setChoices getter attributeField field.choices) hchoices).amend
        (.setField getter attributeField field.value) hvalue
    · rw [hnone] at hfield
      cases hfield
  | @retype id hv type =>
    obtain ⟨v, hv⟩ := Option.isSome_iff_exists.mp hv
    refine .of_apply (a := .retypeVariable id type) ?_
    simp only [Amendment.apply, retypeVariable, hv]
    rfl

/-- No block comes or goes or changes its frame, and no connection is made. -/
theorem pruned (h : Touch c c') : Pruned c c' :=
  -- no id is drawn, so any supply does
  (h.amended fun _ => "").pruned

theorem wired (h : Touch c c') (hw : Wired c) : Wired c' := hw.amended (h.amended fun _ => "")

/-- No output changes but that of a link, which never becomes one of a single document. -/
theorem output? (h : Touch c c') (id : String) :
    c'.output? id = c.output? id ∨
    ∃ (f : Frame) (tag : Tag), c.frame? id = some f ∧ Tag.isLinkType f.type = true ∧
      c'.output? id = some (true, some [tag.text]) ∧ (Tag.ofText tag.text).isDocument = false := by
  cases h with
  | @emit link f tag hf hlink hplain =>
    by_cases hid : id = link
    · subst hid
      exact .inr ⟨f, tag, hf, hlink, output?_emit_self (isSome_of_frame? hf) tag, hplain⟩
    · left
      rw [output?_emit, if_neg hid]
  | detach => exact .inl (output?_detach ..)
  | shift => exact .inl (output?_shift ..)
  | write => exact .inl (output?_write ..)
  | retype => exact .inl rfl

/-- No field changes but the dropdowns of attributes. -/
theorem field? (h : Touch c c') (id : String) {field : String} (hne : field ≠ attributeField) :
    c'.field? id field = c.field? id field := by
  cases h with
  | emit => exact field?_emit ..
  | detach => exact field?_detach ..
  | shift => exact field?_shift ..
  | write => rw [field?_write, if_neg fun hand => hne hand.2]
  | retype => rfl

/-- No variable comes or goes. -/
theorem ids (h : Touch c c') : c'.vars.map (·.id) = c.vars.map (·.id) := by
  cases h with
  | @retype id _ type => exact map_retype (fun _ _ => rfl) id type c.vars
  | _ => rfl

/-- A loop that names a variable goes on doing so. -/
theorem named (h : Touch c c') {loop : String} (hnamed : (c.loopVariable? loop).isSome) :
    (c'.loopVariable? loop).isSome := by
  obtain ⟨field, hfield, hid⟩ := loopVariable?_isSome_iff.mp hnamed
  refine loopVariable?_isSome_iff.mpr ⟨field, (h.field? loop (by decide)).trans hfield, ?_⟩
  rw [h.ids]
  exact hid

end Touch

/-- Touches are amendments, so what amendments keep is kept by any number of touches. -/
theorem Touched.amended (ids : IdSupply) (h : Touched c c') : Amended ids c c' := by
  induction h with
  | refl => exact .refl
  | tail _ htouch ih => exact ih.trans (htouch.amended ids)

theorem Touched.pruned (h : Touched c c') : Pruned c c' := by
  induction h with
  | refl => exact .refl c
  | tail _ htouch ih => exact ih.trans htouch.pruned

/-- No number of touches writes to a field, but to dropdowns of attributes. -/
theorem Touched.field? (h : Touched c c') (id : String) {field : String}
    (hne : field ≠ attributeField) : c'.field? id field = c.field? id field := by
  induction h with
  | refl => rfl
  | tail _ htouch ih => exact (htouch.field? id hne).trans ih

/-- Writing a dropdown is one touch at most, and where there is none, nothing happens. -/
theorem touched_write (c : Canvas) (id : String) (field : Field) :
    Touched c (c.write id attributeField field) := by
  by_cases hfield : (c.field? id attributeField).isSome
  · exact .single (.write hfield field)
  · rw [write_eq_self fun g hg => absurd (Option.isSome_of_eq_some hg) hfield]

/-- So is putting it back to the placeholder. -/
theorem touched_cleared (c : Canvas) (id : String) : Touched c (c.cleared id) := by
  rw [cleared]
  split
  · exact touched_write ..
  · exact .refl

/-- Resetting a link that is held takes three touches. -/
theorem touched_reset {link : String} {f : Frame} (hf : c.frame? link = some f)
    (hlink : Tag.isLinkType f.type = true) {plug : Plug} (hp : c.plug? link = some plug)
    (dx dy : Float) : Touched c (((c.emit link .unknown).detach link plug).shift link dx dy) := by
  have hreset : Touch c (c.emit link .unknown) := .emit hf hlink (by decide)
  have hpulled : Touch (c.emit link .unknown) ((c.emit link .unknown).detach link plug) :=
    .detach ((plug?_emit ..).trans hp)
  have hb : (((c.emit link .unknown).detach link plug).block? link).isSome := by
    rw [isSome_congr (frame?_detach ..), isSome_congr (frame?_emit ..)]
    exact isSome_of_frame? hf
  exact ((Relation.ReflTransGen.single hreset).tail hpulled).tail (.shift hb dx dy)

end Canvas

namespace Propagator

variable (p : Propagator) (c : Canvas)

/-! ## After a connection -/

/-- Throwing a block out touches the canvas by pulling one block out, or not at all. -/
theorem expel_touched (parent input : String) (reason : Mismatch) :
    Touched c (expel c parent input reason).canvas := by
  rw [expel]
  cases h : c.clearInput parent input with
  | ok c' =>
    obtain ⟨child, plug, -, hp, rfl⟩ := clearInput_eq_ok_iff.mp h
    exact .single (.detach hp)
  | error fault => cases fault <;> exact .refl

/-- Giving a link its direction touches the link only, unless the document is thrown out. -/
theorem orientLink_touched {link : String} {f : Frame} (hf : c.frame? link = some f)
    (hlink : Tag.isLinkType f.type = true) (collection : String) :
    Touched c (orientLink c link f.type collection).canvas := by
  rw [orientLink]
  split
  · rename_i other _
    rw [setOutputTag_eq_ok (isSome_of_frame? hf)]
    refine .single (.emit hf hlink ?_)
    rw [Tag.ofText_text_documentArray]
    split <;> rfl
  · exact expel_touched ..

/-- Binding a loop retypes its variable, throws the list out, or does nothing. -/
theorem bindLoop_touched (loop : String) (tag : Tag) :
    Touched c (bindLoop c loop tag).canvas := by
  unfold bindLoop
  split
  · split
    · rename_i field _
      split
      · exact .refl
      · rw [retypeVariable]
        split
        · exact .refl
        · rename_i v hv
          exact .single (.retype (Option.isSome_of_eq_some hv) _)
    · exact .refl
  · exact expel_touched ..

/-- Filling the attributes in writes one dropdown, or nothing. -/
theorem fillAttributes_touched (getter collection : String) :
    Touched c (p.fillAttributes c getter collection).canvas := by
  rw [fillAttributes_canvas]
  split
  · exact .refl
  · split
    · exact .refl
    · exact touched_write ..

/-- **The rule for connections only touches the canvas**, true or not what it is told of. By cases
on the kind of the parent, as the rule itself goes. -/
theorem afterConnect_touched (child parent : String) :
    Touched c (p.afterConnect c child parent).canvas := by
  rcases p.afterConnect_cases c child parent with he | ⟨f, hf, hcase⟩
  · rw [he]
    exact .refl
  · rcases hcase with ⟨collection, hlink, -, he⟩ | ⟨-, -, he⟩ | ⟨collection, -, -, he⟩
    · rw [he]
      exact orientLink_touched c hf hlink collection
    · rw [he]
      exact bindLoop_touched ..
    · rw [he]
      exact fillAttributes_touched ..

/-! ## After a disconnection -/

/-- **The rule for disconnections only touches the canvas**, also where it is applied to the holder
of a link once more. -/
theorem afterDisconnect_touched (child parent : String) :
    Touched c (p.afterDisconnect c child parent).canvas := by
  by_cases hlink : (c.tag child).isDocument = true ∧ ∃ f, c.frame? parent = some f ∧
      Tag.isLinkType f.type = true
  · obtain ⟨hdoc, f, hf, hlink⟩ := hlink
    by_cases hidle : (c.tag parent).isUnknown ∨ (c.target? parent linkInput).isSome
    · rw [afterDisconnect_of_idle hf hlink hdoc hidle]
    · rw [not_or, Bool.not_eq_true, Option.not_isSome_iff_eq_none] at hidle
      rw [afterDisconnect_of_link hf hlink hdoc hidle.1 hidle.2]
      split
      · exact .single (.emit hf hlink (by decide))
      · rename_i plug hp
        exact (touched_reset hf hlink hp _ _).trans (touched_cleared _ plug.block)
  · rw [afterDisconnect_of_plain fun hdoc f hf => ?_]
    · exact touched_cleared c parent
    · rw [← Bool.not_eq_true]
      exact fun he => hlink ⟨hdoc, f, hf, he⟩

/-! ## After any event -/

/-- **Whatever an event says, a propagator only touches.** What every touch keeps is kept by any
number of reports, true or not. -/
theorem respond_touched (event : Event) : Touched c (p.respond c event).canvas := by
  rw [respond]
  split
  · exact afterConnect_touched ..
  · exact afterDisconnect_touched ..
  · exact .refl

end Propagator

end TypedBlocks
