import TypedBlocks.Proofs.Run.Attended
import TypedBlocks.Proofs.Session.Independence

/-!
# The order of connections that have nothing to do with each other

In session, two connections between free ends can be made in either order if they share no block,
and no variable by way of two loops: neither edit shows whether the other was made before it.
-/

namespace TypedBlocks.Editor

open Canvas Definition Workspace

variable {ids : IdSupply} {p : Propagator} {e : Editor}

/-- **Independent connections commute.** Let a session be attached from the start, and let users
have done what they like. Let two connections be about different children and different parents,
neither child the parent of the other; let both children be plugged in nowhere, and both inputs be
empty; and if both parents are loops, let them name different variables. Then each edit ends in the
same way, well or with the same fault, whether it is made first or second, and what is on the canvas
afterwards is the same: all blocks and all variables, whatever the propagator made of the
connections. -/
theorem connects_commute (hids : Function.Injective ids) {workspace : String} {settings : Settings}
    (h : Reach ids (startWith ids workspace settings p) Act.ByUser e)
    {child parent input child' parent' input' : String}
    (hchild : child ≠ child') (hparent : parent ≠ parent')
    (hcross : child ≠ parent') (hcross' : child' ≠ parent)
    (hplug : e.workspace.canvas.plug? child = none)
    (hplug' : e.workspace.canvas.plug? child' = none)
    (hempty : e.workspace.canvas.target? parent input = none)
    (hempty' : e.workspace.canvas.target? parent' input' = none)
    (hloops : ∀ b b' field field', e.workspace.canvas.block? parent = some b →
      e.workspace.canvas.block? parent' = some b' → b.type = foreachType →
      b'.type = foreachType → b.fields.get? variableField = some field →
      b'.fields.get? variableField = some field' → field.value ≠ field'.value) :
    let first := e.perform ids (.connect child parent input)
    let second := e.perform ids (.connect child' parent' input')
    (second.1.perform ids (.connect child parent input)).2 = first.2 ∧
      (first.1.perform ids (.connect child' parent' input')).2 = second.2 ∧
      (first.1.perform ids (.connect child' parent' input')).1.workspace.canvas =
        (second.1.perform ids (.connect child parent input)).1.workspace.canvas := by
  refine (h.inOrder hids).attended.connect_comm hchild hparent hcross hcross' hplug hplug' hempty
    hempty' fun f f' field field' hf hf' htype htype' hfield hfield' => ?_
  obtain ⟨b, hb, rfl⟩ := Option.map_eq_some_iff.mp hf
  obtain ⟨b', hb', rfl⟩ := Option.map_eq_some_iff.mp hf'
  have hb : e.workspace.canvas.block? parent = some b := hb
  have hb' : e.workspace.canvas.block? parent' = some b' := hb'
  rw [field?_eq_bind, hb] at hfield
  rw [field?_eq_bind, hb'] at hfield'
  exact hloops b b' field field' hb hb' htype htype' hfield hfield'

/-- One ship is plugged into the link, another into a loop, which throws it out. Neither edit
notices whether the other came first. -/
theorem connects_commute_harbour :
    let e := harbour [.create "variables_get_ship_document" none, .create foreachType none]
    let first := e.perform strokes (.connect "|||" "||||" linkInput)
    let second := e.perform strokes (.connect "||||||" "|||||||" listInput)
    let both := first.1.perform strokes (.connect "||||||" "|||||||" listInput)
    ((second.1.perform strokes (.connect "|||" "||||" linkInput)).2 = first.2 ∧
      both.2 = second.2 ∧ both.1.workspace.canvas =
        (second.1.perform strokes (.connect "|||" "||||" linkInput)).1.workspace.canvas) ∧
    both.1.workspace.canvas.target? "||||" linkInput = some "|||" ∧
    both.1.workspace.canvas.target? "|||||||" listInput = none := by
  intro e first second both
  refine ⟨?_, by decide +kernel, by decide +kernel⟩
  refine connects_commute strokes_injective (reach_harbour _) (by decide) (by decide) (by decide)
    (by decide) (by decide +kernel) (by decide +kernel) (by decide +kernel) (by decide +kernel)
    fun b b' field field' hb hb' htype => ?_
  -- the link is no loop
  have hlink : (e.workspace.canvas.block? "||||").map Block.type = some "port_ship_link" := by
    decide +kernel
  rw [hb, Option.map_some, htype] at hlink
  exact absurd hlink (by decide)

end TypedBlocks.Editor
