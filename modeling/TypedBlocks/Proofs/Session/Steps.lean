import Mathlib.Logic.Relation
import TypedBlocks.Proofs.Catalog.Sound
import TypedBlocks.Proofs.Session.Responses

/-!
# The steps of a session

Whatever a user does in session, the canvas only ever takes three kinds of steps, from one settled
canvas to the next: a block is pulled out, a block is plugged into a free input that takes it, or a
block is made. The response of the propagator belongs to the step. An edit is a run of steps, and
so is all that happens in session: what every step keeps is kept for good.
-/

namespace TypedBlocks.Canvas

open Definition

/-- A block is pulled out of a settled canvas, and the propagator responds. -/
inductive Pulled (ids : IdSupply) (p : Propagator) (c : Canvas) : Canvas → Prop where
  | intro {child : String} {plug : Plug} (settled : Settled ids p.domain none c)
      (plugged : c.plug? child = some plug) :
      Pulled ids p c (p.afterDisconnect (c.detach child plug) child plug.block).canvas

/-- A settled canvas and the next. Every edit is a run of these, and each leads from a settled
canvas to a settled one. -/
inductive Step (ids : IdSupply) (p : Propagator) (c : Canvas) : Canvas → Prop where
  /-- a block is pulled out -/
  | pull {c' : Canvas} (pulled : Pulled ids p c c') : Step ids p c c'
  /-- a block is plugged in -/
  | plug {child parent input : String} (settled : Settled ids p.domain none c)
      (fits : Workspace.Fits c child parent input) (free : c.plug? child = none)
      (vacant : c.target? parent input = none) :
      Step ids p c (p.afterConnect (c.plugIn child parent input) child parent).canvas
  /-- a block is made -/
  | make {c' : Canvas} {catalog : Catalog} {blockType id : String} {preset : Option String}
      (settled : Settled ids p.domain none c) (sound : catalog.Sound)
      (made : c.create ids catalog blockType preset = .ok (id, c')) : Step ids p c c'

/-- Any number of blocks is pulled out. -/
abbrev Pulls (ids : IdSupply) (p : Propagator) : Canvas → Canvas → Prop :=
  Relation.ReflTransGen (Pulled ids p)

/-- Any number of steps. -/
abbrev Steps (ids : IdSupply) (p : Propagator) : Canvas → Canvas → Prop :=
  Relation.ReflTransGen (Step ids p)

variable {ids : IdSupply} {p : Propagator} {c c' : Canvas}

theorem Pulls.steps (h : Pulls ids p c c') : Steps ids p c c' :=
  h.lift id fun _ _ => Step.pull

namespace Pulled

/-- Pulling blocks out amends the canvas, and only prunes it. -/
theorem pruned (h : Pulled ids p c c') : Pruned c c' := by
  cases h with
  | @intro child plug _ _ =>
    exact (Pruned.of_detach child plug).trans (p.afterDisconnect_touched _ child plug.block).pruned

/-- It touches no variable. -/
theorem vars (h : Pulled ids p c c') : c'.vars = c.vars := by
  cases h
  exact p.vars_afterDisconnect ..

/-- It touches no field but the dropdowns of attribute getters. -/
theorem field? (h : Pulled ids p c c') (id : String) {field : String}
    (hne : field ≠ attributeField) : c'.field? id field = c.field? id field := by
  cases h
  rw [p.field?_afterDisconnect _ _ _ _ hne, field?_detach]

/-- It changes no output of what is still plugged in. -/
theorem output? (h : Pulled ids p c c') {id : String} (hp : c'.plug? id ≠ none) :
    c'.output? id = c.output? id := by
  cases h
  rw [p.output?_afterDisconnect _ _ _ hp, output?_detach]

theorem settled (h : Pulled ids p c c') : Settled ids p.domain none c' := by
  obtain ⟨hs, hp⟩ := h
  exact hs.afterDisconnect hp

end Pulled

/-- Any number of blocks pulled out is still pruning. -/
theorem Pulls.pruned (h : Pulls ids p c c') : Pruned c c' := by
  induction h with
  | refl => exact .refl c
  | tail _ hpulled ih => exact ih.trans hpulled.pruned

theorem Pulls.vars (h : Pulls ids p c c') : c'.vars = c.vars := by
  induction h with
  | refl => rfl
  | tail _ hpulled ih => exact hpulled.vars.trans ih

theorem Pulls.field? (h : Pulls ids p c c') (id : String) {field : String}
    (hne : field ≠ attributeField) : c'.field? id field = c.field? id field := by
  induction h with
  | refl => rfl
  | tail _ hpulled ih => exact (hpulled.field? id hne).trans ih

end TypedBlocks.Canvas
