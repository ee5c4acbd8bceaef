import TypedBlocks.Proofs.Canvas.Wiring
import TypedBlocks.Proofs.Propagator.Amending

/-!
# Connecting and unplugging

What the two edits of the block graph do to a workspace, whoever listens. `Fits` says of two blocks
and an input that the connection is allowed. A connection is made in three steps, and each leaves
the canvas pruned, so what was found to fit at first still fits in the end, and the ends that were
cleared are still free:

* the child is pulled out of where it is (`vacate`),
* what the input was found to hold is pulled out of it (`evict`),
* both ends are set.

`coherent_connect` and `coherent_unplug` conclude that both edits keep the wiring, also when they
fail halfway.
-/

namespace TypedBlocks

open Canvas

namespace Workspace

variable {ids : IdSupply} {w w' : Workspace} {c c' : Canvas} {child parent input : String}

/-! ## Approval -/

/-- The child has an output, the parent has the input, and the one goes into the other: it is for
values, the blocks are two, and the checks share a text if there are two. -/
structure Fits (c : Canvas) (child parent input : String) : Prop where
  intro ::
  exist : ∃ check f slot, c.output? child = some (true, check) ∧ c.frame? parent = some f ∧
    f.slot? input = some slot ∧ slot.statement = false ∧ compatible check slot.check = true
  apart : child ≠ parent

/-- Approval finds what the input holds, of connections that fit and of no others. The converse says
that nothing which fits is refused. -/
theorem approve_eq_ok_iff {occupant : Option String} :
    approve c child parent input = .ok occupant ↔
      Fits c child parent input ∧ occupant = c.target? parent input := by
  rw [approve]
  cases hc : c.block? child with
  | none =>
    simp only [reduceCtorEq, false_iff, not_and]
    rintro ⟨⟨check, f, slot, ho, -⟩, -⟩
    simp [output?, hc] at ho
  | some childBlock =>
    cases hp : c.block? parent with
    | none =>
      simp only [reduceCtorEq, false_iff, not_and]
      rintro ⟨⟨check, f, slot, -, hf, -⟩, -⟩
      simp [frame?, hp] at hf
    | some parentBlock =>
      cases hs : parentBlock.inputs.get? input with
      | none =>
        simp only [hs, reduceCtorEq, false_iff, not_and]
        rintro ⟨⟨check, f, slot, -, hf, hslot, -⟩, -⟩
        rw [frame?, hp, Option.map_some, Option.some.injEq] at hf
        rw [← hf] at hslot
        simp [Block.frame, hs] at hslot
      | some slot =>
        have htarget : c.target? parent input = slot.target := by
          rw [target?_eq_bind, hp, Option.bind_some, Block.target?, hs, Option.bind_some]
        simp only [hs, htarget]
        split
        · rename_i hbad
          simp only [reduceCtorEq, false_iff, not_and]
          rintro ⟨⟨check, f, slot', ho, hf, hslot, hst, hcompat⟩, hne⟩
          simp only [output?, hc, frame?, hp, Option.map_some, Option.some.injEq,
            Prod.mk.injEq] at ho hf
          rw [← hf, Block.slot?_frame, hs, Option.map_some, Option.some.injEq] at hslot
          rw [← hslot] at hst hcompat
          rw [← ho.2] at hcompat
          simp only [Input.slot] at hst hcompat
          simp [hne, ho.1, hst, hcompat] at hbad
        · rename_i hgood
          simp only [not_or, Bool.not_eq_true, Bool.not_eq_false'] at hgood
          obtain ⟨hne, hout, hst, hcompat⟩ := hgood
          have hfits : Fits c child parent input := by
            refine ⟨⟨childBlock.outputCheck, parentBlock.frame, slot.slot, ?_, ?_, ?_, hst,
              hcompat⟩, hne⟩
            · rw [output?, hc, Option.map_some, hout]
            · exact frame?_of_block? hp
            · rw [Block.slot?_frame, hs, Option.map_some]
          simp [hfits, eq_comm]

/-- **Why a connection is refused**: the child is missing, the parent is missing, the parent has no
such input, or they do not fit. -/
theorem approve_eq_error {fault : Fault} (h : approve c child parent input = .error fault) :
    (fault = .noBlock child ∧ c.block? child = none) ∨
    (fault = .noBlock parent ∧ c.block? parent = none) ∨
    (fault = .noInput parent input ∧
      ∃ b, c.block? parent = some b ∧ b.inputs.get? input = none) ∨
    (fault = .misfit child parent input ∧ ¬ Fits c child parent input) := by
  have hfits : ¬ Fits c child parent input := by
    intro hf
    rw [approve_eq_ok_iff.mpr ⟨hf, rfl⟩] at h
    cases h
  rw [approve] at h
  split at h
  · rename_i hc
    cases h
    exact .inl ⟨rfl, hc⟩
  · split at h
    · rename_i hp
      cases h
      exact .inr (.inl ⟨rfl, hp⟩)
    · rename_i b hp
      split at h
      · rename_i hs
        cases h
        exact .inr (.inr (.inl ⟨rfl, b, hp, hs⟩))
      · split at h
        · cases h
          exact .inr (.inr (.inr ⟨rfl, hfits⟩))
        · cases h

/-- Whether a connection fits depends on the output of the child and the frame of the parent, and on
nothing else on the canvas. -/
theorem Fits.congr (h : Fits c child parent input) (ho : c'.output? child = c.output? child)
    (hf : c'.frame? parent = c.frame? parent) : Fits c' child parent input := by
  obtain ⟨⟨check, f, slot, hout, hframe, hrest⟩, hne⟩ := h
  exact ⟨⟨check, f, slot, ho.trans hout, hf.trans hframe, hrest⟩, hne⟩

theorem Fits.isSome (h : Fits c child parent input) : (c.block? child).isSome := by
  obtain ⟨check, f, slot, ho, -⟩ := h.exist
  exact isSome_of_output? ho

/-! ## Unplugging -/

/-- A block that is plugged in is pulled out of there, and that is reported. -/
theorem unplug_eq {plug : Plug} (h : w.canvas.plug? child = some plug) :
    w.unplug ids child =
      (report ids { w with canvas := w.canvas.detach child plug }
        (.disconnect w.id child plug.block), .ok ()) := by
  rw [unplug, release_eq_ok_iff.mpr ⟨h, rfl⟩]

/-- A block that is plugged in nowhere is left alone: pulling it out fails, and nothing is
reported. -/
theorem unplug_of_plug?_eq_none (ids : IdSupply) (h : w.canvas.plug? child = none) :
    (w.unplug ids child).1 = w ∧ ∃ fault, (w.unplug ids child).2 = .error fault := by
  rw [unplug]
  cases hr : w.canvas.release child with
  | error fault => exact ⟨rfl, fault, rfl⟩
  | ok r =>
    have hp := (release_eq_ok_iff.mp hr).1
    rw [h] at hp
    cases hp

/-- Unplugging amends what is left when the one connection is undone: all that follows is done by
listeners, and these amend. -/
theorem unplug_amended (ids : IdSupply) {plug : Plug} (h : w.canvas.plug? child = some plug) :
    Amended ids (w.canvas.detach child plug) (w.unplug ids child).1.canvas := by
  rw [unplug_eq h]
  exact report_amended { w with canvas := w.canvas.detach child plug } _

theorem unplug_pruned (ids : IdSupply) (w : Workspace) (child : String) :
    Pruned w.canvas (w.unplug ids child).1.canvas := by
  cases h : w.canvas.plug? child with
  | none =>
    rw [(unplug_of_plug?_eq_none ids h).1]
    exact .refl _
  | some plug => exact (Pruned.of_detach child plug).trans (unplug_amended ids h).pruned

/-- A block that was pulled out is free, and so is the input that it was pulled out of, whatever the
listeners did: they make no connections. -/
theorem unplug_free (ids : IdSupply) {plug : Plug} (h : w.canvas.plug? child = some plug) :
    (w.unplug ids child).1.canvas.plug? child = none ∧
      (w.unplug ids child).1.canvas.target? plug.block plug.input = none := by
  have hp := (unplug_amended ids h).pruned
  constructor
  · refine hp.plug_none ?_
    rw [plug?_detach, if_pos rfl]
  · refine hp.target_none ?_
    rw [target?_detach, if_pos ⟨rfl, rfl⟩]

/-- What undoing a connection and reporting keep, unplugging keeps. Facts about unplugging that hold
for all listeners are proved through this. -/
theorem unplug_keeps {P : Workspace → Prop} (hreport : ∀ w event, P w → P (report ids w event))
    (hdetach : ∀ (w : Workspace) child plug, P w →
      P { w with canvas := w.canvas.detach child plug })
    (h : P w) (child : String) : P (w.unplug ids child).1 := by
  cases hp : w.canvas.plug? child with
  | none =>
    rw [(unplug_of_plug?_eq_none ids hp).1]
    exact h
  | some plug =>
    rw [unplug_eq hp]
    exact hreport _ _ (hdetach w child plug h)

theorem coherent_unplug (h : Coherent ids w.canvas) (child : String) :
    Coherent ids (w.unplug ids child).1.canvas := by
  cases hp : w.canvas.plug? child with
  | none =>
    rw [(unplug_of_plug?_eq_none ids hp).1]
    exact h
  | some plug => exact (h.detach hp).amended (unplug_amended ids hp)

/-! ## The steps of connecting -/

theorem vacate_eq (ids : IdSupply) (w : Workspace) (child : String) :
    w.vacate ids child =
      if w.canvas.plug? child = none then (w, .ok ()) else w.unplug ids child := by
  rw [vacate]
  cases w.canvas.plug? child <;> simp

/-- Vacating cannot fail, and leaves the child free: it is pulled out only where it is plugged
in. -/
theorem vacate_ok (ids : IdSupply) (w : Workspace) (child : String) :
    (w.vacate ids child).2 = .ok () ∧ (w.vacate ids child).1.canvas.plug? child = none := by
  rw [vacate_eq]
  split
  · rename_i h
    exact ⟨rfl, h⟩
  · rename_i h
    obtain ⟨plug, hp⟩ := Option.ne_none_iff_exists'.mp h
    exact ⟨by rw [unplug_eq hp], (unplug_free ids hp).1⟩

theorem evict_some (ids : IdSupply) (w : Workspace) {occupant : String} (h : occupant ≠ child) :
    w.evict ids child (some occupant) = w.unplug ids occupant := if_neg h

section Keeps

variable {P : Workspace → Prop}
  (hunplug : ∀ w child, P w → P (w.unplug ids child).1) (h : P w)

include hunplug h

/-- What unplugging keeps, vacating keeps. -/
theorem vacate_keeps (child : String) : P (w.vacate ids child).1 := by
  rw [vacate_eq]
  split
  · exact h
  · exact hunplug w child h

/-- What unplugging keeps, evicting keeps. -/
theorem evict_keeps (child : String) (occupant : Option String) :
    P (w.evict ids child occupant).1 := by
  unfold Workspace.evict
  split
  · exact h
  · split
    · exact h
    · exact hunplug w _ h

end Keeps

theorem vacate_pruned (ids : IdSupply) (w : Workspace) (child : String) :
    Pruned w.canvas (w.vacate ids child).1.canvas :=
  vacate_keeps (P := fun w' => Pruned w.canvas w'.canvas)
    (fun w' child hp => hp.trans (unplug_pruned ids w' child)) (.refl _) child

theorem coherent_vacate (h : Coherent ids w.canvas) (child : String) :
    Coherent ids (w.vacate ids child).1.canvas :=
  vacate_keeps (P := fun w => Coherent ids w.canvas) (fun _ child h => coherent_unplug h child) h
    child

theorem evict_pruned (ids : IdSupply) (w : Workspace) (child : String) (occupant : Option String) :
    Pruned w.canvas (w.evict ids child occupant).1.canvas :=
  evict_keeps (P := fun w' => Pruned w.canvas w'.canvas)
    (fun w' child hp => hp.trans (unplug_pruned ids w' child)) (.refl _) child occupant

theorem coherent_evict (h : Coherent ids w.canvas) (child : String)
    (occupant : Option String) : Coherent ids (w.evict ids child occupant).1.canvas :=
  evict_keeps (P := fun w => Coherent ids w.canvas) (fun _ child h => coherent_unplug h child) h
    child occupant

/-- Clearing both ends of a connection to be prunes the canvas. -/
theorem clear_pruned (ids : IdSupply) (w : Workspace) (child parent input : String) :
    Pruned w.canvas ((w.vacate ids child).1.evict ids child
      (w.canvas.target? parent input)).1.canvas :=
  (vacate_pruned ids w child).trans (evict_pruned ..)

/-- **Eviction frees the input**: what it was found to hold, before the child was vacated, is gone
if eviction succeeds. -/
theorem evict_free (hw : Wired c) (hp : Pruned c w.canvas) (hwired : Wired w.canvas)
    (hchild : w.canvas.plug? child = none)
    (h : (w.evict ids child (c.target? parent input)).2 = .ok ()) :
    (w.evict ids child (c.target? parent input)).1.canvas.target? parent input = none := by
  cases ht : c.target? parent input with
  | none => exact hp.target_none ht
  | some occupant =>
    rw [ht] at h
    simp only [evict] at h ⊢
    split
    · -- the child was in that very input, and has been vacated
      rename_i he
      rcases hp.target parent input with hsame | hnone
      · rw [ht, he] at hsame
        rw [hwired.plug_iff.mpr hsame] at hchild
        cases hchild
      · exact hnone
    · rename_i hne
      rw [if_neg hne] at h
      cases hplug : w.canvas.plug? occupant with
      | none =>
        obtain ⟨fault, hfault⟩ := (unplug_of_plug?_eq_none ids hplug).2
        rw [hfault] at h
        cases h
      | some plug =>
        have he := (hp.plug_some hplug).symm.trans (hw.plug_iff.mpr ht)
        cases he
        exact (unplug_free ids hplug).2

/-- **Connecting, step by step.** It is refused and nothing happens, or the eviction fails and
nothing more happens, or both ends are set and the connection is reported. -/
theorem connect_cases (ids : IdSupply) (w : Workspace) (child parent input : String) :
    (∃ fault, approve w.canvas child parent input = .error fault ∧
      w.connect ids child parent input = (w, .error fault)) ∨
    (Fits w.canvas child parent input ∧
      let cleared :=
        (w.vacate ids child).1.evict ids child (w.canvas.target? parent input)
      (∃ fault, cleared.2 = .error fault ∧
        w.connect ids child parent input = (cleared.1, .error fault)) ∨
      (cleared.2 = .ok () ∧
        w.connect ids child parent input =
          (report ids { cleared.1 with canvas := cleared.1.canvas.plugIn child parent input }
            (.connect cleared.1.id child parent), .ok ()))) := by
  rw [connect]
  cases ha : approve w.canvas child parent input with
  | error fault => exact .inl ⟨fault, rfl, rfl⟩
  | ok occupant =>
    obtain ⟨hfits, rfl⟩ := approve_eq_ok_iff.mp ha
    refine .inr ⟨hfits, ?_⟩
    have hv : w.vacate ids child = ((w.vacate ids child).1, .ok ()) :=
      Prod.ext rfl (vacate_ok ids w child).1
    rw [hv]
    dsimp only
    cases he : (w.vacate ids child).1.evict ids child (w.canvas.target? parent input) with
    | mk cleared result =>
      cases result with
      | error fault => exact .inl ⟨fault, rfl, rfl⟩
      | ok _ => exact .inr ⟨rfl, rfl⟩

/-- What making or undoing a connection and reporting keep, connecting keeps, whether it succeeds,
is refused, or fails between its reports. -/
theorem connect_keeps {P : Workspace → Prop} (hreport : ∀ w event, P w → P (report ids w event))
    (hdetach : ∀ (w : Workspace) child plug, P w →
      P { w with canvas := w.canvas.detach child plug })
    (hplug : ∀ (w : Workspace) child parent input, P w →
      P { w with canvas := w.canvas.plugIn child parent input })
    (h : P w) (child parent input : String) : P (w.connect ids child parent input).1 := by
  have hunplug : ∀ (w : Workspace) child, P w → P (w.unplug ids child).1 :=
    fun _ child h => unplug_keeps hreport hdetach h child
  have hcleared : P ((w.vacate ids child).1.evict ids child (w.canvas.target? parent input)).1 :=
    evict_keeps hunplug (vacate_keeps hunplug h child) child _
  rcases connect_cases ids w child parent input with
    ⟨fault, -, he⟩ | ⟨-, ⟨fault, -, he⟩ | ⟨-, he⟩⟩
  · rw [he]
    exact h
  · rw [he]
    exact hcleared
  · rw [he]
    exact hreport _ _ (hplug _ child parent input hcleared)

theorem coherent_connect (h : Coherent ids w.canvas)
    (child parent input : String) :
    Coherent ids (w.connect ids child parent input).1.canvas := by
  have hvacated := coherent_vacate h child
  have hcleared := coherent_evict hvacated child (w.canvas.target? parent input)
  rcases connect_cases ids w child parent input with
    ⟨fault, -, he⟩ | ⟨hfits, ⟨fault, -, he⟩ | ⟨hok, he⟩⟩
  · rw [he]
    exact h
  · rw [he]
    exact hcleared
  · rw [he]
    refine Coherent.amended ?_ (report_amended _ _)
    have hp := clear_pruned ids w child parent input
    have hfree := evict_free h.wired (vacate_pruned ids w child) hvacated.wired
      (vacate_ok ids w child).2 hok
    obtain ⟨check, f, slot, -, hf, hslot, hst, -⟩ := hfits.exist
    refine hcleared.plugIn ?_ ((hp.frame parent).trans hf) hslot hst hfits.apart ?_ hfree
    · rw [hp.block_isSome]
      exact hfits.isSome
    · exact (evict_pruned ids ..).plug_none (vacate_ok ids w child).2

end Workspace

end TypedBlocks
