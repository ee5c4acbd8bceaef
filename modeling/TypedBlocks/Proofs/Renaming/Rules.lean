import TypedBlocks.Propagator
import TypedBlocks.Proofs.Renaming.Canvas

/-!
# Propagation with other ids

The rules of a propagator ask what blocks are, what they hold and which tags they put out, and
never what they are called. So a rule responds to the renamed event on the renamed canvas as it does
to the event on the canvas: `Propagator.handle_rename` says so for any event, whether it is true of
the canvas or not, and also of the fault that stops a rule halfway and of the notices. The
propagator stays as it is: its domain has ids of its own, and these are not renamed.
-/

namespace TypedBlocks

open Definition

/-- An event about other blocks; the workspace stays. -/
def Event.rename (ρ : String → String) (e : Event) : Event :=
  { e with
    block := ρ e.block
    newParent := e.newParent.map ρ
    oldParent := e.oldParent.map ρ }

/-- A notice about other blocks. -/
def Notice.rename (ρ : String → String) : Notice → Notice
  | .skippedVariable name fault => .skippedVariable name (fault.rename ρ)
  | .skippedLink name fault => .skippedLink name (fault.rename ρ)
  | .skippedRefresh fault => .skippedRefresh (fault.rename ρ)
  | .rejected parent input reason => .rejected (ρ parent) input reason
  | .failed event fault => .failed (event.rename ρ) (fault.rename ρ)
  | notice => notice

namespace Outcome

/-- An outcome with other ids. -/
def rename (ρ : Renaming) (o : Outcome) : Outcome where
  canvas := o.canvas.rename ρ
  notices := o.notices.map (Notice.rename ρ)
  fault := o.fault.map (Fault.rename ρ)

variable (ρ : Renaming)

theorem unchanged_rename (c : Canvas) : unchanged (c.rename ρ) = (unchanged c).rename ρ := rfl

/-- An operation that fails comes to its fault on the canvas that it failed on, whatever the ids
are. -/
theorem ofResult_rename (c : Canvas) (result : Except Fault Canvas) :
    ofResult (c.rename ρ) (ρ.result (Canvas.rename ρ) result) = (ofResult c result).rename ρ := by
  cases result <;> rfl

/-- Going on commutes if what comes first does, and what follows does on every canvas. -/
theorem andThen_rename {o o' : Outcome} {next next' : Canvas → Outcome} (ho : o' = o.rename ρ)
    (h : ∀ c, next' (c.rename ρ) = (next c).rename ρ) :
    o'.andThen next' = (o.andThen next).rename ρ := by
  subst ho
  obtain ⟨c, notices, fault⟩ := o
  cases fault with
  | some fault => rfl
  | none =>
    have hc := h c
    simp only [andThen, rename, Option.map_none, hc, List.map_append]

end Outcome

namespace Propagator

variable (ρ : Renaming) (p : Propagator) (c : Canvas)

/-! ## On a connection -/

/-- Throwing a block out of an input does not depend on the ids. -/
theorem expel_rename (parent input : String) (reason : Mismatch) :
    expel (c.rename ρ) (ρ parent) input reason = (expel c parent input reason).rename ρ := by
  rw [expel, expel, Canvas.clearInput_rename]
  cases c.clearInput parent input with
  | ok c => rfl
  | error fault => cases fault <;> rfl

/-- Giving a link its direction does not depend on the ids: it is decided by types. -/
theorem orientLink_rename (link blockType collection : String) :
    orientLink (c.rename ρ) (ρ link) blockType collection =
      (orientLink c link blockType collection).rename ρ := by
  rw [orientLink, orientLink]
  cases (Tag.ofText blockType).across? collection with
  | none => exact expel_rename ρ c link linkInput _
  | some other =>
    simp only [Canvas.setOutputTag_rename]
    exact Outcome.ofResult_rename ρ c _

/-- The id of a loop variable is empty on both sides or on neither. -/
theorem bindLoop_rename (loop : String) (tag : Tag) :
    bindLoop (c.rename ρ) (ρ loop) tag = (bindLoop c loop tag).rename ρ := by
  cases tag with
  | documentArray collection =>
    rw [bindLoop, bindLoop, Canvas.field?_rename]
    cases c.field? loop variableField with
    | none => rfl
    | some field =>
      simp only [Option.map_some, Field.rename_variableField, Renaming.eq_empty_iff,
        Canvas.retypeVariable_rename, Outcome.ofResult_rename]
      split <;> rfl
  | _ => exact expel_rename ρ c loop listInput _

/-- The dropdown of an attribute getter holds no ids. -/
theorem setDropdown_rename (getter : String) (choices : List Choice) (value : String) :
    ((Outcome.ofResult (c.rename ρ)
        ((c.rename ρ).setChoices (ρ getter) attributeField choices)).andThen
      fun c => .ofResult c (c.setField (ρ getter) attributeField value)) =
    ((Outcome.ofResult c (c.setChoices getter attributeField choices)).andThen
      fun c => .ofResult c (c.setField getter attributeField value)).rename ρ := by
  rw [Canvas.setChoices_rename]
  refine Outcome.andThen_rename ρ (Outcome.ofResult_rename ρ c _) fun c => ?_
  rw [c.setField_rename ρ _ (by decide), Outcome.ofResult_rename]

/-- The ids of collections are not renamed, so neither is the fault that there is none. -/
theorem fillAttributes_rename (getter collection : String) :
    p.fillAttributes (c.rename ρ) (ρ getter) collection =
      (p.fillAttributes c getter collection).rename ρ := by
  rw [fillAttributes, fillAttributes, Domain.collection?]
  cases p.domain.collections.find? (·.id = collection) with
  | none => rfl
  | some found =>
    dsimp only
    split
    · rfl
    · exact setDropdown_rename ρ c getter _ _

/-- **The rule for connections does not depend on the ids.** -/
theorem afterConnect_rename (child parent : String) :
    p.afterConnect (c.rename ρ) (ρ child) (ρ parent) =
      (p.afterConnect c child parent).rename ρ := by
  rw [afterConnect, afterConnect, Canvas.block?_rename, Canvas.block?_rename]
  cases c.block? child with
  | none => rfl
  | some childBlock =>
    cases c.block? parent with
    | none => rfl
    | some parentBlock =>
      have hlist : (c.rename ρ).target? (ρ parent) listInput = some (ρ child) ↔
          c.target? parent listInput = some child := by
        rw [Canvas.target?_rename, ← Option.map_some, Option.map_inj_right fun _ _ => ρ.eq_iff.mp]
      simp only [Option.map_some, Block.type_rename, Block.tag_rename]
      refine Outcome.andThen_rename ρ ?_ fun c => ?_
      · -- the rules ask for the type of the parent, which is no id
        rw [apply_ite (Outcome.rename ρ), apply_ite (Outcome.rename ρ)]
        refine if_congr Iff.rfl ?_ (if_congr (and_congr_right' hlist) ?_ rfl)
        · cases childBlock.tag with
          | document collection => exact orientLink_rename ρ c parent _ collection
          | _ => rfl
        · exact bindLoop_rename ρ c parent _
      · rw [apply_ite (Outcome.rename ρ)]
        refine if_congr Iff.rfl ?_ rfl
        cases childBlock.tag.collection? with
        | none => rfl
        | some collection => exact p.fillAttributes_rename ρ c parent collection

/-! ## On a disconnection -/

theorem clearAttributes_rename (getter : String) :
    clearAttributes (c.rename ρ) (ρ getter) = (clearAttributes c getter).rename ρ := by
  rw [clearAttributes, clearAttributes, Canvas.target?_rename, Option.isSome_map,
    Canvas.field?_rename]
  split
  · rfl
  · cases c.field? getter attributeField with
    | none => rfl
    | some field =>
      have hfield : attributeField ≠ variableField := by decide
      simp only [Option.map_some, Field.rename_of_ne hfield]
      split
      · rfl
      · exact setDropdown_rename ρ c getter _ _

section

variable {ρ} {next next' : Canvas → String → String → Outcome}

/-- Releasing a link does not depend on the ids, if what comes `next` does not. -/
theorem releaseLink_rename
    (h : ∀ c link holder, next' (c.rename ρ) (ρ link) (ρ holder) = (next c link holder).rename ρ)
    (link : String) :
    p.releaseLink next' (c.rename ρ) (ρ link) = (p.releaseLink next c link).rename ρ := by
  rw [releaseLink, releaseLink, Canvas.tag_rename, Canvas.target?_rename, Option.isSome_map,
    Canvas.holder?_rename, Canvas.setOutputTag_rename]
  split
  · rfl
  · refine Outcome.andThen_rename ρ (Outcome.ofResult_rename ρ c _) fun c1 => ?_
    rw [Canvas.pullOut_rename]
    cases c1.pullOut link with
    | error fault => cases fault <;> rfl
    | ok c2 =>
      simp only [Renaming.result_ok, Canvas.move_rename]
      refine Outcome.andThen_rename ρ (Outcome.ofResult_rename ρ c2 _) fun c3 => ?_
      cases c.holder? link with
      | none => rfl
      | some holder => exact h c3 link holder

theorem disconnectWith_rename
    (h : ∀ c link holder, next' (c.rename ρ) (ρ link) (ρ holder) = (next c link holder).rename ρ)
    (child parent : String) :
    p.disconnectWith next' (c.rename ρ) (ρ child) (ρ parent) =
      (p.disconnectWith next c child parent).rename ρ := by
  rw [disconnectWith, disconnectWith, Canvas.block?_rename, Canvas.tag_rename]
  cases c.block? parent with
  | none => rfl
  | some parentBlock =>
    simp only [Option.map_some, Block.type_rename]
    refine Outcome.andThen_rename ρ ?_ fun c => ?_
    · rw [apply_ite (Outcome.rename ρ)]
      exact if_congr Iff.rfl (p.releaseLink_rename c h parent) rfl
    · rw [apply_ite (Outcome.rename ρ)]
      exact if_congr Iff.rfl (clearAttributes_rename ρ c parent) rfl

end

/-- **The rule for disconnections does not depend on the ids**, nor does its run for the holder of a
link. -/
theorem afterDisconnect_rename (child parent : String) :
    p.afterDisconnect (c.rename ρ) (ρ child) (ρ parent) =
      (p.afterDisconnect c child parent).rename ρ :=
  p.disconnectWith_rename c
    (fun c => p.disconnectWith_rename c fun c _ _ => Outcome.unchanged_rename ρ c) child parent

/-! ## Events -/

/-- **What a propagator makes of an event does not depend on the ids**, so it is the same for events
that differ in them only. -/
theorem respond_rename (e : Event) :
    p.respond (c.rename ρ) (e.rename ρ) = (p.respond c e).rename ρ := by
  obtain ⟨block, newParent, oldParent, workspace⟩ := e
  cases newParent with
  | some parent => exact p.afterConnect_rename ρ c block parent
  | none =>
    cases oldParent with
    | some parent => exact p.afterDisconnect_rename ρ c block parent
    | none => rfl

/-- **A propagator handles the renamed event on the renamed canvas as it handles the event**: the
canvas that results and the notices are those with other ids. -/
theorem handle_rename (e : Event) :
    p.handle (c.rename ρ) (e.rename ρ) =
      Prod.map (Canvas.rename ρ) (List.map (Notice.rename ρ)) (p.handle c e) := by
  rw [handle, handle, respond_rename]
  obtain ⟨c', notices, fault⟩ := p.respond c e
  simp only [Outcome.rename]
  cases fault with
  | none => rfl
  | some fault => cases fault <;> simp [Fault.rename, Notice.rename, Prod.map]

end Propagator

end TypedBlocks
