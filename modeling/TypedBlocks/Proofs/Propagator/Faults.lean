import TypedBlocks.Proofs.Propagator.Touching

/-!
# What can stop a propagator

A rule looks for what it needs on the canvas, and where something is missing it stops with a fault.
On a canvas that is `Equipped` nothing is missing: inputs hold blocks that are there, attribute
getters have their dropdowns, loops have pickers, and what these name exists. No event, true or not,
can make a rule fail then (`respond_smooth`), but for one thing that is none of the canvas: the
domain may not have a collection whose attributes are to be offered. The rule that finds that out
has changed nothing yet.
-/

namespace TypedBlocks

open Canvas Definition

namespace Outcome

/-- Nothing has failed, and nothing was noted but connections that were undone. Rules come to this
on a canvas that is equipped, but for collections that the domain does not have. -/
structure Smooth (o : Outcome) : Prop where
  fault : o.fault = none
  notices : ∀ n ∈ o.notices, ∃ parent input reason, n = .rejected parent input reason

theorem smooth_unchanged (c : Canvas) : (unchanged c).Smooth := ⟨rfl, nofun⟩

end Outcome

namespace Canvas

variable {c c' : Canvas}

/-- All that rules look for is there: dropdowns on attribute getters, and on loops pickers that name
a variable. -/
structure Equipped (c : Canvas) : Prop where
  wired : Wired c
  /-- attribute getters have a dropdown of attributes -/
  dropdowns : ∀ id f, c.frame? id = some f → f.type = getAttributeType →
    f.hasField attributeField = true
  /-- no variable has an empty id -/
  identified : ∀ v ∈ c.vars, v.id ≠ ""
  /-- loops name variables -/
  named : ∀ loop f, c.frame? loop = some f → f.type = foreachType → (c.loopVariable? loop).isSome

namespace Equipped

theorem dropdown (h : Equipped c) {getter : String} {f : Frame} (hf : c.frame? getter = some f)
    (ht : f.type = getAttributeType) : (c.field? getter attributeField).isSome := by
  rw [field?_isSome hf]
  exact h.dropdowns getter f hf ht

theorem touch (h : Equipped c) (ht : Touch c c') : Equipped c' where
  wired := ht.wired h.wired
  dropdowns id f hf hgetter := h.dropdowns id f ((ht.pruned.frame id).symm.trans hf) hgetter
  identified v hv := by
    have hid : v.id ∈ c'.vars.map (·.id) := List.mem_map_of_mem hv
    rw [ht.ids] at hid
    obtain ⟨old, hold, he⟩ := List.mem_map.mp hid
    exact he ▸ h.identified old hold
  named loop f hf hloop := ht.named (h.named loop f ((ht.pruned.frame loop).symm.trans hf) hloop)

theorem touched (h : Equipped c) (ht : Touched c c') : Equipped c' := by
  induction ht with
  | refl => exact h
  | tail _ htouch ih => exact ih.touch htouch

end Equipped

end Canvas

namespace Propagator

variable {p : Propagator} {c : Canvas}

/-! ## Connections -/

/-- What an input holds is there, and an input that holds nothing is left as it is. -/
theorem expel_smooth (hw : Wired c) (parent input : String) (reason : Mismatch) :
    (expel c parent input reason).Smooth := by
  rw [expel_eq hw]
  refine ⟨rfl, fun n hn => ?_⟩
  rw [List.mem_singleton.mp hn]
  exact ⟨parent, input, reason, rfl⟩

theorem orientLink_smooth (hw : Wired c) {link : String} {f : Frame}
    (hf : c.frame? link = some f) (collection : String) :
    (orientLink c link f.type collection).Smooth := by
  rw [orientLink]
  split
  · rw [setOutputTag_eq_ok (isSome_of_frame? hf)]
    exact Outcome.smooth_unchanged _
  · exact expel_smooth hw ..

/-- A loop has a picker, and there is the variable that it names. So neither reading the picker nor
retyping the variable can fail. -/
theorem bindLoop_smooth (h : Equipped c) {loop : String} {f : Frame}
    (hf : c.frame? loop = some f) (hloop : f.type = foreachType) (tag : Tag) :
    (bindLoop c loop tag).Smooth := by
  unfold bindLoop
  split
  · obtain ⟨field, v, hfield, hne, hv⟩ :=
      field_of_loopVariable h.identified (h.named loop f hf hloop)
    simp only [hfield, if_neg hne, retypeVariable, hv]
    exact Outcome.smooth_unchanged _
  · exact expel_smooth h.wired ..

/-- A dropdown that is there is written, first its entries and then its value. -/
theorem setDropdown_smooth {id field : String} (hfield : (c.field? id field).isSome)
    (choices : List Choice) (value : String) :
    ((Outcome.ofResult c (c.setChoices id field choices)).andThen fun c =>
      .ofResult c (c.setField id field value)).Smooth := by
  rcases c.setChoices_setField id field choices value with ⟨-, c', hset, hset'⟩ | ⟨hnone, -⟩
  · simp only [hset, Outcome.ofResult, Outcome.andThen, hset']
    exact Outcome.smooth_unchanged _
  · rw [hnone] at hfield
    cases hfield

/-- An attribute getter is filled, or the domain does not have the collection. In the latter case
that is the only fault, and the canvas stays as it is. -/
theorem fillAttributes_smooth (h : Equipped c) {getter : String} {f : Frame}
    (hf : c.frame? getter = some f) (hgetter : f.type = getAttributeType) (collection : String) :
    (p.fillAttributes c getter collection).Smooth ∨
    (p.domain.collection? collection = .error (.noCollection collection) ∧
      p.fillAttributes c getter collection =
        { canvas := c, fault := some (.noCollection collection) }) := by
  have hfield := h.dropdown hf hgetter
  rw [fillAttributes]
  cases hfound : p.domain.collection? collection with
  | error fault =>
    obtain rfl : fault = .noCollection collection := by
      rw [Domain.collection?] at hfound
      split at hfound
      · cases hfound
      · cases hfound
        rfl
    exact .inr ⟨rfl, rfl⟩
  | ok found =>
    left
    dsimp only
    split
    · exact Outcome.smooth_unchanged c
    · exact setDropdown_smooth hfield ..

/-! ## Disconnections -/

/-- What is left is left in order, if it is an attribute getter. -/
theorem clearAttributes_smooth (h : Equipped c) {getter : String}
    (hgetter : (c.frame? getter).map Frame.type = some getAttributeType) :
    (clearAttributes c getter).Smooth := by
  obtain ⟨f, hf, htype⟩ := Option.map_eq_some_iff.mp hgetter
  have hfield := h.dropdown hf htype
  rw [clearAttributes]
  split
  · exact Outcome.smooth_unchanged c
  · obtain ⟨field, hget⟩ := Option.isSome_iff_exists.mp hfield
    simp only [hget]
    split
    · exact Outcome.smooth_unchanged c
    · exact setDropdown_smooth hfield ..

/-- Unless a document has left a link, nothing more can go wrong than with a dropdown. -/
theorem disconnectWith_smooth (h : Equipped c) (next : Canvas → String → String → Outcome)
    {child parent : String}
    (hplain : (c.tag child).isDocument = true → ∀ f, c.frame? parent = some f →
      Tag.isLinkType f.type = false) :
    (p.disconnectWith next c child parent).Smooth := by
  rw [disconnectWith_of_other next hplain]
  split
  · rename_i hgetter
    exact clearAttributes_smooth h hgetter
  · exact Outcome.smooth_unchanged c

theorem afterDisconnect_smooth (h : Equipped c) (child parent : String) :
    (p.afterDisconnect c child parent).Smooth := by
  by_cases hlink : (c.tag child).isDocument = true ∧ ∃ f, c.frame? parent = some f ∧
      Tag.isLinkType f.type = true
  · obtain ⟨hdoc, f, hf, hlink⟩ := hlink
    rw [afterDisconnect, disconnectWith_of_link _ hf hlink hdoc]
    by_cases hidle : (c.tag parent).isUnknown ∨ (c.target? parent linkInput).isSome
    · rw [releaseLink_of_idle _ hidle]
      exact Outcome.smooth_unchanged c
    · rw [not_or, Bool.not_eq_true, Option.not_isSome_iff_eq_none] at hidle
      rw [releaseLink_of_used _ hidle.1 hidle.2]
      split
      · exact Outcome.smooth_unchanged _
      · rename_i plug hp
        -- the holder of the link is left in turn, on a canvas that is equipped as well
        have hreset := h.touched (touched_reset hf hlink hp p.snapRadius p.snapRadius)
        refine disconnectWith_smooth hreset _ fun hdoc' => ?_
        rw [Canvas.tag_shift, Canvas.tag_detach, Canvas.tag_emit_self (isSome_of_frame? hf),
          Tag.ofText_text_unknown] at hdoc'
        cases hdoc'
  · refine disconnectWith_smooth h _ fun hdoc f hf => ?_
    rw [← Bool.not_eq_true]
    exact fun he => hlink ⟨hdoc, f, hf, he⟩

/-! ## Events -/

/-- **No event makes a rule fail**, except that the domain may not have a collection, and then
nothing has happened. -/
theorem respond_smooth (h : Equipped c) (event : Event) :
    (p.respond c event).Smooth ∨
    ∃ id, p.domain.collection? id = .error (.noCollection id) ∧
      p.respond c event = { canvas := c, fault := some (.noCollection id) } := by
  rw [respond]
  split
  · rename_i parent _
    rcases p.afterConnect_cases c event.block parent with he | ⟨f, hf, hcase⟩
    · rw [he]
      exact .inl (Outcome.smooth_unchanged c)
    · rcases hcase with ⟨collection, -, -, he⟩ | ⟨hloop, -, he⟩ | ⟨collection, hgetter, -, he⟩
      · rw [he]
        exact .inl (orientLink_smooth h.wired hf collection)
      · rw [he]
        exact .inl (bindLoop_smooth h hf hloop _)
      · rw [he]
        exact (fillAttributes_smooth h hf hgetter collection).imp_right fun hgone =>
          ⟨collection, hgone⟩
  · exact .inl (afterDisconnect_smooth h ..)
  · exact .inl (Outcome.smooth_unchanged c)

/-- **Handling an event notes warnings at most.** That something was thrown out, or that a dropdown
could not be filled, is reported to users and is no error. -/
theorem handle_notices (h : Equipped c) (event : Event) :
    ∀ n ∈ (p.handle c event).2, n.isError = false := by
  rcases p.respond_smooth h event with hsmooth | ⟨id, -, he⟩
  · have hhandle : (p.handle c event).2 = (p.respond c event).notices := by
      rw [handle, hsmooth.fault]
    rw [hhandle]
    intro n hn
    obtain ⟨parent, input, reason, rfl⟩ := hsmooth.notices n hn
    rfl
  · have hhandle : (p.handle c event).2 = [.skippedRefresh (.noCollection id)] := by
      rw [handle, he]
      rfl
    rw [hhandle]
    intro n hn
    rw [List.mem_singleton.mp hn]
    rfl

end Propagator

end TypedBlocks
