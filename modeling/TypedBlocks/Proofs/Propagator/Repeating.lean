import TypedBlocks.Proofs.Canvas.Replugging
import TypedBlocks.Proofs.Propagator.Amending

/-!
# Events that are handled again

Handling an event a second time changes nothing (`handle_again`), whatever the canvas and whatever
the event says: neither need be in order. What a rule writes, it finds when it is applied again, and
either writes it over itself or has disabled itself:

* what was thrown out of an input can be thrown out no more (`expel_again`);
* a link that was oriented is given the same output, or it has oriented itself and is no document
  any more (`orientLink_again`);
* variables are retyped and dropdowns are filled with what they show already (`bindLoop_again`,
  `fillAttributes_again`);
* a link that was reset is unknown, and is not reset, let alone moved, again
  (`afterDisconnect_of_unknown`).
-/

namespace TypedBlocks

open Canvas Definition

namespace Canvas

/-- A dropdown that was emptied is empty. -/
theorem cleared_cleared (c : Canvas) (id : String) : (c.cleared id).cleared id = c.cleared id := by
  by_cases h : (c.frame? id).map Frame.type = some getAttributeType ∧
      c.target? id documentInput = none
  · have hcleared : c.cleared id = c.write id attributeField ⟨notApplicable, placeholder⟩ :=
      if_pos h
    rw [hcleared, cleared, frame?_write, target?_write, if_pos h, write_write]
  · have hcleared : c.cleared id = c := if_neg h
    rw [hcleared, hcleared]

end Canvas

namespace Propagator

variable (p : Propagator) (c : Canvas)

/-! ## Connections -/

/-- What comes of throwing out what an input holds: nothing, or a connection is undone. -/
theorem expel_canvas_cases (parent input : String) (reason : Mismatch) :
    (expel c parent input reason).canvas = c ∨
    ∃ child plug, c.target? parent input = some child ∧ c.plug? child = some plug ∧
      (expel c parent input reason).canvas = c.detach child plug := by
  rw [expel]
  cases h : c.clearInput parent input with
  | ok c' =>
    obtain ⟨child, plug, ht, hp, rfl⟩ := clearInput_eq_ok_iff.mp h
    exact .inr ⟨child, plug, ht, hp, rfl⟩
  | error fault => cases fault <;> exact .inl rfl

/-- **What was thrown out is not thrown out again**: the input is empty now, or it names a block
that is plugged in nowhere. -/
theorem expel_again (parent input : String) (reason reason' : Mismatch) :
    (expel (expel c parent input reason).canvas parent input reason').canvas =
      (expel c parent input reason).canvas := by
  rcases expel_canvas_cases c parent input reason with hsame | ⟨child, plug, ht, hp, he⟩
  · -- the reason is for the notices only
    have hreason :
        (expel c parent input reason').canvas = (expel c parent input reason).canvas := by
      rw [expel, expel]
      cases c.clearInput parent input with
      | ok c' => rfl
      | error fault => cases fault <;> rfl
    rw [hsame, hreason, hsame]
  · rw [he]
    rcases expel_canvas_cases (c.detach child plug) parent input reason' with
      hsame | ⟨child', plug', ht', hp', -⟩
    · exact hsame
    · -- the input would still have to hold the child, but that is free
      rw [target?_detach] at ht'
      split at ht'
      · cases ht'
      · obtain rfl := Option.some.inj (ht.symm.trans ht')
        rw [plug?_detach, if_pos rfl] at hp'
        cases hp'

theorem frame?_expel (parent input : String) (reason : Mismatch) (id : String) :
    (expel c parent input reason).canvas.frame? id = c.frame? id := by
  rcases expel_canvas_cases c parent input reason with he | ⟨child, plug, -, -, he⟩
  · rw [he]
  · rw [he, frame?_detach]

theorem tag_expel (parent input : String) (reason : Mismatch) (id : String) :
    (expel c parent input reason).canvas.tag id = c.tag id := by
  rcases expel_canvas_cases c parent input reason with he | ⟨child, plug, -, -, he⟩
  · rw [he]
  · rw [he, tag_detach]

variable {p c} {child parent collection : String} {f : Frame}

/-- A link that was oriented by a document is not oriented otherwise by the same document. The
document may be the link itself, and then it is none any more. -/
theorem orientLink_again (hf : c.frame? parent = some f) (hlink : Tag.isLinkType f.type = true)
    (hdoc : c.tag child = .document collection) :
    (p.afterConnect (orientLink c parent f.type collection).canvas child parent).canvas =
      (orientLink c parent f.type collection).canvas := by
  rw [orientLink]
  cases hother : (Tag.ofText f.type).across? collection with
  | some other =>
    have hb := isSome_of_frame? hf
    simp only [setOutputTag_eq_ok hb, Outcome.ofResult]
    by_cases hself : child = parent
    · rw [afterConnect_of_plain ((frame?_emit ..).trans hf) hlink ?_]
      · rfl
      · rw [hself, tag_emit_self hb, Tag.ofText_text_documentArray]
        split <;> rfl
    · rw [afterConnect_of_link ((frame?_emit ..).trans hf) hlink
        ((tag_emit_ne hself _).trans hdoc) hother]
      exact emit_eq_self (output?_emit_self hb _)
  | none =>
    dsimp only
    rw [afterConnect_of_document ((frame?_expel ..).trans hf) hlink ((tag_expel ..).trans hdoc),
      orientLink, hother]
    exact expel_again ..

/-- A loop that was bound is bound to the same, and what was thrown out of it is gone: the second
time nothing is in the list that could be thrown out. -/
theorem bindLoop_again (hchild : (c.block? child).isSome) (hf : c.frame? parent = some f)
    (hloop : f.type = foreachType) (ht : c.target? parent listInput = some child) :
    (p.afterConnect (bindLoop c parent (c.tag child)).canvas child parent).canvas =
      (bindLoop c parent (c.tag child)).canvas := by
  cases hlist : (c.tag child).isDocumentArray with
  | true =>
    obtain ⟨collection, hdocs⟩ := Tag.isDocumentArray_iff.mp hlist
    -- a type does not change what the loop holds, so the loop is bound again
    have hbound : ∀ id type, p.afterConnect (c.retyped id type) child parent =
        bindLoop (c.retyped id type) parent (.documentArray collection) := by
      intro id type
      have hdocs : (c.retyped id type).tag child = .documentArray collection := hdocs
      rw [← hdocs]
      exact afterConnect_of_loop hchild hf hloop ht
    rw [hdocs, bindLoop_documentArray]
    cases hfield : c.field? parent variableField with
    | none =>
      rw [afterConnect_of_loop hchild hf hloop ht, hdocs, bindLoop_documentArray, hfield]
    | some field =>
      dsimp only
      split
      · rename_i hempty
        rw [afterConnect_of_loop hchild hf hloop ht, hdocs, bindLoop_documentArray, hfield]
        exact if_pos hempty
      · rename_i hne
        rw [hbound, bindLoop_documentArray, field?_retyped, hfield]
        dsimp only
        rw [if_neg hne, retyped, retyped, retype_retype]
  | false =>
    rw [bindLoop_eq_expel c parent hlist]
    have hf' := (frame?_expel c parent listInput (.notIterable (c.tag child)) parent).trans hf
    by_cases hkept : (expel c parent listInput (.notIterable (c.tag child))).canvas.target? parent
        listInput = some child
    · have hchild' : ((expel c parent listInput (.notIterable (c.tag child))).canvas.block?
          child).isSome := by
        rw [isSome_congr (frame?_expel ..)]
        exact hchild
      rw [afterConnect_of_loop hchild' hf' hloop hkept, tag_expel, bindLoop_eq_expel _ _ hlist]
      exact expel_again ..
    · rw [afterConnect_of_inert hf' (by rw [hloop]; decide) (by rw [hloop]; decide)
        fun hand => hkept hand.2]
      rfl

/-- A dropdown that was filled is filled with the same. -/
theorem fillAttributes_again (hf : c.frame? parent = some f)
    (hgetter : f.type = getAttributeType)
    (hcollection : (c.tag child).collection? = some collection) :
    (p.afterConnect (p.fillAttributes c parent collection).canvas child parent).canvas =
      (p.fillAttributes c parent collection).canvas := by
  have hchild : (c.block? child).isSome := isSome_of_tag fun he => by
    rw [he] at hcollection
    cases hcollection
  have hfill : ∀ c' : Canvas, c'.frame? child = c.frame? child → c'.frame? parent = some f →
      c'.tag child = c.tag child →
      p.afterConnect c' child parent = p.fillAttributes c' parent collection := by
    intro c' hframe hf' htag
    rw [afterConnect_of_getter ((isSome_congr hframe).trans hchild) hf' hgetter, htag, hcollection]
  rw [fillAttributes_canvas]
  cases hfound : p.domain.collection? collection with
  | error fault =>
    dsimp only
    rw [hfill c rfl hf rfl, fillAttributes_canvas, hfound]
  | ok found =>
    dsimp only
    split
    · rename_i hnone
      rw [hfill c rfl hf rfl, fillAttributes_canvas, hfound]
      exact if_pos hnone
    · rename_i hsome
      rw [hfill _ (frame?_write ..) ((frame?_write ..).trans hf) (tag_write ..),
        fillAttributes_canvas, hfound]
      dsimp only
      rw [if_neg hsome]
      refine write_eq_self fun g hg => ?_
      rw [field?_write, if_pos ⟨rfl, rfl⟩] at hg
      obtain ⟨old, -, rfl⟩ := Option.map_eq_some_iff.mp hg
      rfl

theorem afterConnect_again (p : Propagator) (c : Canvas) (child parent : String) :
    (p.afterConnect (p.afterConnect c child parent).canvas child parent).canvas =
      (p.afterConnect c child parent).canvas := by
  rcases p.afterConnect_cases c child parent with he | ⟨f, hf, hcase⟩
  · rw [he]
    exact congrArg Outcome.canvas he
  · rcases hcase with
      ⟨collection, hlink, hdoc, he⟩ | ⟨hloop, ht, he⟩ | ⟨collection, hgetter, hc, he⟩
    · rw [he]
      exact orientLink_again hf hlink hdoc
    · by_cases hchild : (c.block? child).isSome
      · rw [he]
        exact bindLoop_again hchild hf hloop ht
      · rw [Option.not_isSome_iff_eq_none] at hchild
        rw [afterConnect_of_gone (.inl hchild)]
        exact congrArg Outcome.canvas (afterConnect_of_gone (.inl hchild))
    · rw [he]
      exact fillAttributes_again hf hgetter hc

/-! ## Disconnections -/

/-- Nothing can leave a link of which nothing is known so that anything follows. -/
theorem afterDisconnect_of_unknown (p : Propagator) (hf : c.frame? parent = some f)
    (hlink : Tag.isLinkType f.type = true) (hunknown : (c.tag parent).isUnknown = true)
    (child : String) : (p.afterDisconnect c child parent).canvas = c := by
  cases hdoc : (c.tag child).isDocument with
  | true => exact afterDisconnect_of_idle hf hlink hdoc (.inl hunknown)
  | false =>
    rw [afterDisconnect_of_plain fun he => absurd (hdoc.symm.trans he) nofun]
    exact cleared_of_link hf hlink

theorem afterDisconnect_again (p : Propagator) (c : Canvas) (child parent : String) :
    (p.afterDisconnect (p.afterDisconnect c child parent).canvas child parent).canvas =
      (p.afterDisconnect c child parent).canvas := by
  by_cases hlink : (c.tag child).isDocument = true ∧ ∃ f, c.frame? parent = some f ∧
      Tag.isLinkType f.type = true
  · obtain ⟨hdoc, f, hf, hlink⟩ := hlink
    by_cases hidle : (c.tag parent).isUnknown ∨ (c.target? parent linkInput).isSome
    · rw [afterDisconnect_of_idle hf hlink hdoc hidle,
        afterDisconnect_of_idle hf hlink hdoc hidle]
    · rw [not_or, Bool.not_eq_true, Option.not_isSome_iff_eq_none] at hidle
      rw [afterDisconnect_of_link hf hlink hdoc hidle.1 hidle.2]
      -- the link is reset now, held or not, and a link that is unknown is left alone
      have hunknown : (c.emit parent .unknown).tag parent = .unknown := by
        rw [tag_emit_self (isSome_of_frame? hf), Tag.ofText_text_unknown]
      cases c.plug? parent with
      | none =>
        refine afterDisconnect_of_unknown p ((frame?_emit ..).trans hf) hlink ?_ child
        rw [hunknown]
        rfl
      | some plug =>
        refine afterDisconnect_of_unknown p (f := f) ?_ hlink ?_ child
        · rw [frame?_cleared, frame?_shift, frame?_detach, frame?_emit, hf]
        · rw [tag_cleared, tag_shift, tag_detach, hunknown]
          rfl
  · have hplain : (c.tag child).isDocument = true → ∀ f, c.frame? parent = some f →
        Tag.isLinkType f.type = false := by
      intro hdoc f hf
      rw [← Bool.not_eq_true]
      exact fun he => hlink ⟨hdoc, f, hf, he⟩
    rw [afterDisconnect_of_plain hplain, afterDisconnect_of_plain, cleared_cleared]
    rw [tag_cleared, frame?_cleared]
    exact hplain

/-! ## Events -/

/-- **Responding to an event again changes nothing**, on any canvas: each rule leaves behind what
makes it do nothing, or the same, the second time. -/
theorem respond_again (p : Propagator) (c : Canvas) (event : Event) :
    (p.respond (p.respond c event).canvas event).canvas = (p.respond c event).canvas := by
  rw [respond, respond]
  split
  · exact p.afterConnect_again c ..
  · exact p.afterDisconnect_again c ..
  · rfl

end Propagator

end TypedBlocks
