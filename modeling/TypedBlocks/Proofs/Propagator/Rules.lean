import TypedBlocks.Proofs.Canvas.Amended
import TypedBlocks.Proofs.Canvas.Variables
import TypedBlocks.Proofs.Canvas.Wiring
import TypedBlocks.Proofs.TagText
import TypedBlocks.Propagator

/-!
# What the rules come to

Each rule of the propagator, as an equation. Which rule applies, and what it hands on to, is said of
whole outcomes, with their faults and notices. What a rule writes is said of canvases only: one that
fails has changed nothing, since the rules of more than one amendment fail at the first or not at
all.

* A disconnection empties the dropdown of the attribute getter that was left (`cleared`), or resets
  the link that was left: its output is unknown, and if it was held, it is pulled out, moved, and
  its holder's dropdown is emptied in turn. Nothing else happens: `afterDisconnect_of_plain`,
  `afterDisconnect_of_link`.
* A connection writes the output of a link, the dropdown of an attribute getter, or what a loop is
  bound to: `afterConnect_of_link`, `afterConnect_of_getter`, `afterConnect_of_loop`.

`afterDisconnect_cases` and `afterConnect_cases` say all that can follow from either.
-/

namespace TypedBlocks

open Definition

/-- No type is that of a link and of the attribute getter, so the two rules never concur. -/
theorem Propagator.ne_getAttributeType_of_link {blockType : String}
    (h : Tag.isLinkType blockType = true) : blockType ≠ getAttributeType := by
  rintro rfl
  revert h
  decide

namespace Canvas

/-- The canvas with the placeholder in a dropdown, if that belongs to an attribute getter which
holds nothing. -/
def cleared (c : Canvas) (id : String) : Canvas :=
  if (c.frame? id).map Frame.type = some getAttributeType ∧ c.target? id documentInput = none then
    c.write id attributeField ⟨notApplicable, placeholder⟩
  else c

/-- Links have no dropdown. -/
theorem cleared_of_link {c : Canvas} {id : String} {f : Frame} (hf : c.frame? id = some f)
    (hlink : Tag.isLinkType f.type = true) : c.cleared id = c := by
  refine if_neg fun h => ?_
  rw [hf, Option.map_some, Option.some.injEq] at h
  exact Propagator.ne_getAttributeType_of_link hlink h.1

/-- Clearing an attribute getter changes a field, and no output. -/
theorem output?_cleared (c : Canvas) (id other : String) :
    (c.cleared id).output? other = c.output? other := by
  rw [cleared]
  split
  · exact output?_write ..
  · rfl

theorem frame?_cleared (c : Canvas) (id other : String) :
    (c.cleared id).frame? other = c.frame? other := by
  rw [cleared]
  split
  · exact frame?_write ..
  · rfl

theorem tag_cleared (c : Canvas) (id other : String) : (c.cleared id).tag other = c.tag other :=
  tag_congr (output?_cleared ..)

/-- Clearing an attribute getter pulls nothing out. -/
theorem plug?_cleared (c : Canvas) (id other : String) :
    (c.cleared id).plug? other = c.plug? other := by
  rw [cleared]
  split
  · exact plug?_write ..
  · rfl

theorem target?_cleared (c : Canvas) (id other input : String) :
    (c.cleared id).target? other input = c.target? other input := by
  rw [cleared]
  split
  · exact target?_write ..
  · rfl

theorem vars_cleared (c : Canvas) (id : String) : (c.cleared id).vars = c.vars := by
  rw [cleared]
  split <;> rfl

/-- No field changes but a dropdown of attributes. -/
theorem field?_cleared (c : Canvas) (id other : String) {field : String}
    (hne : field ≠ attributeField) : (c.cleared id).field? other field = c.field? other field := by
  rw [cleared]
  split
  · rw [field?_write, if_neg fun hand => hne hand.2]
  · rfl

end Canvas

namespace Outcome

/-- Going on to nothing is stopping. -/
theorem andThen_unchanged (o : Outcome) : o.andThen unchanged = o := by
  obtain ⟨canvas, notices, fault⟩ := o
  cases fault with
  | some fault => rfl
  | none => simp only [andThen, unchanged, List.append_nil]

theorem unchanged_andThen (c : Canvas) (next : Canvas → Outcome) :
    (unchanged c).andThen next = next c := rfl

end Outcome

namespace Propagator

variable (p : Propagator) (c : Canvas)

/-! ## Dropdowns -/

/-- Writing both parts of a dropdown writes the field, or there is none and nothing is written. -/
theorem setDropdown_canvas (id field : String) (choices : List Choice) (value : String) :
    ((Outcome.ofResult c (c.setChoices id field choices)).andThen fun c =>
      .ofResult c (c.setField id field value)).canvas = c.write id field ⟨value, choices⟩ := by
  rcases c.setChoices_setField id field choices value with
    ⟨-, c', hchoices, hvalue⟩ | ⟨-, hwrite, fault, hfault⟩
  · simp only [hchoices, Outcome.ofResult, Outcome.andThen, hvalue]
  · simp only [hfault, Outcome.ofResult, Outcome.andThen, hwrite]

/-- A dropdown that shows the placeholder already is not written again, which makes no
difference. -/
theorem clearAttributes_canvas (id : String) :
    (clearAttributes c id).canvas =
      if c.target? id documentInput = none then
        c.write id attributeField ⟨notApplicable, placeholder⟩
      else c := by
  rw [clearAttributes]
  cases ht : c.target? id documentInput with
  | some held => rfl
  | none =>
    simp only [Option.isSome_none, Bool.false_eq_true, if_false, if_true]
    cases hf : c.field? id attributeField with
    | none =>
      refine (Canvas.write_eq_self fun g hg => ?_).symm
      rw [hf] at hg
      cases hg
    | some field =>
      dsimp only
      split
      · rename_i hreset
        refine (Canvas.write_eq_self fun g hg => ?_).symm
        have he : field = g := Option.some.inj (hf.symm.trans hg)
        rw [← he, ← hreset.1, ← hreset.2]
      · exact setDropdown_canvas ..

/-- What filling the attributes in comes to on the canvas: nothing if the domain does not have the
collection, or has it without attributes, and otherwise one field that is written. -/
theorem fillAttributes_canvas (id collection : String) :
    (p.fillAttributes c id collection).canvas =
      match p.domain.collection? collection with
      | .error _ => c
      | .ok found =>
        if found.choices.isEmpty then c
        else c.write id attributeField ⟨found.defaultChoice, found.choices⟩ := by
  rw [fillAttributes]
  cases p.domain.collection? collection with
  | error fault => rfl
  | ok found =>
    dsimp only
    split
    · rfl
    · exact setDropdown_canvas ..

/-! ## Disconnections -/

variable {p c}

/-- Unless a document has left a link, only an attribute getter is concerned. -/
theorem disconnectWith_of_other (next : Canvas → String → String → Outcome)
    {child parent : String}
    (h : (c.tag child).isDocument = true → ∀ f, c.frame? parent = some f →
      Tag.isLinkType f.type = false) :
    p.disconnectWith next c child parent =
      if (c.frame? parent).map Frame.type = some getAttributeType then clearAttributes c parent
      else .unchanged c := by
  rw [disconnectWith, Canvas.frame?]
  cases hb : c.block? parent with
  | none => rfl
  | some b =>
    have hnot : ¬((c.tag child).isDocument ∧ Tag.isLinkType b.type) := by
      rintro ⟨hdoc, hlink⟩
      have hplain : Tag.isLinkType b.type = false := h hdoc b.frame (Canvas.frame?_of_block? hb)
      rw [hplain] at hlink
      cases hlink
    simp only [if_neg hnot, Outcome.unchanged_andThen, Option.map_some, Option.some.injEq,
      Block.frame]

/-- Unless a document has left a link, only the dropdown of what it left is emptied. -/
theorem disconnectWith_of_plain (next : Canvas → String → String → Outcome)
    {child parent : String}
    (h : (c.tag child).isDocument = true → ∀ f, c.frame? parent = some f →
      Tag.isLinkType f.type = false) :
    (p.disconnectWith next c child parent).canvas = c.cleared parent := by
  rw [disconnectWith_of_other next h, Canvas.cleared]
  by_cases ht : (c.frame? parent).map Frame.type = some getAttributeType
  · simp only [ht, true_and, if_true, clearAttributes_canvas]
  · simp only [ht, false_and, if_false, Outcome.unchanged]

/-- A document that leaves a link: the link is reset, and nothing more is done to it. It has no
dropdown to clear. -/
theorem disconnectWith_of_link (next : Canvas → String → String → Outcome)
    {child parent : String} {f : Frame} (hf : c.frame? parent = some f)
    (hlink : Tag.isLinkType f.type = true) (hdoc : (c.tag child).isDocument = true) :
    p.disconnectWith next c child parent = p.releaseLink next c parent := by
  obtain ⟨b, hb, rfl⟩ := Option.map_eq_some_iff.mp hf
  have hlink : Tag.isLinkType b.type = true := hlink
  have hne : b.type ≠ getAttributeType := ne_getAttributeType_of_link hlink
  have hb : c.block? parent = some b := hb
  simp only [disconnectWith, hb, if_pos (And.intro hdoc hlink), if_neg hne]
  exact Outcome.andThen_unchanged _

/-- A link is left alone if its output is unknown anyway, or something else is plugged into it by
now. -/
theorem releaseLink_of_idle (next : Canvas → String → String → Outcome) {link : String}
    (h : (c.tag link).isUnknown ∨ (c.target? link linkInput).isSome) :
    p.releaseLink next c link = .unchanged c := by
  rw [releaseLink, if_pos h]

/-- A link in use is reset: its output is unknown, and it leaves what holds it. -/
theorem releaseLink_of_used (next : Canvas → String → String → Outcome) {link : String}
    (htag : (c.tag link).isUnknown = false) (ht : c.target? link linkInput = none) :
    p.releaseLink next c link =
      match c.plug? link with
      | none => .unchanged (c.emit link .unknown)
      | some plug =>
        next (((c.emit link .unknown).detach link plug).shift link p.snapRadius p.snapRadius)
          link plug.block := by
  have hb : (c.block? link).isSome := Canvas.isSome_of_tag fun he => by
    rw [he] at htag
    cases htag
  have hbusy : ¬((c.tag link).isUnknown ∨ (c.target? link linkInput).isSome) := by
    simp [htag, ht]
  simp only [releaseLink, if_neg hbusy, Canvas.setOutputTag_eq_ok hb, Outcome.ofResult,
    Outcome.andThen]
  have hb' : ((c.emit link .unknown).block? link).isSome := by
    rw [Canvas.isSome_congr (Canvas.frame?_emit ..)]
    exact hb
  cases hp : c.plug? link with
  | none =>
    have hfree : (c.emit link .unknown).plug? link = none := by rw [Canvas.plug?_emit, hp]
    have hpull : (c.emit link .unknown).pullOut link = .error (.unplugged link) := by
      rw [Canvas.pullOut, Canvas.release_of_plug?_eq_none hb' hfree]
      rfl
    simp only [hpull]
    rfl
  | some plug =>
    have hheld : (c.emit link .unknown).plug? link = some plug := by rw [Canvas.plug?_emit, hp]
    have hpull := Canvas.pullOut_eq_ok_iff.mpr ⟨plug, hheld, rfl⟩
    have hmove : ((c.emit link .unknown).detach link plug).move link p.snapRadius p.snapRadius =
        .ok (((c.emit link .unknown).detach link plug).shift link p.snapRadius p.snapRadius) := by
      refine Canvas.move_eq_ok_iff.mpr ⟨?_, rfl⟩
      rw [Canvas.isSome_congr (Canvas.frame?_detach ..)]
      exact hb'
    simp only [hpull, hmove, Canvas.holder?, hp, Option.map_some]
    rfl

/-- Unless a document was pulled out of a link, a disconnection comes to clearing the parent, which
does nothing to what is no attribute getter. -/
theorem afterDisconnect_of_plain {child parent : String}
    (h : (c.tag child).isDocument = true → ∀ f, c.frame? parent = some f →
      Tag.isLinkType f.type = false) :
    (p.afterDisconnect c child parent).canvas = c.cleared parent :=
  disconnectWith_of_plain _ h

/-- **A document has left a link.** The link is reset; if it was held, its holder is left as by any
other disconnection, but resets nothing, for the link is no document. -/
theorem afterDisconnect_of_link {child parent : String} {f : Frame}
    (hf : c.frame? parent = some f) (hlink : Tag.isLinkType f.type = true)
    (hdoc : (c.tag child).isDocument = true) (htag : (c.tag parent).isUnknown = false)
    (ht : c.target? parent linkInput = none) :
    (p.afterDisconnect c child parent).canvas =
      match c.plug? parent with
      | none => c.emit parent .unknown
      | some plug =>
        (((c.emit parent .unknown).detach parent plug).shift parent p.snapRadius
          p.snapRadius).cleared plug.block := by
  rw [afterDisconnect, disconnectWith_of_link _ hf hlink hdoc, releaseLink_of_used _ htag ht]
  cases c.plug? parent with
  | none => rfl
  | some plug =>
    -- the link is unknown by now, so for its holder no document has left
    refine disconnectWith_of_plain _ fun hdoc' => ?_
    rw [Canvas.tag_shift, Canvas.tag_detach, Canvas.tag_emit_self (Canvas.isSome_of_frame? hf),
      Tag.ofText_text_unknown] at hdoc'
    cases hdoc'

/-- A document has left a link that is in use no longer, or again. -/
theorem afterDisconnect_of_idle {child parent : String} {f : Frame}
    (hf : c.frame? parent = some f) (hlink : Tag.isLinkType f.type = true)
    (hdoc : (c.tag child).isDocument = true)
    (h : (c.tag parent).isUnknown ∨ (c.target? parent linkInput).isSome) :
    (p.afterDisconnect c child parent).canvas = c := by
  rw [afterDisconnect, disconnectWith_of_link _ hf hlink hdoc, releaseLink_of_idle _ h]
  rfl

/-- **All that can follow from a disconnection**: nothing, or the dropdown of what was left is
emptied, or what was left is a link and is reset, held by another block or not. -/
theorem afterDisconnect_cases (p : Propagator) (c : Canvas) (child parent : String) :
    (p.afterDisconnect c child parent).canvas = c ∨
    (p.afterDisconnect c child parent).canvas = c.cleared parent ∨
    ∃ f, c.frame? parent = some f ∧ Tag.isLinkType f.type = true ∧
      ((c.plug? parent = none ∧
          (p.afterDisconnect c child parent).canvas = c.emit parent .unknown) ∨
        ∃ plug, c.plug? parent = some plug ∧ (p.afterDisconnect c child parent).canvas =
          (((c.emit parent .unknown).detach parent plug).shift parent p.snapRadius
            p.snapRadius).cleared plug.block) := by
  by_cases hlink : (c.tag child).isDocument = true ∧ ∃ f, c.frame? parent = some f ∧
      Tag.isLinkType f.type = true
  · obtain ⟨hdoc, f, hf, hlink⟩ := hlink
    by_cases hidle : (c.tag parent).isUnknown ∨ (c.target? parent linkInput).isSome
    · exact .inl (afterDisconnect_of_idle hf hlink hdoc hidle)
    · rw [not_or, Bool.not_eq_true, Option.not_isSome_iff_eq_none] at hidle
      refine .inr (.inr ⟨f, hf, hlink, ?_⟩)
      rw [afterDisconnect_of_link hf hlink hdoc hidle.1 hidle.2]
      cases c.plug? parent with
      | none => exact .inl ⟨rfl, rfl⟩
      | some plug => exact .inr ⟨plug, rfl, rfl⟩
  · refine .inr (.inl (afterDisconnect_of_plain fun hdoc f hf => ?_))
    rw [← Bool.not_eq_true]
    exact fun he => hlink ⟨hdoc, f, hf, he⟩

/-- Pulling a block out changes no output but that of the block that it was pulled out of, and no
connection but the one of that block. -/
theorem afterDisconnect_frame (p : Propagator) (c : Canvas) (child : String)
    {parent other : String} (hne : other ≠ parent) :
    (p.afterDisconnect c child parent).canvas.output? other = c.output? other ∧
      (p.afterDisconnect c child parent).canvas.plug? other = c.plug? other := by
  rcases p.afterDisconnect_cases c child parent with
    he | he | ⟨-, -, -, ⟨-, he⟩ | ⟨plug, -, he⟩⟩
  · rw [he]
    exact ⟨rfl, rfl⟩
  · rw [he]
    exact ⟨Canvas.output?_cleared .., Canvas.plug?_cleared ..⟩
  · rw [he, Canvas.output?_emit, if_neg hne]
    exact ⟨rfl, Canvas.plug?_emit ..⟩
  · rw [he]
    constructor
    · rw [Canvas.output?_cleared, Canvas.output?_shift, Canvas.output?_detach,
        Canvas.output?_emit, if_neg hne]
    · rw [Canvas.plug?_cleared, Canvas.plug?_shift, Canvas.plug?_detach, if_neg hne,
        Canvas.plug?_emit]

/-- Pulling a block out changes no output of a block that is still plugged in afterwards. Only a
link that is reset changes its output, and that leaves what holds it. -/
theorem output?_afterDisconnect (p : Propagator) (c : Canvas) (child parent : String)
    {other : String} (hp : (p.afterDisconnect c child parent).canvas.plug? other ≠ none) :
    (p.afterDisconnect c child parent).canvas.output? other = c.output? other := by
  by_cases hne : other = parent
  · subst hne
    rcases p.afterDisconnect_cases c child other with
      he | he | ⟨-, -, -, ⟨hfree, he⟩ | ⟨plug, -, he⟩⟩
    · rw [he]
    · rw [he]
      exact Canvas.output?_cleared ..
    · rw [he, Canvas.plug?_emit] at hp
      exact absurd hfree hp
    · rw [he, Canvas.plug?_cleared, Canvas.plug?_shift, Canvas.plug?_detach, if_pos rfl] at hp
      exact absurd rfl hp
  · exact (p.afterDisconnect_frame c child hne).1

/-- Pulling a block out touches no variable. -/
theorem vars_afterDisconnect (p : Propagator) (c : Canvas) (child parent : String) :
    (p.afterDisconnect c child parent).canvas.vars = c.vars := by
  rcases p.afterDisconnect_cases c child parent with
    he | he | ⟨-, -, -, ⟨-, he⟩ | ⟨plug, -, he⟩⟩
  · rw [he]
  · rw [he, Canvas.vars_cleared]
  · rw [he]
    rfl
  · rw [he, Canvas.vars_cleared]
    rfl

/-- Pulling a block out touches no field but the dropdowns of attribute getters. -/
theorem field?_afterDisconnect (p : Propagator) (c : Canvas) (child parent other : String)
    {field : String} (hne : field ≠ attributeField) :
    (p.afterDisconnect c child parent).canvas.field? other field = c.field? other field := by
  rcases p.afterDisconnect_cases c child parent with
    he | he | ⟨-, -, -, ⟨-, he⟩ | ⟨plug, -, he⟩⟩
  · rw [he]
  · rw [he, Canvas.field?_cleared _ _ _ hne]
  · rw [he, Canvas.field?_emit]
  · rw [he, Canvas.field?_cleared _ _ _ hne, Canvas.field?_shift, Canvas.field?_detach,
      Canvas.field?_emit]

/-! ## Connections -/

variable {child parent : String} {f : Frame}

/-- Where the child or the parent is gone, nothing follows. -/
theorem afterConnect_of_gone (h : c.block? child = none ∨ c.block? parent = none) :
    p.afterConnect c child parent = .unchanged c := by
  rw [afterConnect]
  rcases h with h | h
  · rw [h]
  · rw [h]
    cases c.block? child <;> rfl

/-- A document in a link, of whatever collection: the link is oriented by it. -/
theorem afterConnect_of_document (hf : c.frame? parent = some f)
    (hlink : Tag.isLinkType f.type = true) {collection : String}
    (hdoc : c.tag child = .document collection) :
    p.afterConnect c child parent = orientLink c parent f.type collection := by
  obtain ⟨childBlock, hchild⟩ :=
    Option.isSome_iff_exists.mp (Canvas.isSome_of_tag (by rw [hdoc]; nofun))
  obtain ⟨b, hb, rfl⟩ := Option.map_eq_some_iff.mp hf
  have hb : c.block? parent = some b := hb
  have hlink : Tag.isLinkType b.type = true := hlink
  have hne : b.type ≠ getAttributeType := ne_getAttributeType_of_link hlink
  have htag : childBlock.tag = .document collection := by rw [← hdoc, Canvas.tag, hchild]
  simp only [afterConnect, hchild, hb, hlink, if_true, htag, if_neg hne, Block.frame]
  exact Outcome.andThen_unchanged _

/-- A document in a link: the link leads to the documents of the other side. Which that is can be
read off the type of the link. -/
theorem afterConnect_of_link (hf : c.frame? parent = some f)
    (hlink : Tag.isLinkType f.type = true) {collection other : String}
    (hdoc : c.tag child = .document collection)
    (hother : (Tag.ofText f.type).across? collection = some other) :
    (p.afterConnect c child parent).canvas = c.emit parent (.documentArray other) := by
  rw [afterConnect_of_document hf hlink hdoc, orientLink, hother]
  simp only [Canvas.setOutputTag_eq_ok (Canvas.isSome_of_frame? hf), Outcome.ofResult]

/-- Anything else in a link changes nothing. -/
theorem afterConnect_of_plain (hf : c.frame? parent = some f)
    (hlink : Tag.isLinkType f.type = true) (hdoc : (c.tag child).isDocument = false) :
    p.afterConnect c child parent = .unchanged c := by
  obtain ⟨b, hb, rfl⟩ := Option.map_eq_some_iff.mp hf
  have hb : c.block? parent = some b := hb
  have hlink : Tag.isLinkType b.type = true := hlink
  have hne : b.type ≠ getAttributeType := ne_getAttributeType_of_link hlink
  rw [afterConnect]
  cases hchild : c.block? child with
  | none => rfl
  | some childBlock =>
    have htag : c.tag child = childBlock.tag := by rw [Canvas.tag, hchild]
    rw [htag] at hdoc
    simp only [hb, hlink, if_true, if_neg hne, Outcome.andThen_unchanged]
    cases hcases : childBlock.tag with
    | document collection =>
      rw [hcases] at hdoc
      cases hdoc
    | _ => rfl

/-- Anything in an attribute getter: the dropdown offers the attributes of the documents, if it is
about documents and the domain has attributes of them. -/
theorem afterConnect_of_getter (hchild : (c.block? child).isSome) (hf : c.frame? parent = some f)
    (hgetter : f.type = getAttributeType) :
    p.afterConnect c child parent =
      match (c.tag child).collection? with
      | none => .unchanged c
      | some collection => p.fillAttributes c parent collection := by
  obtain ⟨childBlock, hchild⟩ := Option.isSome_iff_exists.mp hchild
  obtain ⟨b, hb, rfl⟩ := Option.map_eq_some_iff.mp hf
  have hb : c.block? parent = some b := hb
  have hgetter : b.type = getAttributeType := hgetter
  have hlink : Tag.isLinkType getAttributeType = false := by decide
  have hloop : getAttributeType ≠ foreachType := by decide
  have htag : c.tag child = childBlock.tag := by rw [Canvas.tag, hchild]
  simp only [afterConnect, hchild, hb, hgetter, hlink, Bool.false_eq_true, if_false, hloop,
    false_and, if_true, Outcome.unchanged_andThen, htag]
  cases childBlock.tag.collection? <;> rfl

/-- Throwing out what an input holds undoes that connection, if there is one, and is noted in any
case. -/
theorem expel_eq (hw : c.Wired) (parent input : String) (reason : Mismatch) :
    expel c parent input reason =
      { canvas :=
          match c.target? parent input with
          | none => c
          | some child => c.detach child ⟨parent, input⟩
        notices := [.rejected parent input reason] } := by
  rw [expel]
  cases ht : c.target? parent input with
  | none =>
    have hclear : c.clearInput parent input = .error (.vacant parent input) := by
      rw [Canvas.clearInput, ht]
    rw [hclear]
  | some child =>
    have hclear : c.clearInput parent input = .ok (c.detach child ⟨parent, input⟩) :=
      Canvas.clearInput_eq_ok_iff.mpr ⟨child, _, ht, hw.plug_iff.mpr ht, rfl⟩
    rw [hclear]

/-- What is thrown out of an input is what it holds, on a wired canvas. If it holds nothing, nothing
happens. -/
theorem expel_canvas (hw : c.Wired) (parent input : String) (reason : Mismatch) :
    (expel c parent input reason).canvas =
      match c.target? parent input with
      | none => c
      | some child => c.detach child ⟨parent, input⟩ := by
  rw [expel_eq hw]

/-- A loop throws out what is no list of documents. -/
theorem bindLoop_eq_expel (c : Canvas) (loop : String) {tag : Tag}
    (htag : tag.isDocumentArray = false) :
    bindLoop c loop tag = expel c loop listInput (.notIterable tag) := by
  cases tag with
  | documentArray collection => cases htag
  | _ => rfl

/-- What is no list of documents is thrown out of a loop. -/
theorem bindLoop_of_other (hw : c.Wired) {loop : String} {tag : Tag}
    (htag : tag.isDocumentArray = false) (ht : c.target? loop listInput = some child) :
    (bindLoop c loop tag).canvas = c.detach child ⟨loop, listInput⟩ := by
  rw [bindLoop_eq_expel c loop htag, expel_canvas hw, ht]

/-- Retyping a variable is giving it a type, or there is none and nothing is retyped. -/
theorem retypeVariable_canvas (c : Canvas) (id type : String) :
    (Outcome.ofResult c (c.retypeVariable id type)).canvas = c.retyped id type := by
  rw [Canvas.retypeVariable]
  split
  · rename_i hnone
    rw [Canvas.retyped, Canvas.retype_eq_self hnone]
    rfl
  · rfl

/-- A list of documents gives the variable that a loop names a type, if it names one. -/
theorem bindLoop_documentArray (c : Canvas) (loop collection : String) :
    (bindLoop c loop (.documentArray collection)).canvas =
      match c.field? loop variableField with
      | none => c
      | some field =>
        if field.value = "" then c
        else c.retyped field.value (Tag.document collection).text := by
  simp only [bindLoop]
  cases c.field? loop variableField with
  | none => rfl
  | some field =>
    dsimp only
    split
    · rfl
    · exact retypeVariable_canvas ..

/-- A list of documents gives the variable of a loop the type of one of them. -/
theorem bindLoop_of_documents {loop : String} {field : Field} {v : Variable}
    (hfield : c.field? loop variableField = some field) (hne : field.value ≠ "")
    (hv : c.findVariable field.value = some v) (collection : String) :
    (bindLoop c loop (.documentArray collection)).canvas =
      c.retyped field.value (Tag.document collection).text := by
  simp only [bindLoop, hfield, if_neg hne, Canvas.retypeVariable, hv, Outcome.ofResult]
  rfl

/-- What does not fit a loop is thrown out of it, what fits gives its variable a type. -/
theorem bindLoop_cases (hw : c.Wired) (loop : String) (tag : Tag) :
    ((bindLoop c loop tag).canvas.blocks = c.blocks ∧
      c.drawn ≤ (bindLoop c loop tag).canvas.drawn) ∨
    ∃ child, c.target? loop listInput = some child ∧
      (bindLoop c loop tag).canvas = c.detach child ⟨loop, listInput⟩ := by
  unfold bindLoop
  split
  · refine .inl ?_
    split
    · split
      · exact ⟨rfl, Nat.le_refl _⟩
      · rename_i field hfield hvalue
        cases hset : c.retypeVariable field.value (Tag.document _).text with
        | error fault => exact ⟨rfl, Nat.le_refl _⟩
        | ok c' =>
          obtain ⟨hblocks, hdrawn⟩ := Canvas.retypeVariable_blocks hset
          exact ⟨hblocks, Nat.le_of_eq hdrawn.symm⟩
    · exact ⟨rfl, Nat.le_refl _⟩
  · rw [expel_canvas hw]
    cases ht : c.target? loop listInput with
    | none => exact .inl ⟨rfl, Nat.le_refl _⟩
    | some child => exact .inr ⟨child, rfl, rfl⟩

/-- What a loop holds as its list: the loop is bound to it. Of the three rules this is the only one
that asks whether the child is really plugged in. -/
theorem afterConnect_of_loop (hchild : (c.block? child).isSome) (hf : c.frame? parent = some f)
    (hloop : f.type = foreachType) (ht : c.target? parent listInput = some child) :
    p.afterConnect c child parent = bindLoop c parent (c.tag child) := by
  obtain ⟨childBlock, hchild⟩ := Option.isSome_iff_exists.mp hchild
  obtain ⟨b, hb, rfl⟩ := Option.map_eq_some_iff.mp hf
  have hb : c.block? parent = some b := hb
  have hloop : b.type = foreachType := hloop
  have hlink : Tag.isLinkType foreachType = false := by decide
  have hgetter : foreachType ≠ getAttributeType := by decide
  have htag : c.tag child = childBlock.tag := by rw [Canvas.tag, hchild]
  simp only [afterConnect, hchild, hb, hloop, hlink, Bool.false_eq_true, if_false, ht, true_and,
    if_true, if_neg hgetter, htag]
  exact Outcome.andThen_unchanged _

/-- What is plugged into a block that is neither link nor attribute getter has no effect, unless it
is the list of a loop. -/
theorem afterConnect_of_inert (hf : c.frame? parent = some f)
    (hlink : Tag.isLinkType f.type = false) (hgetter : f.type ≠ getAttributeType)
    (hloop : ¬ (f.type = foreachType ∧ c.target? parent listInput = some child)) :
    p.afterConnect c child parent = .unchanged c := by
  obtain ⟨b, hb, rfl⟩ := Option.map_eq_some_iff.mp hf
  have hb : c.block? parent = some b := hb
  have hlink : Tag.isLinkType b.type = false := hlink
  have hgetter : b.type ≠ getAttributeType := hgetter
  have hloop : ¬ (b.type = foreachType ∧ c.target? parent listInput = some child) := hloop
  rw [afterConnect]
  cases c.block? child with
  | none => rfl
  | some childBlock =>
    simp only [hb, hlink, Bool.false_eq_true, if_false, if_neg hloop, if_neg hgetter]
    exact Outcome.andThen_unchanged _

/-- **All that can follow from a connection**: nothing, or a link is oriented by a document, or a
loop is bound to its list, or an attribute getter is filled. -/
theorem afterConnect_cases (p : Propagator) (c : Canvas) (child parent : String) :
    p.afterConnect c child parent = .unchanged c ∨
    ∃ f, c.frame? parent = some f ∧
      ((∃ collection, Tag.isLinkType f.type = true ∧ c.tag child = .document collection ∧
          p.afterConnect c child parent = orientLink c parent f.type collection) ∨
        (f.type = foreachType ∧ c.target? parent listInput = some child ∧
          p.afterConnect c child parent = bindLoop c parent (c.tag child)) ∨
        (∃ collection, f.type = getAttributeType ∧ (c.tag child).collection? = some collection ∧
          p.afterConnect c child parent = p.fillAttributes c parent collection)) := by
  by_cases hgone : c.block? child = none ∨ c.block? parent = none
  · exact .inl (afterConnect_of_gone hgone)
  rw [not_or, ← Ne, ← Ne, Option.ne_none_iff_isSome, Option.ne_none_iff_isSome] at hgone
  obtain ⟨hchild, hparent⟩ := hgone
  obtain ⟨f, hf⟩ := Option.isSome_iff_exists.mp (Canvas.frame?_isSome.symm ▸ hparent)
  cases hlink : Tag.isLinkType f.type with
  | true =>
    cases hdoc : c.tag child with
    | document collection =>
      exact .inr ⟨f, hf, .inl ⟨collection, hlink, rfl, afterConnect_of_document hf hlink hdoc⟩⟩
    | _ => exact .inl (afterConnect_of_plain hf hlink (by rw [hdoc]; rfl))
  | false =>
    by_cases hgetter : f.type = getAttributeType
    · cases hcollection : (c.tag child).collection? with
      | none =>
        left
        rw [afterConnect_of_getter hchild hf hgetter, hcollection]
      | some collection =>
        refine .inr ⟨f, hf, .inr (.inr ⟨collection, hgetter, rfl, ?_⟩)⟩
        rw [afterConnect_of_getter hchild hf hgetter, hcollection]
    · by_cases hloop : f.type = foreachType ∧ c.target? parent listInput = some child
      · exact .inr ⟨f, hf, .inr (.inl ⟨hloop.1, hloop.2,
          afterConnect_of_loop hchild hf hloop.1 hloop.2⟩)⟩
      · exact .inl (afterConnect_of_inert hf hlink hgetter hloop)

/-- Anything in any other block: nothing, unless the block is a loop and holds it as its list. -/
theorem afterConnect_of_other (hw : c.Wired) (hf : c.frame? parent = some f)
    (hlink : Tag.isLinkType f.type = false) (hgetter : f.type ≠ getAttributeType) :
    ((p.afterConnect c child parent).canvas.blocks = c.blocks ∧
      c.drawn ≤ (p.afterConnect c child parent).canvas.drawn) ∨
    f.type = foreachType ∧ c.target? parent listInput = some child ∧
      (p.afterConnect c child parent).canvas = c.detach child ⟨parent, listInput⟩ := by
  by_cases hloop : f.type = foreachType ∧ c.target? parent listInput = some child
  · rw [afterConnect_of_loop (hw.block_of_target hloop.2) hf hloop.1 hloop.2]
    rcases bindLoop_cases hw parent (c.tag child) with hsame | ⟨held, ht, hdetach⟩
    · exact .inl hsame
    · rw [hloop.2, Option.some.injEq] at ht
      exact .inr ⟨hloop.1, hloop.2, by rw [hdetach, ← ht]⟩
  · rw [afterConnect_of_inert hf hlink hgetter hloop]
    exact .inl ⟨rfl, Nat.le_refl _⟩

end Propagator

end TypedBlocks
