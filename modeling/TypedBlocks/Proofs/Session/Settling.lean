import TypedBlocks.Proofs.Propagator.Rules
import TypedBlocks.Proofs.Session.Settled

/-!
# From one settled canvas to the next

What each single change does to a settled canvas:

* `detach` and `plugIn` unsettle it at the block whose input they change;
* `emit` settles a link, but may unsettle the block that holds the link;
* `write` and `cleared` settle an attribute getter, `reset` a link with all that follows;
* a block that reacts to nothing is settled as it is (`of_inert`), and so is a new one (`create`).

The responses of a propagator are put together from these.
-/

namespace TypedBlocks.Canvas

open Definition

namespace Settled

variable {ids : IdSupply} {domain : Domain} {awaited : Option String} {c c' : Canvas}

/-! ## Blocks that are the same in all views -/

theorem congr (h : Settled ids domain awaited c) (hframe : ∀ id, c'.frame? id = c.frame? id)
    (hplug : ∀ id, c'.plug? id = c.plug? id)
    (htarget : ∀ block input, c'.target? block input = c.target? block input)
    (hout : ∀ id, c'.output? id = c.output? id)
    (hfield : ∀ id field, c'.field? id field = c.field? id field)
    (hdrawn : c.drawn ≤ c'.drawn) : Settled ids domain awaited c' where
  coherent := h.coherent.congr hframe hplug htarget hdrawn
  formed := h.formed.congr hframe fun id _ _ _ => hout id
  oriented id f first second hid hf ht := by
    rw [hframe] at hf
    exact (h.oriented id f first second hid hf ht).congr (htarget ..) (hout id)
      (fun child _ => tag_congr (hout child)) fun child _ => hframe child
  listed id f hid hf ht := by
    rw [hframe] at hf
    exact (h.listed id f hid hf ht).congr (htarget ..) (hfield ..)
      fun child _ => tag_congr (hout child)

theorem of_blocks (h : Settled ids domain awaited c) (hblocks : c'.blocks = c.blocks)
    (hdrawn : c.drawn ≤ c'.drawn) : Settled ids domain awaited c' :=
  h.congr (frame?_of_blocks hblocks) (plug?_of_blocks hblocks) (target?_of_blocks hblocks)
    (output?_of_blocks hblocks) (field?_of_blocks hblocks) hdrawn

theorem shift (h : Settled ids domain awaited c) (block : String) (dx dy : Float) :
    Settled ids domain awaited (c.shift block dx dy) := by
  refine h.congr ?_ ?_ ?_ ?_ ?_ (Nat.le_refl _)
  · exact fun id => frame?_shift ..
  · exact fun id => plug?_shift ..
  · exact fun block input => target?_shift ..
  · exact fun id => output?_shift ..
  · exact fun id field => field?_shift ..

/-- A block that is as it should be is awaited no longer. -/
theorem settle {id : String} (h : Settled ids domain (some id) c)
    (horiented : ∀ f first second, c.frame? id = some f → Tag.ofText f.type = .link first second →
      Oriented c id first second)
    (hlisted : ∀ f, c.frame? id = some f → f.type = getAttributeType → Listed domain c id) :
    Settled ids domain none c where
  coherent := h.coherent
  formed := h.formed
  oriented other f first second _ hf ht := by
    by_cases he : other = id
    · subst he
      exact horiented f first second hf ht
    · exact h.oriented other f first second (by simpa using he) hf ht
  listed other f _ hf ht := by
    by_cases he : other = id
    · subst he
      exact hlisted f hf ht
    · exact h.listed other f (by simpa using he) hf ht

/-- A block that is neither a link nor an attribute getter is always settled. -/
theorem of_inert {id : String} (h : Settled ids domain (some id) c)
    (hinert : ∀ f, c.frame? id = some f → Tag.isLinkType f.type = false ∧
      f.type ≠ getAttributeType) : Settled ids domain none c := by
  refine h.settle (fun f first second hf ht => ?_) fun f hf ht => absurd ht (hinert f hf).2
  have hplain := (hinert f hf).1
  rw [Tag.isLinkType_iff.mpr ⟨first, second, ht⟩] at hplain
  cases hplain

/-! ## Connections -/

/-- Undoing a connection unsettles the block whose input is emptied. -/
theorem detach (h : Settled ids domain awaited c) {child : String} {plug : Plug}
    (hp : c.plug? child = some plug) (hawaited : ∀ id, awaited = some id → id = plug.block) :
    Settled ids domain (some plug.block) (c.detach child plug) := by
  have hother : ∀ id, some id ≠ some plug.block → some id ≠ awaited ∧
      ∀ input, (c.detach child plug).target? id input = c.target? id input := by
    intro id hid
    constructor
    · intro he
      exact hid (congrArg some (hawaited id he.symm))
    · intro input
      rw [target?_detach, if_neg]
      rintro ⟨he, -⟩
      exact hid (congrArg some he)
  refine ⟨h.coherent.detach hp, ?_, ?_, ?_⟩
  · exact h.formed.congr (fun id => frame?_detach ..) fun id _ _ _ => output?_detach ..
  · intro id f first second hid hf ht
    rw [frame?_detach] at hf
    obtain ⟨hne, htarget⟩ := hother id hid
    exact (h.oriented id f first second hne hf ht).congr (htarget _) (output?_detach ..)
      (fun child' _ => tag_detach ..) fun child' _ => frame?_detach ..
  · intro id f hid hf ht
    rw [frame?_detach] at hf
    obtain ⟨hne, htarget⟩ := hother id hid
    exact (h.listed id f hne hf ht).congr (htarget _) (field?_detach ..)
      fun child' _ => tag_detach ..

/-- Making a connection unsettles the block whose input is filled. -/
theorem plugIn (h : Settled ids domain none c) {child parent input : String} {f : Frame}
    {slot : Slot} (hb : (c.block? child).isSome) (hf : c.frame? parent = some f)
    (hs : f.slot? input = some slot) (hst : slot.statement = false) (hne : child ≠ parent)
    (hplug : c.plug? child = none) (htarget : c.target? parent input = none) :
    Settled ids domain (some parent) (c.plugIn child parent input) := by
  have hother : ∀ id, some id ≠ some parent → ∀ name,
      (c.plugIn child parent input).target? id name = c.target? id name := by
    intro id hid name
    rw [target?_plugIn hf hs, if_neg]
    rintro ⟨he, -⟩
    exact hid (congrArg some he)
  refine ⟨h.coherent.plugIn hb hf hs hst hne hplug htarget, ?_, ?_, ?_⟩
  · exact h.formed.congr (fun id => frame?_plugIn ..) fun id _ _ _ => output?_plugIn ..
  · intro id f' first second hid hf' ht
    rw [frame?_plugIn] at hf'
    exact (h.oriented id f' first second (by simp) hf' ht).congr (hother id hid _)
      (output?_plugIn ..) (fun child' _ => tag_plugIn ..) fun child' _ => frame?_plugIn ..
  · intro id f' hid hf' ht
    rw [frame?_plugIn] at hf'
    exact (h.listed id f' (by simp) hf' ht).congr (hother id hid _) (field?_plugIn ..)
      fun child' _ => tag_plugIn ..

/-! ## Links -/

/-- No link holds a link. -/
theorem holder_plain (h : Settled ids domain awaited c) {link : String} {f : Frame}
    (hf : c.frame? link = some f) (hlink : Tag.isLinkType f.type = true) {plug : Plug}
    (hp : c.plug? link = some plug) (hawaited : some plug.block ≠ awaited) {g : Frame}
    (hg : c.frame? plug.block = some g) : Tag.isLinkType g.type = false := by
  have ht : c.target? plug.block plug.input = some link := h.coherent.wired.plug_iff.mp hp
  rw [← Bool.not_eq_true]
  intro hholder
  obtain ⟨first, second, htype⟩ := Tag.isLinkType_iff.mp hholder
  rw [h.formed.input_of_link ht hg hholder] at ht
  have hplain := (h.oriented _ g first second hawaited hg htype).plain link f ht hf
  rw [hlink] at hplain
  cases hplain

theorem ne_link {link child : String} {f : Frame} (hf : c.frame? link = some f)
    (hlink : Tag.isLinkType f.type = true)
    (hplain : ∀ g, c.frame? child = some g → Tag.isLinkType g.type = false) : child ≠ link := by
  rintro rfl
  have hfalse := hplain f hf
  rw [hlink] at hfalse
  cases hfalse

/-- A link that was given the output it should have is as it should be: what it holds is another
block, whose tag has not changed by that. -/
theorem oriented_emit {link first second : String} {f : Frame} {tag : Tag}
    (hf : c.frame? link = some f) (hlink : Tag.isLinkType f.type = true)
    (hbearing : Tag.bearing first second ((c.target? link linkInput).map c.tag) = some tag)
    (hplain : ∀ child g, c.target? link linkInput = some child → c.frame? child = some g →
      Tag.isLinkType g.type = false) : Oriented (c.emit link tag) link first second where
  output := by
    refine ⟨tag, ?_, ?_⟩
    · rw [target?_emit, ← hbearing]
      cases hc : c.target? link linkInput with
      | none => rfl
      | some child =>
        have hne := ne_link hf hlink fun g => hplain child g hc
        rw [Option.map_some, Option.map_some, tag_emit_ne hne]
    · exact output?_emit_self (isSome_of_frame? hf) tag
  plain child g hc hg := by
    rw [target?_emit] at hc
    rw [frame?_emit] at hg
    exact hplain child g hc hg

/-- Giving a link the output that it should have settles it. Who holds the link is unsettled by
that, unless the placeholder is what an attribute getter shows anyway. -/
theorem emit (h : Settled ids domain awaited c) {link first second : String} {f : Frame}
    {tag : Tag} (hf : c.frame? link = some f) (ht : Tag.ofText f.type = .link first second)
    (hawaited : ∀ id, awaited = some id → id = link)
    (hbearing : Tag.bearing first second ((c.target? link linkInput).map c.tag) = some tag)
    (hplain : ∀ child g, c.target? link linkInput = some child → c.frame? child = some g →
      Tag.isLinkType g.type = false) {next : Option String}
    (hholder : ∀ id, c.target? id documentInput = some link → next ≠ some id →
      Listed domain c id → c.field? id attributeField = some ⟨notApplicable, placeholder⟩) :
    Settled ids domain next (c.emit link tag) := by
  have hlink : Tag.isLinkType f.type = true := Tag.isLinkType_iff.mpr ⟨first, second, ht⟩
  refine ⟨?_, ?_, ?_, ?_⟩
  · exact h.coherent.congr (fun id => frame?_emit ..) (fun id => plug?_emit ..)
      (fun block input => target?_emit ..) (Nat.le_refl _)
  · refine h.formed.congr (fun id => frame?_emit ..) fun id g hg hg' => ?_
    have hne : id ≠ link := by
      refine ne_link hf hlink fun g' hg'' => ?_
      rw [hg, Option.some.injEq] at hg''
      rw [← hg'', hg']
    rw [output?_emit, if_neg hne]
  · intro id g a b _ hg hg'
    rw [frame?_emit] at hg
    by_cases he : id = link
    · rw [he, hf, Option.some.injEq] at hg
      rw [← hg, ht, Tag.link.injEq] at hg'
      obtain ⟨rfl, rfl⟩ := hg'
      rw [he]
      exact oriented_emit hf hlink hbearing hplain
    · have hid : some id ≠ awaited := fun hid => he (hawaited id hid.symm)
      have horiented := h.oriented id g a b hid hg hg'
      refine horiented.congr (target?_emit ..) ?_ (fun child hc => ?_) fun child _ => frame?_emit ..
      · rw [output?_emit, if_neg he]
      · -- no link holds a link, so the tag of what it holds is not the one that changed
        exact tag_emit_ne (ne_link hf hlink fun g => horiented.plain child g hc) tag
  · intro id g hid hg hg'
    rw [frame?_emit] at hg
    have hne : id ≠ link := by
      rintro rfl
      rw [hf, Option.some.injEq] at hg
      exact Propagator.ne_getAttributeType_of_link (hg ▸ hlink) hg'
    have hlisted := h.listed id g (fun hid => hne (hawaited id hid.symm)) hg hg'
    by_cases hc : c.target? id documentInput = some link
    · refine .inl ?_
      rw [field?_emit]
      exact hholder id hc (Ne.symm hid) hlisted
    · refine hlisted.congr (target?_emit ..) (field?_emit ..) fun child hchild => ?_
      refine tag_emit_ne ?_ tag
      rintro rfl
      exact hc hchild

/-! ## Attribute getters -/

/-- Writing the dropdown of an attribute getter settles it, if that is what it should show. -/
theorem write (h : Settled ids domain awaited c) {getter : String} {f : Frame} {field : Field}
    (hf : c.frame? getter = some f) (ht : f.type = getAttributeType)
    (hawaited : ∀ id, awaited = some id → id = getter)
    (hlisted : (c.write getter attributeField field).field? getter attributeField = some field →
      Listed domain (c.write getter attributeField field) getter) :
    Settled ids domain none (c.write getter attributeField field) := by
  refine ⟨?_, ?_, ?_, ?_⟩
  · exact h.coherent.congr (fun id => frame?_write ..) (fun id => plug?_write ..)
      (fun block input => target?_write ..) (Nat.le_refl _)
  · exact h.formed.congr (fun id => frame?_write ..) fun id _ _ _ => output?_write ..
  · intro id g first second _ hg hg'
    rw [frame?_write] at hg
    have hne : id ≠ getter := by
      rintro rfl
      rw [hf, Option.some.injEq] at hg
      have hread : Tag.ofText getAttributeType = .unknown := by decide
      rw [← hg, ht, hread] at hg'
      cases hg'
    exact (h.oriented id g first second (fun hid => hne (hawaited id hid.symm)) hg hg').congr
      (target?_write ..) (output?_write ..) (fun child _ => tag_write ..)
      fun child _ => frame?_write ..
  · intro id g _ hg hg'
    rw [frame?_write] at hg
    by_cases he : id = getter
    · rw [he]
      refine hlisted ?_
      have hhas : (c.field? getter attributeField).isSome := by
        rw [field?_isSome hf, h.formed.frame_of_builtIn .attributeGetter hf ht]
        decide
      obtain ⟨old, hold⟩ := Option.isSome_iff_exists.mp hhas
      rw [field?_write, if_pos ⟨rfl, rfl⟩, hold]
      rfl
    · have hlisted := h.listed id g (fun hid => he (hawaited id hid.symm)) hg hg'
      refine hlisted.congr (target?_write ..) ?_ fun child _ => tag_write ..
      rw [field?_write, if_neg]
      exact fun hand => he hand.1

/-- A block that was left settles by having its dropdown emptied, if it is an attribute getter that
is empty now, and if not, then unless it is a link. -/
theorem cleared {id : String} (h : Settled ids domain (some id) c)
    (hplain : ∀ f, c.frame? id = some f → Tag.isLinkType f.type = false)
    (hempty : ∀ f, c.frame? id = some f → f.type = getAttributeType →
      c.target? id documentInput = none) : Settled ids domain none (c.cleared id) := by
  rw [Canvas.cleared]
  split
  · rename_i hgetter
    obtain ⟨f, hf, ht⟩ := Option.map_eq_some_iff.mp hgetter.1
    exact h.write hf ht (fun other he => (Option.some.inj he).symm) .inl
  · rename_i hgetter
    refine h.of_inert fun f hf => ⟨hplain f hf, fun ht => hgetter ⟨?_, hempty f hf ht⟩⟩
    rw [hf, Option.map_some, ht]

/-! ## Resets -/

/-- **Resetting a link that holds nothing settles it**, and its holder as well, which is cleared
over losing the link. No other block is concerned, because nothing but the holder can show the
output of the link. -/
theorem reset {link : String} (h : Settled ids domain (some link) c) {f : Frame}
    (hf : c.frame? link = some f) (hlink : Tag.isLinkType f.type = true)
    (hempty : c.target? link linkInput = none) (radius : Float) :
    Settled ids domain none
      (match c.plug? link with
        | none => c.emit link .unknown
        | some plug =>
          (((c.emit link .unknown).detach link plug).shift link radius radius).cleared
            plug.block) := by
  obtain ⟨first, second, htype⟩ := Tag.isLinkType_iff.mp hlink
  have hw := h.coherent.wired
  have hbearing : Tag.bearing first second ((c.target? link linkInput).map c.tag) =
      some .unknown := by
    rw [hempty]
    rfl
  have hplain : ∀ child g, c.target? link linkInput = some child → c.frame? child = some g →
      Tag.isLinkType g.type = false := by
    intro child g hchild
    rw [hempty] at hchild
    cases hchild
  have hemitted : Settled ids domain (c.holder? link) (c.emit link .unknown) := by
    refine h.emit hf htype (fun id he => (Option.some.inj he).symm) hbearing hplain
      fun id hid hne => absurd ?_ hne
    rw [holder?, hw.plug_iff.mpr hid]
    rfl
  rw [holder?] at hemitted
  cases hplug : c.plug? link with
  | none =>
    rw [hplug] at hemitted
    exact hemitted
  | some plug =>
    rw [hplug] at hemitted
    have hheld : c.target? plug.block plug.input = some link := hw.plug_iff.mp hplug
    -- now the holder is awaited, which is no link; if it is an attribute getter, it is empty
    have hdetached := hemitted.detach (by rw [plug?_emit, hplug])
      fun id he => (Option.some.inj he).symm
    refine (hdetached.shift link radius radius).cleared (fun g hg => ?_) fun g hg hg' => ?_
    · rw [frame?_shift, frame?_detach, frame?_emit] at hg
      refine h.holder_plain hf hlink hplug ?_ hg
      exact fun he => hw.ne_of_plug hplug (Option.some.inj he).symm
    · rw [frame?_shift, frame?_detach, frame?_emit] at hg
      have hinput := h.formed.input_of_getter hheld hg hg'
      rw [target?_shift, target?_detach, if_pos ⟨rfl, hinput.symm⟩]

/-! ## New blocks -/

/-- A fresh block under a new id is settled, and unsettles no other. -/
theorem add (h : Settled ids domain none c) {id : String} {b : Block} {key : Key} {d : Definition}
    (hnew : c.block? id = none) (hmade : Made key d) (hb : b.Fresh d)
    (hcoherent : Coherent ids (c.add id b)) : Settled ids domain none (c.add id b) := by
  have hblank := hb.toBlank
  have hempty : ∀ input, (c.add id b).target? id input = none := by
    intro input
    rw [target?_add hnew hblank, target?_eq_bind, hnew]
    rfl
  have hkept : ∀ other, other ≠ id → (c.add id b).frame? other = c.frame? other ∧
      (c.add id b).output? other = c.output? other := by
    intro other hne
    rw [frame?_add, if_neg hne, output?_add, if_neg hne]
    exact ⟨rfl, rfl⟩
  -- what a block holds was there before, so it is not the new block
  have hheld : ∀ block input child, c.target? block input = some child → child ≠ id := by
    rintro block input child ht rfl
    have hexists := h.coherent.wired.block_of_target ht
    rw [hnew] at hexists
    cases hexists
  have htag : ∀ block input child, c.target? block input = some child →
      (c.add id b).tag child = c.tag child := fun block input child ht =>
    tag_congr (hkept child (hheld block input child ht)).2
  have hframe : (c.add id b).frame? id = some d.frame := by
    rw [frame?_add, if_pos rfl, hb.frame]
  have hout : (c.add id b).output? id = some (hasOutput d.output, outputCheck d.output) := by
    rw [output?_add, if_pos rfl, hb.hasOutput, hb.outputCheck]
  refine ⟨hcoherent, h.formed.add hmade hb, ?_, ?_⟩
  · intro other f first second _ hf ht
    by_cases he : other = id
    · subst he
      obtain rfl := Option.some.inj (hframe.symm.trans hf)
      obtain ⟨-, -, -, houtput, -⟩ := hmade.slot?_of_link ht
      refine .of_empty (hempty _) ?_
      rw [hout, houtput]
      rfl
    · rw [(hkept other he).1] at hf
      exact (h.oriented other f first second (by simp) hf ht).congr
        (target?_add hnew hblank ..) (hkept other he).2 (htag _ _)
        fun child hchild => (hkept child (hheld _ _ _ hchild)).1
  · intro other f _ hf ht
    by_cases he : other = id
    · subst he
      obtain rfl := Option.some.inj (hframe.symm.trans hf)
      refine .inl ?_
      rw [field?_add, if_pos rfl]
      exact hb.dropdown (hmade.eq_attributeGetter ht).2
    · rw [(hkept other he).1] at hf
      refine (h.listed other f (by simp) hf ht).congr (target?_add hnew hblank ..) ?_ (htag _ _)
      rw [field?_add, if_neg he]

/-- **Making a block leaves the canvas settled.** The block is as its definition makes it, holds
nothing, and is held by nothing. -/
theorem create (hids : Function.Injective ids) (h : Settled ids domain none c)
    {catalog : Catalog} {blockType id : String} {preset : Option String}
    (hmade : ∀ d, catalog.definition? blockType = some d → ∃ key, Made key d)
    (hc : c.create ids catalog blockType preset = .ok (id, c')) :
    Settled ids domain none c' := by
  have hcoherent := h.coherent.create hids hc
  obtain ⟨d, hd, rfl, rfl⟩ := create_eq_ok hc
  obtain ⟨key, hmade⟩ := hmade d hd
  obtain ⟨-, hblocks, hnew, hdrawn⟩ := h.coherent.build_next hids d preset
  exact (h.of_blocks hblocks (Nat.le_of_lt hdrawn)).add hnew hmade (build_fresh ids _ d preset)
    hcoherent

end Settled

end TypedBlocks.Canvas
