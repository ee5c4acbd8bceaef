import TypedBlocks.Proofs.Session.Settling
import TypedBlocks.Proofs.Workspace.Connecting

/-!
# Responses that settle

An edit unsettles a canvas at one block, and the response of the propagator to the event of that
edit settles it again: `Settled.afterDisconnect` for a block that was pulled out, and
`Settled.afterConnect` for a block that was plugged into an input which takes it.
-/

namespace TypedBlocks.Canvas

open Definition

namespace Settled

variable {ids : IdSupply} {p : Propagator} {c : Canvas} {child : String}

/-! ## A block is pulled out -/

/-- A document has left a link. The link is reset and leaves its holder, which is cleared; then
everything is settled. -/
theorem afterDisconnect_of_document (h : Settled ids p.domain none c) {link : String}
    (hp : c.plug? child = some ⟨link, linkInput⟩) {f : Frame} (hf : c.frame? link = some f)
    (hlink : Tag.isLinkType f.type = true) (hdoc : (c.tag child).isDocument = true) :
    Settled ids p.domain none
      (p.afterDisconnect (c.detach child ⟨link, linkInput⟩) child link).canvas := by
  obtain ⟨first, second, htype⟩ := Tag.isLinkType_iff.mp hlink
  have ht : c.target? link linkInput = some child := h.coherent.wired.plug_iff.mp hp
  have horiented := h.oriented link f first second (by simp) hf htype
  have h0 := h.detach hp fun id he => by cases he
  have hf0 : (c.detach child ⟨link, linkInput⟩).frame? link = some f := by rw [frame?_detach, hf]
  have hdoc0 : ((c.detach child ⟨link, linkInput⟩).tag child).isDocument = true := by
    rw [tag_detach, hdoc]
  have hempty : (c.detach child ⟨link, linkInput⟩).target? link linkInput = none := by
    rw [target?_detach, if_pos ⟨rfl, rfl⟩]
  have hused : ((c.detach child ⟨link, linkInput⟩).tag link).isUnknown = false := by
    rw [tag_detach]
    obtain ⟨hfirst, hsecond, -⟩ := h.formed.slot?_of_link hf htype
    exact horiented.isUnknown_eq_false hfirst hsecond ht hdoc
  rw [Propagator.afterDisconnect_of_link hf0 hlink hdoc0 hused hempty]
  exact h0.reset hf0 hlink hempty p.snapRadius

/-- **The response to a block being pulled out settles the canvas**, wherever the block was: a link
that lost its document is reset, an attribute getter goes back to the placeholder, and other blocks
have nothing to follow up. -/
theorem afterDisconnect (h : Settled ids p.domain none c) {plug : Plug}
    (hp : c.plug? child = some plug) :
    Settled ids p.domain none
      (p.afterDisconnect (c.detach child plug) child plug.block).canvas := by
  obtain ⟨parent, input⟩ := plug
  have ht : c.target? parent input = some child := h.coherent.wired.plug_iff.mp hp
  obtain ⟨f, slot, hf, -⟩ := slot_of_target ht
  have h0 := h.detach hp fun id he => by cases he
  have hempty : (c.detach child ⟨parent, input⟩).target? parent input = none := by
    rw [target?_detach, if_pos ⟨rfl, rfl⟩]
  by_cases hlink : Tag.isLinkType f.type = true
  · obtain rfl := h.formed.input_of_link ht hf hlink
    cases hdoc : (c.tag child).isDocument with
    | true => exact h.afterDisconnect_of_document hp hf hlink hdoc
    | false =>
      -- what the link held was no document, so its output is unknown already
      have hdoc0 : ((c.detach child ⟨parent, linkInput⟩).tag child).isDocument = false := by
        rw [tag_detach, hdoc]
      have hf0 : (c.detach child ⟨parent, linkInput⟩).frame? parent = some f := by
        rw [frame?_detach, hf]
      rw [Propagator.afterDisconnect_of_plain fun he => absurd (hdoc0.symm.trans he) nofun,
        cleared_of_link hf0 hlink]
      refine h0.settle (fun g first second hg htype => .of_empty hempty ?_) fun g hg hg' => ?_
      · rw [frame?_detach] at hg
        rw [output?_detach]
        exact (h.oriented parent g first second (by simp) hg htype).output_of_plain ht hdoc
      · rw [hf0, Option.some.injEq] at hg
        exact absurd (hg ▸ hg') (Propagator.ne_getAttributeType_of_link hlink)
  · -- the block is no link, so at most its dropdown is out of date
    have hplain : ∀ g, (c.detach child ⟨parent, input⟩).frame? parent = some g →
        Tag.isLinkType g.type = false := by
      intro g hg
      rw [frame?_detach, hf, Option.some.injEq] at hg
      rw [← hg, ← Bool.not_eq_true]
      exact hlink
    rw [Propagator.afterDisconnect_of_plain fun _ => hplain]
    refine h0.cleared hplain fun g hg hg' => ?_
    rw [frame?_detach] at hg
    rw [← h.formed.input_of_getter ht hg hg']
    exact hempty

/-! ## A block is plugged in -/

/-- What the output of a block can be: it offers one tag at most, because definitions offer one at
most and links are given one at a time. -/
theorem outputCheck_cases (h : Settled ids p.domain none c) {hasOutput : Bool}
    {check : Option (List String)} (ho : c.output? child = some (hasOutput, check)) :
    check = none ∨ ∃ tag : Tag, check = some [tag.text] := by
  obtain ⟨b, hb, -⟩ := Option.map_eq_some_iff.mp ho
  have hf := frame?_of_block? hb
  obtain ⟨key, d, hd⟩ := h.formed child b.frame hf
  cases hlink : Tag.isLinkType d.blockType with
  | true =>
    obtain ⟨first, second, htype⟩ := Tag.isLinkType_iff.mp hlink
    obtain ⟨tag, -, hout⟩ :=
      (h.oriented child d.frame first second (by simp) hd.frame htype).output
    rw [ho, Option.some.injEq, Prod.mk.injEq] at hout
    exact .inr ⟨tag, hout.2⟩
  | false =>
    have hout := hd.output hlink
    rw [ho, Option.some.injEq, Prod.mk.injEq] at hout
    rw [hout.2]
    exact hd.made.outputCheck_cases

/-- **What fits a link**: a document of one of its two collections, or what has no tag at all. What
has none is an attribute getter, whose output takes any form. -/
theorem fits_link (h : Settled ids p.domain none c) {link input first second : String} {f : Frame}
    (hfits : Workspace.Fits c child link input) (hf : c.frame? link = some f)
    (htype : Tag.ofText f.type = .link first second) :
    input = linkInput ∧
      ((∃ collection, c.tag child = .document collection ∧
        (collection = first ∨ collection = second)) ∨
      c.output? child = some (true, none)) := by
  obtain ⟨⟨check, g, slot, ho, hg, hs, -, hcompat⟩, -⟩ := hfits
  rw [hf, Option.some.injEq] at hg
  subst hg
  obtain ⟨hfirst, hsecond, a, b, hab, hslot⟩ := h.formed.slot?_of_link hf htype
  rw [hslot] at hs
  split at hs
  · rename_i hinput
    rw [← Option.some.inj hs] at hcompat
    refine ⟨hinput, ?_⟩
    -- an output that offers nothing fits anywhere, else the one text that it offers is accepted
    rcases h.outputCheck_cases ho with rfl | ⟨tag, rfl⟩
    · exact .inr ho
    · have htag : c.tag child = Tag.ofText tag.text := tag_eq_of_output? ho
      have hmem : tag.text = (Tag.document a).text ∨ tag.text = (Tag.document b).text := by
        simpa [Workspace.compatible] using hcompat
      have hread : ∀ id, id ≠ "" → tag.text = (Tag.document id).text →
          c.tag child = .document id := by
        intro id hid he
        rw [htag, he, Tag.ofText_text_document, if_neg hid]
      refine .inl ?_
      rcases hab with ⟨rfl, rfl⟩ | ⟨rfl, rfl⟩
      · rcases hmem with he | he
        · exact ⟨_, hread _ hfirst he, .inl rfl⟩
        · exact ⟨_, hread _ hsecond he, .inr rfl⟩
      · rcases hmem with he | he
        · exact ⟨_, hread _ hsecond he, .inr rfl⟩
        · exact ⟨_, hread _ hfirst he, .inl rfl⟩
  · cases hs

/-- What puts out a document of one of the two collections of a link fits the link. -/
theorem fits_link_of_document (h : Settled ids p.domain none c) {link collection : String}
    {f : Frame} (ho : c.output? child = some (true, some [(Tag.document collection).text]))
    (hf : c.frame? link = some f) {first second : String}
    (htype : Tag.ofText f.type = .link first second)
    (hside : collection = first ∨ collection = second) (hne : child ≠ link) :
    Workspace.Fits c child link linkInput := by
  obtain ⟨-, -, a, b, hab, hslot⟩ := h.formed.slot?_of_link hf htype
  refine ⟨⟨_, f, _, ho, hf, by rw [hslot, if_pos rfl], rfl, ?_⟩, hne⟩
  have hmem : collection = a ∨ collection = b := by
    rcases hab with ⟨rfl, rfl⟩ | ⟨rfl, rfl⟩
    · exact hside
    · exact hside.symm
  rcases hmem with rfl | rfl <;> simp [Workspace.compatible]

/-- What has an output fits an attribute getter, whatever it offers: the input is for anything. -/
theorem fits_getter (h : Settled ids p.domain none c) {getter : String}
    {check : Option (List String)} {f : Frame} (ho : c.output? child = some (true, check))
    (hf : c.frame? getter = some f) (ht : f.type = getAttributeType) (hne : child ≠ getter) :
    Workspace.Fits c child getter documentInput := by
  obtain rfl := h.formed.frame_of_builtIn .attributeGetter hf ht
  refine ⟨⟨check, _, ⟨none, false⟩, ho, hf, ?_, rfl, ?_⟩, hne⟩
  · rw [slot?_attributeGetter, if_pos rfl]
  · cases check <;> rfl

/-- What fits a link is no link: links put out lists of documents, or nothing that is known, and a
link takes single documents. -/
theorem plain_of_fits_link (h : Settled ids p.domain none c) {link input first second : String}
    {f : Frame} (hfits : Workspace.Fits c child link input) (hf : c.frame? link = some f)
    (htype : Tag.ofText f.type = .link first second) {g : Frame} (hg : c.frame? child = some g) :
    Tag.isLinkType g.type = false := by
  rw [← Bool.not_eq_true]
  intro hlink
  obtain ⟨a, b, hchild⟩ := Tag.isLinkType_iff.mp hlink
  have horiented := h.oriented child g a b (by simp) hg hchild
  rcases (h.fits_link hfits hf htype).2 with ⟨collection, hdoc, -⟩ | hnone
  · have hfalse := horiented.isDocument_eq_false
    rw [hdoc] at hfalse
    cases hfalse
  · obtain ⟨tag, -, hout⟩ := horiented.output
    rw [hnone] at hout
    cases hout

section PlugIn

variable {parent input : String} {f : Frame}

/-- Something is plugged into a link. -/
theorem afterConnect_link (h : Settled ids p.domain none c)
    (hfits : Workspace.Fits c child parent input) (hfree : c.target? parent input = none)
    (h0 : Settled ids p.domain (some parent) (c.plugIn child parent input))
    (hf : c.frame? parent = some f) (hlink : Tag.isLinkType f.type = true)
    (hheld : (c.plugIn child parent input).target? parent input = some child) :
    Settled ids p.domain none
      (p.afterConnect (c.plugIn child parent input) child parent).canvas := by
  obtain ⟨first, second, htype⟩ := Tag.isLinkType_iff.mp hlink
  obtain ⟨rfl, hcases⟩ := h.fits_link hfits hf htype
  have hempty := h.oriented parent f first second (by simp) hf htype
  have hf0 : (c.plugIn child parent linkInput).frame? parent = some f := by rw [frame?_plugIn, hf]
  have hplain : ∀ held g, (c.plugIn child parent linkInput).target? parent linkInput = some held →
      (c.plugIn child parent linkInput).frame? held = some g → Tag.isLinkType g.type = false := by
    intro held g ht hg
    rw [hheld, Option.some.injEq] at ht
    rw [← ht, frame?_plugIn] at hg
    exact h.plain_of_fits_link hfits hf htype hg
  rcases hcases with ⟨collection, hdoc, hside⟩ | hnone
  · have hdoc0 : (c.plugIn child parent linkInput).tag child = .document collection := by
      rw [tag_plugIn, hdoc]
    have hacross := Tag.across?_link_eq_some_iff.mpr ⟨hside, rfl⟩
    rw [Propagator.afterConnect_of_link hf0 hlink hdoc0 (by rw [htype]; exact hacross)]
    refine h0.emit hf0 htype (fun id he => (Option.some.inj he).symm) ?_ hplain
      fun id hid _ hlisted => ?_
    · rw [hheld, Option.map_some, hdoc0, Tag.bearing, hacross]
      rfl
    · -- nothing was known of the link before, so a getter that holds it shows the placeholder
      refine hlisted.reset fun other hother => ?_
      rw [hid, Option.some.injEq] at hother
      rw [← hother, tag_plugIn, hempty.tag_of_empty hfree]
      rfl
  · have htag : (c.plugIn child parent linkInput).tag child = .unknown := by
      rw [tag_plugIn, tag_eq_of_output? hnone]
      rfl
    rw [Propagator.afterConnect_of_plain hf0 hlink (by rw [htag]; rfl)]
    refine h0.settle (fun g a b hg hg' => ⟨⟨.unknown, ?_, ?_⟩, hplain⟩) fun g hg hg' => ?_
    · rw [hheld, Option.map_some, htag]
      rfl
    · rw [output?_plugIn]
      exact hempty.output_of_empty hfree
    · rw [hf0, Option.some.injEq] at hg
      exact absurd (hg ▸ hg') (Propagator.ne_getAttributeType_of_link hlink)

/-- Something is plugged into an attribute getter. -/
theorem afterConnect_getter (h : Settled ids p.domain none c)
    (hfree : c.target? parent input = none)
    (h0 : Settled ids p.domain (some parent) (c.plugIn child parent input))
    (hf : c.frame? parent = some f) (hgetter : f.type = getAttributeType)
    (hheld : (c.plugIn child parent input).target? parent input = some child) :
    Settled ids p.domain none
      (p.afterConnect (c.plugIn child parent input) child parent).canvas := by
  have hf0 : (c.plugIn child parent input).frame? parent = some f := by rw [frame?_plugIn, hf]
  obtain rfl := h0.formed.input_of_getter hheld hf0 hgetter
  have hplaceholder : (c.plugIn child parent documentInput).field? parent attributeField =
      some ⟨notApplicable, placeholder⟩ := by
    rw [field?_plugIn]
    refine (h.listed parent f (by simp) hf hgetter).reset fun other hother => ?_
    rw [hfree] at hother
    cases hother
  -- the getter was empty before, so unless the dropdown is filled now, it is settled as it is
  have hkept : Settled ids p.domain none (c.plugIn child parent documentInput) := by
    refine h0.settle (fun g first second hg htype => ?_) fun _ _ _ => .inl hplaceholder
    rw [hf0, Option.some.injEq] at hg
    rw [← hg] at htype
    exact absurd hgetter
      (Propagator.ne_getAttributeType_of_link (Tag.isLinkType_iff.mpr ⟨first, second, htype⟩))
  have hexists := h0.coherent.wired.block_of_target hheld
  rw [Propagator.afterConnect_of_getter hexists hf0 hgetter]
  cases hcollection : ((c.plugIn child parent documentInput).tag child).collection? with
  | none => exact hkept
  | some collection =>
    dsimp only
    rw [Propagator.fillAttributes_canvas]
    cases hfound : p.domain.collection? collection with
    | error fault => exact hkept
    | ok found =>
      dsimp only
      split
      · exact hkept
      · rename_i hsome
        refine h0.write hf0 hgetter (fun id he => (Option.some.inj he).symm) fun hfield => ?_
        refine .inr ⟨child, collection, found, ?_, ?_, hfound, by simpa using hsome, hfield⟩
        · rw [target?_write, hheld]
        · rw [tag_write, hcollection]

/-- **The response to a block being plugged in settles the canvas**, if it fits and both ends were
free. -/
theorem afterConnect (h : Settled ids p.domain none c)
    (hfits : Workspace.Fits c child parent input) (hplug : c.plug? child = none)
    (hfree : c.target? parent input = none) :
    Settled ids p.domain none
      (p.afterConnect (c.plugIn child parent input) child parent).canvas := by
  obtain ⟨check, f, slot, ho, hf, hs, hst, -⟩ := hfits.exist
  have h0 := h.plugIn (isSome_of_output? ho) hf hs hst hfits.apart hplug hfree
  have hheld : (c.plugIn child parent input).target? parent input = some child := by
    rw [target?_plugIn hf hs, if_pos ⟨rfl, rfl⟩]
  cases hlink : Tag.isLinkType f.type with
  | true => exact h.afterConnect_link hfits hfree h0 hf hlink hheld
  | false =>
    by_cases hgetter : f.type = getAttributeType
    · exact h.afterConnect_getter hfree h0 hf hgetter hheld
    · have hf0 : (c.plugIn child parent input).frame? parent = some f := by
        rw [frame?_plugIn, hf]
      have hinert : ∀ g, (c.plugIn child parent input).frame? parent = some g →
          Tag.isLinkType g.type = false ∧ g.type ≠ getAttributeType := by
        intro g hg
        rw [hf0, Option.some.injEq] at hg
        exact hg ▸ ⟨hlink, hgetter⟩
      rcases Propagator.afterConnect_of_other h0.coherent.wired hf0 hlink hgetter with
        ⟨hblocks, hdrawn⟩ | ⟨-, hlist, hdetach⟩
      · exact (h0.of_inert hinert).of_blocks hblocks hdrawn
      · rw [hdetach]
        refine (h0.detach (h0.coherent.wired.plug_iff.mpr hlist) fun id he =>
          (Option.some.inj he).symm).of_inert fun g hg => ?_
        rw [frame?_detach] at hg
        exact hinert g hg

end PlugIn

end Settled

end TypedBlocks.Canvas
