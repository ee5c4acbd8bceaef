import TypedBlocks.Proofs.Run.Attended

/-!
# The order in which a chain is wired

A document in a link, and the link in an attribute getter: the getter offers the attributes of what
the link leads to. That is so if the document is plugged in first. If the link is plugged into the
getter first, nothing is known of it by then, and what becomes known when the document follows does
not reach the getter: giving a link its output concerns the link alone, unlike resetting it, which
is passed on to what holds the link. The getter goes on showing the placeholder.

This is all the difference that the order makes: `Attended.document_first` and `Attended.link_first`
end in the same canvas, but for the dropdown of the getter.
-/

namespace TypedBlocks

open Canvas Definition

variable {ids : IdSupply} {p : Propagator} {c : Canvas}

/-- No attributes to choose from look like the placeholder: an attribute is never shown by a name
that it does not have. -/
theorem Collection.dropdown_ne_placeholder {found : Collection} (hne : found.attributes ≠ []) :
    (⟨found.defaultChoice, found.choices⟩ : Field) ≠ ⟨notApplicable, placeholder⟩ := by
  intro he
  obtain ⟨hvalue, hchoices⟩ := Field.mk.inj he
  obtain ⟨first, hfirst, hname⟩ := found.exists_default hne
  have hmem : first ∈ found.attributes := by
    rcases Option.or_eq_some_iff.mp hfirst with hpreferred | ⟨-, hhead⟩
    · obtain ⟨id, -, hfind⟩ := Option.bind_eq_some_iff.mp hpreferred
      exact List.mem_of_find?_eq_some hfind
    · exact List.mem_of_mem_head? hhead
  have hchoice : ({ label := first.name, value := first.id } : Choice) ∈ placeholder := by
    rw [← hchoices, choices]
    exact List.mem_map.mpr ⟨first, hmem, rfl⟩
  rw [placeholder, List.mem_singleton, Choice.mk.injEq] at hchoice
  rw [hname, hchoice.1] at hvalue
  exact absurd hvalue (by decide)

namespace Canvas

/-- A document, a link that is empty and an attribute getter that is empty, none of them wired to
another yet. The link leads from the collection of the document to `other`. -/
structure Loose (c : Canvas) (doc link getter collection other : String) : Prop where
  isDocument : ∃ b, c.block? doc = some b ∧ b.type = getterType collection
  isLink : ∃ b first second, c.block? link = some b ∧ Tag.ofText b.type = .link first second ∧
    (collection = first ∨ collection = second) ∧
    other = if collection = first then second else first
  isGetter : ∃ b, c.block? getter = some b ∧ b.type = getAttributeType
  document_free : c.plug? doc = none
  link_free : c.plug? link = none
  link_empty : c.target? link linkInput = none
  getter_empty : c.target? getter documentInput = none

namespace Loose

variable {doc link getter collection other : String}

/-- They are three blocks. -/
theorem apart (h : Loose c doc link getter collection other) :
    doc ≠ link ∧ link ≠ getter ∧ doc ≠ getter := by
  obtain ⟨d, hd, hdoc⟩ := h.isDocument
  obtain ⟨l, first, second, hl, hlink, -⟩ := h.isLink
  obtain ⟨g, hg, hgetter⟩ := h.isGetter
  have hdoc : Tag.ofText d.type = .document (getterBeginning ++ collection) := by
    rw [hdoc, ofText_getterType]
  have hgetter : Tag.ofText g.type = .unknown := by
    rw [hgetter]
    decide
  refine ⟨?_, ?_, ?_⟩
  · rintro rfl
    obtain rfl := Option.some.inj (hd.symm.trans hl)
    rw [hdoc] at hlink
    cases hlink
  · rintro rfl
    obtain rfl := Option.some.inj (hl.symm.trans hg)
    rw [hgetter] at hlink
    cases hlink
  · rintro rfl
    obtain rfl := Option.some.inj (hd.symm.trans hg)
    rw [hgetter] at hdoc
    cases hdoc

end Loose

end Canvas

namespace Workspace.Attended

variable {w : Workspace} {doc link getter collection other : String}

/-- A document is plugged into a link that holds nothing: the link leads to the other side. Nothing
else happens, because nobody has to make room and the document fits. -/
theorem connect_document (h : Attended ids p w) {d l : Frame} {first second : String}
    (hd : w.canvas.frame? doc = some d) (hdoc : d.type = getterType collection)
    (hl : w.canvas.frame? link = some l) (hlink : Tag.ofText l.type = .link first second)
    (hside : collection = first ∨ collection = second) (hne : doc ≠ link)
    (hfree : w.canvas.plug? doc = none) (hempty : w.canvas.target? link linkInput = none) :
    (w.connect ids doc link linkInput).2 = .ok () ∧
      (w.connect ids doc link linkInput).1.canvas =
        (w.canvas.plugIn doc link linkInput).emit link
          (.documentArray (if collection = first then second else first)) := by
  have ho := h.settled.formed.output?_of_getterType hd hdoc
  have hfits := h.settled.fits_link_of_document ho hl hlink hside hne
  obtain ⟨hok, hcanvas⟩ := h.connect_of_free hfits hfree hempty
  have hcollection : collection ≠ "" := by
    obtain ⟨hfirst, hsecond, -⟩ := h.settled.formed.slot?_of_link hl hlink
    rcases hside with rfl | rfl
    · exact hfirst
    · exact hsecond
  have htag : w.canvas.tag doc = .document collection := by
    rw [tag_eq_of_output? ho, Tag.ofCheck, Tag.ofText_text_document, if_neg hcollection]
  refine ⟨hok, hcanvas.trans ?_⟩
  refine Propagator.afterConnect_of_link ((frame?_plugIn ..).trans hl)
    (Tag.isLinkType_iff.mpr ⟨first, second, hlink⟩) ((tag_plugIn ..).trans htag) ?_
  rw [hlink]
  exact Tag.across?_link_eq_some_iff.mpr ⟨hside, rfl⟩

/-- Something is plugged into an attribute getter that holds nothing. -/
theorem connect_getter (h : Attended ids p w) {child : String} {check : Option (List String)}
    {g : Frame} (ho : w.canvas.output? child = some (true, check))
    (hg : w.canvas.frame? getter = some g) (hgetter : g.type = getAttributeType)
    (hne : child ≠ getter) (hfree : w.canvas.plug? child = none)
    (hempty : w.canvas.target? getter documentInput = none) :
    (w.connect ids child getter documentInput).2 = .ok () ∧
      (w.connect ids child getter documentInput).1.canvas =
        match (w.canvas.tag child).collection? with
        | none => w.canvas.plugIn child getter documentInput
        | some collection =>
          (p.fillAttributes (w.canvas.plugIn child getter documentInput) getter
            collection).canvas := by
  obtain ⟨hok, hcanvas⟩ :=
    h.connect_of_free (h.settled.fits_getter ho hg hgetter hne) hfree hempty
  refine ⟨hok, hcanvas.trans ?_⟩
  rw [Propagator.afterConnect_of_getter (isSome_of_output? ((output?_plugIn ..).trans ho))
    ((frame?_plugIn ..).trans hg) hgetter]
  cases hcollection : (w.canvas.tag child).collection? with
  | none =>
    rw [tag_plugIn, hcollection]
    rfl
  | some collection => rw [tag_plugIn, hcollection]

/-- **The document is plugged in first.** By the time that the getter holds the link, it is known
what the link leads to. -/
theorem document_first (h : Attended ids p w)
    (hloose : Loose w.canvas doc link getter collection other) :
    let early := w.connect ids doc link linkInput
    let done := early.1.connect ids link getter documentInput
    early.2 = .ok () ∧ done.2 = .ok () ∧
      done.1.canvas = (p.fillAttributes (((w.canvas.plugIn link getter documentInput).plugIn doc
        link linkInput).emit link (.documentArray other)) getter other).canvas := by
  intro early done
  obtain ⟨hdl, hlg, -⟩ := hloose.apart
  obtain ⟨d, hd, hdoc⟩ := hloose.isDocument
  obtain ⟨l, first, second, hl, hlink, hside, rfl⟩ := hloose.isLink
  obtain ⟨g, hg, hgetter⟩ := hloose.isGetter
  have hfl := frame?_of_block? hl
  obtain ⟨hok, hcanvas⟩ := h.connect_document (frame?_of_block? hd) hdoc hfl hlink hside hdl
    hloose.document_free hloose.link_empty
  generalize hother : (if collection = first then second else first) = other at *
  have hne : other ≠ "" := by
    obtain ⟨hfirst, hsecond, -⟩ := h.settled.formed.slot?_of_link hfl hlink
    rw [← hother]
    split
    · exact hsecond
    · exact hfirst
  have hattended : Attended ids p early.1 := h.connect doc link linkInput
  have hcanvas : early.1.canvas = _ := hcanvas
  have ho : early.1.canvas.output? link = some (true, some [(Tag.documentArray other).text]) := by
    rw [hcanvas]
    exact output?_emit_self (isSome_of_frame? ((frame?_plugIn ..).trans hfl)) _
  have htag : early.1.canvas.tag link = .documentArray other := by
    rw [tag_eq_of_output? ho, Tag.ofCheck, Tag.ofText_text_documentArray, if_neg hne]
  have hg' : early.1.canvas.frame? getter = some g.frame := by
    rw [hcanvas, frame?_emit, frame?_plugIn]
    exact frame?_of_block? hg
  have hfree : early.1.canvas.plug? link = none := by
    rw [hcanvas, plug?_emit, plug?_plugIn (by rw [hd]; rfl), if_neg hdl.symm]
    exact hloose.link_free
  have hempty : early.1.canvas.target? getter documentInput = none := by
    obtain ⟨-, -, a, b, -, hslot⟩ := h.settled.formed.slot?_of_link hfl hlink
    rw [hcanvas, target?_emit, target?_plugIn hfl (by rw [hslot, if_pos rfl]),
      if_neg fun hand => hlg hand.1.symm]
    exact hloose.getter_empty
  obtain ⟨hok', hcanvas'⟩ := hattended.connect_getter ho hg' hgetter hlg hfree hempty
  refine ⟨hok, hok', hcanvas'.trans ?_⟩
  rw [htag, hcanvas, emit_plugIn, plugIn_comm _ hdl hlg]
  rfl

/-- **The link is plugged in first.** The getter holds it before it is known what it leads to, and
is not told when that is known. -/
theorem link_first (h : Attended ids p w)
    (hloose : Loose w.canvas doc link getter collection other) :
    let early := w.connect ids link getter documentInput
    let done := early.1.connect ids doc link linkInput
    early.2 = .ok () ∧ done.2 = .ok () ∧
      done.1.canvas = ((w.canvas.plugIn link getter documentInput).plugIn doc link linkInput).emit
        link (.documentArray other) := by
  intro early done
  obtain ⟨hdl, hlg, hdg⟩ := hloose.apart
  obtain ⟨d, hd, hdoc⟩ := hloose.isDocument
  obtain ⟨l, first, second, hl, hlink, hside, rfl⟩ := hloose.isLink
  obtain ⟨g, hg, hgetter⟩ := hloose.isGetter
  have hfl := frame?_of_block? hl
  have horiented := h.settled.oriented link l.frame first second (by simp) hfl hlink
  obtain ⟨hok, hcanvas⟩ := h.connect_getter (horiented.output_of_empty hloose.link_empty)
    (frame?_of_block? hg) hgetter hlg hloose.link_free hloose.getter_empty
  have hcanvas : early.1.canvas = _ := hcanvas
  rw [horiented.tag_of_empty hloose.link_empty] at hcanvas
  have hcanvas : early.1.canvas = w.canvas.plugIn link getter documentInput := hcanvas
  have hattended : Attended ids p early.1 := h.connect link getter documentInput
  have hd' : early.1.canvas.frame? doc = some d.frame := by
    rw [hcanvas, frame?_plugIn]
    exact frame?_of_block? hd
  have hl' : early.1.canvas.frame? link = some l.frame := by
    rw [hcanvas, frame?_plugIn]
    exact hfl
  have hfree : early.1.canvas.plug? doc = none := by
    rw [hcanvas, plug?_plugIn (by rw [hl]; rfl), if_neg hdl]
    exact hloose.document_free
  have hempty : early.1.canvas.target? link linkInput = none := by
    have hslot : g.frame.slot? documentInput = some ⟨none, false⟩ := by
      rw [h.settled.formed.frame_of_builtIn .attributeGetter (frame?_of_block? hg) hgetter,
        slot?_attributeGetter, if_pos rfl]
    rw [hcanvas, target?_plugIn (frame?_of_block? hg) hslot, if_neg fun hand => hlg hand.1]
    exact hloose.link_empty
  obtain ⟨hok', hcanvas'⟩ :=
    hattended.connect_document hd' hdoc hl' hlink hside hdl hfree hempty
  exact ⟨hok, hok', hcanvas'.trans (by rw [hcanvas])⟩

end Workspace.Attended

namespace Editor

variable {e : Editor} {doc link getter collection other : String}

/-- **The order in which a chain is wired shows in the getter**, and nowhere else. Both orders
succeed. If the document comes first, the getter is given the attributes of what the link leads to;
if the link comes first, it goes on showing the placeholder. So both end in the same canvas just if
there are no attributes to show. -/
theorem chain_order_matters (hids : Function.Injective ids) {workspace : String}
    {settings : Settings} (h : Reach ids (startWith ids workspace settings p) Act.ByUser e)
    (hloose : Loose e.workspace.canvas doc link getter collection other) :
    let oriented := e.perform ids (.connect doc link linkInput)
    let informed := oriented.1.perform ids (.connect link getter documentInput)
    let held := e.perform ids (.connect link getter documentInput)
    let uninformed := held.1.perform ids (.connect doc link linkInput)
    oriented.2 = .ok () ∧ informed.2 = .ok () ∧ held.2 = .ok () ∧ uninformed.2 = .ok () ∧
    informed.1.workspace.canvas =
      (p.fillAttributes uninformed.1.workspace.canvas getter other).canvas ∧
    uninformed.1.workspace.canvas.field? getter attributeField =
      some ⟨notApplicable, placeholder⟩ ∧
    (informed.1.workspace.canvas = uninformed.1.workspace.canvas ↔
      ∀ found, p.domain.collection? other = .ok found → found.attributes = []) := by
  intro oriented informed held uninformed
  have hattended := (h.inOrder hids).attended
  obtain ⟨hok, hok', hinformed⟩ := hattended.document_first hloose
  obtain ⟨hok'', hok''', huninformed⟩ := hattended.link_first hloose
  have huninformed : uninformed.1.workspace.canvas = _ := huninformed
  have hinformed : informed.1.workspace.canvas =
      (p.fillAttributes uninformed.1.workspace.canvas getter other).canvas := by
    rw [huninformed]
    exact hinformed
  have hplaceholder : uninformed.1.workspace.canvas.field? getter attributeField =
      some ⟨notApplicable, placeholder⟩ := by
    obtain ⟨g, hg, hgetter⟩ := hloose.isGetter
    rw [huninformed, field?_emit, field?_plugIn, field?_plugIn]
    refine (hattended.settled.listed getter g.frame (by simp) (frame?_of_block? hg) hgetter).reset
      fun child hchild => ?_
    rw [hloose.getter_empty] at hchild
    cases hchild
  refine ⟨hok, hok', hok'', hok''', hinformed, hplaceholder, ?_⟩
  rw [hinformed, Propagator.fillAttributes_canvas]
  cases hfound : p.domain.collection? other with
  | error fault => simp
  | ok found =>
    simp only [Except.ok.injEq, forall_eq', Collection.choices, List.isEmpty_map,
      List.isEmpty_iff]
    by_cases hnone : found.attributes = []
    · simp [hnone]
    · rw [if_neg hnone]
      refine iff_of_false (fun he => ?_) hnone
      -- the dropdown would show the placeholder in both
      have hfield : (uninformed.1.workspace.canvas.write getter attributeField
          ⟨found.defaultChoice, found.choices⟩).field? getter attributeField =
            some ⟨found.defaultChoice, found.choices⟩ := by
        rw [field?_write, if_pos ⟨rfl, rfl⟩, hplaceholder, Option.map_some]
      rw [Collection.choices, he, hplaceholder, Option.some.injEq] at hfield
      exact Collection.dropdown_ne_placeholder hnone hfield.symm

/-- In the harbour the ship is plugged into the link before or after the link is plugged into the
attribute getter. Only in the first case the getter offers the depth of ports. -/
theorem chain_order_matters_harbour :
    let informed := ((harbour []).perform strokes (.connect "|||" "||||" linkInput)).1.perform
      strokes (.connect "||||" "|||||" documentInput)
    let uninformed := ((harbour []).perform strokes
      (.connect "||||" "|||||" documentInput)).1.perform strokes (.connect "|||" "||||" linkInput)
    informed.2 = .ok () ∧ uninformed.2 = .ok () ∧
    informed.1.workspace.canvas.field? "|||||" attributeField =
      some ⟨"Depth", [{ label := "Depth", value := "depth" }]⟩ ∧
    uninformed.1.workspace.canvas.field? "|||||" attributeField =
      some ⟨notApplicable, placeholder⟩ ∧
    informed.1.workspace.canvas ≠ uninformed.1.workspace.canvas := by
  intro informed uninformed
  have hloose : Loose (harbour []).workspace.canvas "|||" "||||" "|||||" "ship" "port" := by
    obtain ⟨l, hl, htype⟩ : ∃ b, (harbour []).workspace.canvas.block? "||||" = some b ∧
        b.type = "port_ship_link" := Option.map_eq_some_iff.mp (by decide +kernel)
    refine ⟨Option.map_eq_some_iff.mp (by decide +kernel), ?_,
      Option.map_eq_some_iff.mp (by decide +kernel), by decide +kernel, by decide +kernel,
      by decide +kernel, by decide +kernel⟩
    exact ⟨l, "port", "ship", hl, by rw [htype]; decide +kernel, .inr rfl, rfl⟩
  obtain ⟨-, hok, -, hok', -, hplaceholder, hsame⟩ :=
    chain_order_matters strokes_injective (reach_harbour []) hloose
  refine ⟨hok, hok', by decide +kernel, hplaceholder, fun he => ?_⟩
  obtain ⟨found, hfound, hsome⟩ : ∃ found, Domain.harbour.collection? "port" = .ok found ∧
      found.attributes ≠ [] := ⟨_, rfl, by decide⟩
  exact hsome (hsame.mp he found hfound)

end Editor

end TypedBlocks
