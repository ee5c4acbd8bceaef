import TypedBlocks.Proofs.Session.Edits
import TypedBlocks.Proofs.Workspace.Nesting

/-!
# Rings in session

In session, too, a block can be plugged into one that is inside it. The propagator gets in the way
of that in one case only: if the input is that of a link and holds a document, evicting the document
resets the link and pulls it out, so that it is inside nothing by the time that the child is plugged
into it (`Attended.forest_connect_iff`). Loops are never in the way, since they are plugged in
nowhere: they have no output.
-/

namespace TypedBlocks

open Canvas Definition

variable {ids : IdSupply} {p : Propagator}

namespace Canvas

variable {c c' : Canvas}

/-! ## Loops are plugged in nowhere -/

/-- No loop is plugged in. -/
def LoopsFree (c : Canvas) : Prop :=
  ∀ loop f, c.frame? loop = some f → f.type = foreachType → c.plug? loop = none

namespace LoopsFree

theorem of_blank (hblank : ∀ id, c.block? id = none) : LoopsFree c := by
  intro loop f hf
  rw [frame?, hblank] at hf
  cases hf

/-- **Every step keeps loops out of inputs.** -/
theorem step (h : LoopsFree c) (hids : Function.Injective ids) (hs : Step ids p c c') :
    LoopsFree c' := by
  cases hs with
  | pull hpulled =>
    intro loop f hf ht
    rw [hpulled.pruned.frame] at hf
    exact hpulled.pruned.plug_none (h loop f hf ht)
  | @plug child parent input hc hfits _ _ =>
    have hresponse := p.afterConnect_touched (c.plugIn child parent input) child parent
    intro loop f hf ht
    rw [hresponse.pruned.frame, frame?_plugIn] at hf
    obtain ⟨check, g, slot, ho, -⟩ := hfits.exist
    have hne : loop ≠ child := by
      rintro rfl
      rw [hc.formed.output?_of_loop hf ht] at ho
      cases ho
    refine hresponse.pruned.plug_none ?_
    rw [plug?_plugIn (isSome_of_output? ho), if_neg hne]
    exact h loop f hf ht
  | @make c' catalog blockType id preset hc hsound hmade =>
    obtain ⟨d, -, rfl, rfl⟩ := create_eq_ok hmade
    obtain ⟨-, hblocks, hnew, -⟩ := hc.coherent.build_next hids d preset
    have hblank : ((c.draw ids).2.build ids d preset).1.Blank := build_blank d preset
    intro loop f hf ht
    rw [plug?_add hnew hblank]
    rw [frame?_add] at hf
    split at hf
    · rename_i he
      rw [he, plug?_eq_bind, hnew]
      rfl
    · rw [frame?, block?, hblocks] at hf
      rw [plug?_eq_bind, block?, hblocks]
      exact h loop f hf ht

theorem steps (h : LoopsFree c) (hids : Function.Injective ids) (hs : Steps ids p c c') :
    LoopsFree c' := by
  induction hs with
  | refl => exact h
  | tail _ hstep ih => exact ih.step hids hstep

end LoopsFree

/-! ## What does not get in the way -/

/-- What holds something is no document: documents are put out by document getters, and these have
no inputs. -/
theorem Settled.isDocument_of_holds (h : Settled ids p.domain none c) {block input held : String}
    (ht : c.target? block input = some held) : (c.tag block).isDocument = false := by
  obtain ⟨f, slot, hf, hs⟩ := slot_of_target ht
  obtain ⟨key, d, hd⟩ := h.formed block f hf
  obtain rfl : d.frame = f := Option.some.inj (hd.frame.symm.trans hf)
  cases hlink : Tag.isLinkType d.blockType with
  | true =>
    obtain ⟨first, second, htype⟩ := Tag.isLinkType_iff.mp hlink
    exact (h.oriented block d.frame first second (by simp) hf htype).isDocument_eq_false
  | false =>
    rw [tag_eq_of_output? (hd.output hlink)]
    cases hd.made with
    | foreach => rfl
    | getAttribute => rfl
    | collection collection colour => cases hs
    | link l => rfl

/-- The response to anything but a document being plugged into anything but a loop changes no
connection. -/
theorem plug?_afterConnect {child parent : String} (hchild : (c.block? child).isSome)
    (hdoc : (c.tag child).isDocument = false) {f : Frame} (hf : c.frame? parent = some f)
    (hloop : f.type ≠ foreachType) (id : String) :
    (p.afterConnect c child parent).canvas.plug? id = c.plug? id := by
  cases hlink : Tag.isLinkType f.type with
  | true =>
    rw [Propagator.afterConnect_of_plain hf hlink hdoc]
    rfl
  | false =>
    by_cases hgetter : f.type = getAttributeType
    · rw [Propagator.afterConnect_of_getter hchild hf hgetter]
      split
      · rfl
      · rw [Propagator.fillAttributes_canvas]
        split
        · rfl
        · split
          · rfl
          · exact plug?_write ..
    · rw [Propagator.afterConnect_of_inert hf hlink hgetter fun hand => hloop hand.1]
      rfl

end Canvas

namespace Workspace.Attended

variable {w : Workspace} {child parent input : String}

/-- Pulling out what is no document, or is in no link, changes no other connection and no output. -/
theorem unplug_plain (h : Attended ids p w) {plug : Plug} (hp : w.canvas.plug? child = some plug)
    (hplain : (w.canvas.tag child).isDocument = true → ∀ f, w.canvas.frame? plug.block = some f →
      Tag.isLinkType f.type = false) :
    (∀ id, (w.unplug ids child).1.canvas.output? id = w.canvas.output? id) ∧
      ∀ id, id ≠ child → (w.unplug ids child).1.canvas.plug? id = w.canvas.plug? id := by
  rw [h.unplug_canvas hp, Propagator.afterDisconnect_of_plain fun hdoc f hf => ?_]
  · refine ⟨fun id => ?_, fun id hne => ?_⟩
    · rw [output?_cleared, output?_detach]
    · rw [plug?_cleared, plug?_detach, if_neg hne]
  · rw [tag_detach] at hdoc
    rw [frame?_detach] at hf
    exact hplain hdoc f hf

/-- Vacating what is no document changes no other connection and no output. -/
theorem vacate_plain (h : Attended ids p w) (hdoc : (w.canvas.tag child).isDocument = false) :
    (∀ id, (w.vacate ids child).1.canvas.output? id = w.canvas.output? id) ∧
      ∀ id, id ≠ child → (w.vacate ids child).1.canvas.plug? id = w.canvas.plug? id := by
  rw [vacate_eq]
  split
  · exact ⟨fun _ => rfl, fun _ _ => rfl⟩
  · rename_i hsome
    obtain ⟨plug, hp⟩ := Option.ne_none_iff_exists'.mp hsome
    refine h.unplug_plain hp fun hdoc' => ?_
    rw [hdoc] at hdoc'
    cases hdoc'

/-- What holds a block that is inside it holds something, so it is no document. -/
theorem isDocument_of_inside (h : Attended ids p w) (hin : w.canvas.Inside parent child) :
    (w.canvas.tag child).isDocument = false := by
  obtain ⟨block, -, hlast⟩ := Relation.TransGen.tail'_iff.mp hin
  obtain ⟨name, hp⟩ := holder?_eq_some.mp hlast
  exact h.settled.isDocument_of_holds (h.settled.coherent.wired.plug_iff.mp hp)

/-- When a block is to be plugged into one that is inside it, what the input holds is still there
after the block was vacated. -/
theorem plug?_occupant (h : Attended ids p w) (hforest : Forest w.canvas)
    (hin : w.canvas.Inside parent child) {occupant : String}
    (ht : w.canvas.target? parent input = some occupant) :
    occupant ≠ child ∧
      (w.vacate ids child).1.canvas.plug? occupant = some ⟨parent, input⟩ := by
  have hp := h.settled.coherent.wired.plug_iff.mpr ht
  have hne : occupant ≠ child := by
    rintro rfl
    exact hforest occupant (.head (holder?_eq_some.mpr ⟨input, hp⟩) hin)
  exact ⟨hne, ((h.vacate_plain (h.isDocument_of_inside hin)).2 occupant hne).trans hp⟩

/-- A block is plugged into one that is inside it, and which is no link that holds a document: that
closes a ring. -/
theorem connect_ring (h : Attended ids p w) (hforest : Forest w.canvas)
    (hloops : LoopsFree w.canvas) (hfits : Fits w.canvas child parent input)
    (hin : w.canvas.Inside parent child)
    (hplain : ∀ occupant f, w.canvas.target? parent input = some occupant →
      (w.canvas.tag occupant).isDocument = true → w.canvas.frame? parent = some f →
      Tag.isLinkType f.type = false) :
    (w.connect ids child parent input).1.canvas.Inside child child := by
  have hdoc := h.isDocument_of_inside hin
  obtain ⟨hvout, hvplug⟩ := h.vacate_plain hdoc
  have hfree : ∀ occupant, ¬ Snagged w.canvas child parent input occupant := by
    intro occupant hsnag
    have hdoc' := hsnag.document
    rw [hdoc] at hdoc'
    cases hdoc'
  obtain ⟨-, c, hclear, hc, hfitsc, -, -, hpulls, hout, hcanvas, -⟩ :=
    h.connect_of_fits hfits hfree
  -- clearing the ends concerns the child and what the input holds, and nothing else
  have hkept : ∀ block, block ≠ child → w.canvas.target? parent input ≠ some block →
      c.plug? block = w.canvas.plug? block := by
    intro block hne hnot
    rw [hclear]
    cases ht : w.canvas.target? parent input with
    | none => exact hvplug block hne
    | some occupant =>
      obtain ⟨hochild, hoplug⟩ := h.plug?_occupant hforest hin ht
      have hother : block ≠ occupant := by
        rintro rfl
        exact hnot ht
      rw [evict_some ids _ hochild]
      refine (((h.vacate child).unplug_plain hoplug fun hodoc f hf => ?_).2 block hother).trans
        (hvplug block hne)
      rw [tag_congr (hvout occupant)] at hodoc
      rw [(vacate_pruned ids w child).frame] at hf
      exact hplain occupant f ht hodoc hf
  obtain ⟨check, f, slot, ho, hf, -⟩ := hfitsc.exist
  have hloop : f.type ≠ foreachType := by
    intro hloop
    obtain ⟨plug, hp⟩ := hin.plug
    rw [hpulls.pruned.frame] at hf
    rw [hloops parent f hf hloop] at hp
    cases hp
  have hring : (c.plugIn child parent input).Inside child child := by
    refine hforest.ring_of_connected h.settled.coherent.wired input hin ?_ fun block hne ht => ?_
    · rw [holder?_plugIn hfitsc.isSome, if_pos rfl]
    · rw [holder?_plugIn hfitsc.isSome, if_neg hne]
      exact holder?_congr (hkept block hne ht)
  rw [hcanvas]
  refine hring.mono fun block holder hb => ?_
  rw [← hb]
  refine holder?_congr (plug?_afterConnect ?_ ?_ ((frame?_plugIn ..).trans hf) hloop block)
  · exact isSome_of_output? ((output?_plugIn ..).trans ho)
  · rw [tag_plugIn, tag_congr hout, hdoc]

/-- A block is plugged into a link that is inside it and holds a document: that pulls the link
out. -/
theorem forest_connect_of_document (h : Attended ids p w) (hforest : Forest w.canvas)
    (hin : w.canvas.Inside parent child) {occupant : String} {f : Frame}
    (ht : w.canvas.target? parent input = some occupant)
    (hodoc : (w.canvas.tag occupant).isDocument = true) (hf : w.canvas.frame? parent = some f)
    (hlink : Tag.isLinkType f.type = true) :
    Forest (w.connect ids child parent input).1.canvas := by
  obtain ⟨hochild, hoplug⟩ := h.plug?_occupant hforest hin ht
  obtain rfl := h.settled.formed.input_of_link ht hf hlink
  have hv := h.vacate child
  refine forest_connect_of_cleared hforest fun _ hinside => ?_
  obtain ⟨plug, hp⟩ := hinside.plug
  rw [ht, evict_some ids _ hochild] at hp
  rw [hv.plug?_unplug_of_document (hv.settled.coherent.wired.plug_iff.mp hoplug)
    (((vacate_pruned ids w child).frame parent).trans hf) hlink ?_] at hp
  · cases hp
  · rw [tag_congr ((h.vacate_plain (h.isDocument_of_inside hin)).1 occupant), hodoc]

/-- **What closes a ring in session.** A forest is left by plugging what fits into a block that is
inside it, unless that is a link which holds a document. -/
theorem forest_connect_iff (h : Attended ids p w) (hforest : Forest w.canvas)
    (hloops : LoopsFree w.canvas) :
    Forest (w.connect ids child parent input).1.canvas ↔
      ¬ (Fits w.canvas child parent input ∧ w.canvas.Inside parent child ∧
        ∀ occupant f, w.canvas.target? parent input = some occupant →
          (w.canvas.tag occupant).isDocument = true → w.canvas.frame? parent = some f →
          Tag.isLinkType f.type = false) := by
  constructor
  · rintro hkept ⟨hfits, hin, hplain⟩
    exact hkept child (h.connect_ring hforest hloops hfits hin hplain)
  · intro hnot
    by_cases hin : w.canvas.Inside parent child
    · by_cases hspared : ∃ occupant f, w.canvas.target? parent input = some occupant ∧
          (w.canvas.tag occupant).isDocument = true ∧ w.canvas.frame? parent = some f ∧
          Tag.isLinkType f.type = true
      · obtain ⟨occupant, f, ht, hodoc, hf, hlink⟩ := hspared
        exact h.forest_connect_of_document hforest hin ht hodoc hf hlink
      · refine forest_connect hforest fun hfits => absurd ⟨hfits, hin, ?_⟩ hnot
        intro occupant f ht hodoc hf
        rw [← Bool.not_eq_true]
        exact fun hlink => hspared ⟨occupant, f, ht, hodoc, hf, hlink⟩
    · exact forest_connect hforest fun _ => hin

end Workspace.Attended

end TypedBlocks
