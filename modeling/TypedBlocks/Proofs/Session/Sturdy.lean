import TypedBlocks.Proofs.Catalog.Sound
import TypedBlocks.Proofs.Propagator.Faults
import TypedBlocks.Proofs.Session.Settled
import TypedBlocks.Proofs.Workspace.Connecting

/-!
# What no event can break

A session believes every event, so what a settled canvas says about links and dropdowns can be
undone by an event that never happened. Less can be said of a canvas then, but it is kept by every
touch of a propagator (`Sturdy.touch`): blocks are still formed, what is plugged in still fits, and
loops still name variables. What is plugged in still fits because only the outputs of links change,
and these fit nothing but inputs for anything (`Sturdy.slot_unchecked`): an input that is not for
anything is for single documents, and those no link puts out.

Users keep it as well (`Sturdy.plugIn`, `Sturdy.create`), and it is all that a propagator needs in
order not to fail (`Sturdy.equipped`).
-/

namespace TypedBlocks.Canvas

open Definition

variable {ids : IdSupply} {c c' : Canvas}

/-- What holds on a canvas whatever events are reported: what is plugged in fits, links put out no
single documents, and loops name variables. That links follow what they hold is not among it. -/
structure Sturdy (ids : IdSupply) (c : Canvas) : Prop where
  coherent : Coherent ids c
  formed : Formed c
  /-- no link puts out single documents -/
  plural : ∀ id f, c.frame? id = some f → Tag.isLinkType f.type = true →
    ∃ text, c.output? id = some (true, some [text]) ∧ (Tag.ofText text).isDocument = false
  /-- what is plugged in fits -/
  fitting : ∀ child parent input, c.target? parent input = some child →
    Workspace.Fits c child parent input
  /-- the ids of variables were drawn -/
  drawn : ∀ id ∈ c.vars.map (·.id), ∃ n, ids n = id
  /-- loops name variables -/
  named : ∀ loop f, c.frame? loop = some f → f.type = foreachType → (c.loopVariable? loop).isSome

namespace Sturdy

theorem empty (ids : IdSupply) : Sturdy ids Canvas.empty where
  coherent := .empty
  formed _ _ hf := by cases hf
  plural _ _ hf := by cases hf
  fitting _ _ _ ht := by cases ht
  drawn _ hid := by cases hid
  named _ _ hf := by cases hf

/-- Nothing is missing that a propagator looks for, if no id is empty. -/
theorem equipped (h : Sturdy ids c) (hne : ∀ n, ids n ≠ "") : Equipped c where
  wired := h.coherent.wired
  dropdowns id f hf ht := by
    rw [h.formed.frame_of_builtIn .attributeGetter hf ht]
    rfl
  identified v hv := by
    obtain ⟨n, hn⟩ := h.drawn v.id (List.mem_map_of_mem hv)
    exact hn ▸ hne n
  named := h.named

/-! ## Touches -/

/-- **What takes a link takes anything.** A link offers no single documents, and the only inputs
that are for something are for these. So giving a link another output never makes it unfit for its
place. -/
theorem slot_unchecked (h : Sturdy ids c) {child parent input : String}
    (hfits : Workspace.Fits c child parent input) {f : Frame} (hf : c.frame? child = some f)
    (hlink : Tag.isLinkType f.type = true) {g : Frame} {slot : Slot}
    (hg : c.frame? parent = some g) (hs : g.slot? input = some slot) : slot.check = none := by
  obtain ⟨check, g', slot', ho, hg', hs', -, hcompat⟩ := hfits.exist
  obtain rfl := Option.some.inj (hg.symm.trans hg')
  obtain rfl := Option.some.inj (hs.symm.trans hs')
  obtain ⟨text, hout, hplain⟩ := h.plural child f hf hlink
  obtain ⟨-, rfl⟩ := Prod.mk.inj (Option.some.inj (ho.symm.trans hout))
  cases hcheck : slot.check with
  | none => rfl
  | some accepted =>
    -- an input with a check takes single documents only
    have hmem : text ∈ accepted := by simpa [Workspace.compatible, hcheck] using hcompat
    obtain ⟨key, d, hd⟩ := h.formed parent g hg
    obtain rfl : d.frame = g := Option.some.inj (hd.frame.symm.trans hg)
    rw [hd.made.isDocument_of_check hs hcheck hmem] at hplain
    cases hplain

/-- What fits goes on to fit: a touch changes no output but that of a link, and links fit only where
everything does. -/
theorem fits_touch (h : Sturdy ids c) (ht : Touch c c') {child parent input : String}
    (hfits : Workspace.Fits c child parent input) : Workspace.Fits c' child parent input := by
  have hframe := ht.pruned.frame parent
  rcases ht.output? child with hsame | ⟨f, tag, hf, hlink, hout, -⟩
  · exact hfits.congr hsame hframe
  · obtain ⟨check, g, slot, -, hg, hs, hst, -⟩ := hfits.exist
    refine ⟨⟨_, g, slot, hout, hframe.trans hg, hs, hst, ?_⟩, hfits.apart⟩
    rw [h.slot_unchecked hfits hf hlink hg hs]
    rfl

/-- **Every touch keeps it**, so no event, true or not, puts a sturdy canvas out of order. -/
theorem touch (h : Sturdy ids c) (ht : Touch c c') : Sturdy ids c' where
  coherent := h.coherent.amended (ht.amended ids)
  formed := h.formed.congr ht.pruned.frame fun id f hf hplain => by
    rcases ht.output? id with hsame | ⟨f', tag, hf', hlink, -⟩
    · exact hsame
    · rw [hf, Option.some.injEq] at hf'
      rw [← hf', hplain] at hlink
      cases hlink
  plural id f hf hlink := by
    rw [ht.pruned.frame] at hf
    rcases ht.output? id with hsame | ⟨f', tag, -, -, hout, hplain⟩
    · rw [hsame]
      exact h.plural id f hf hlink
    · exact ⟨tag.text, hout, hplain⟩
  fitting child parent input htarget := by
    rcases ht.pruned.target parent input with hsame | hnone
    · exact h.fits_touch ht (h.fitting child parent input (hsame.symm.trans htarget))
    · rw [hnone] at htarget
      cases htarget
  drawn id hid := h.drawn id (ht.ids ▸ hid)
  named loop f hf hloop := ht.named (h.named loop f ((ht.pruned.frame loop).symm.trans hf) hloop)

/-- Any number of touches keeps it, and what fits goes on to fit. -/
theorem touched (h : Sturdy ids c) (ht : Touched c c') :
    Sturdy ids c' ∧ ∀ {child parent input}, Workspace.Fits c child parent input →
      Workspace.Fits c' child parent input := by
  induction ht with
  | refl => exact ⟨h, id⟩
  | tail _ htouch ih => exact ⟨ih.1.touch htouch, fun hfits => ih.1.fits_touch htouch (ih.2 hfits)⟩

/-! ## Users -/

/-- Something is plugged into a free input that takes it. -/
theorem plugIn (h : Sturdy ids c) {child parent input : String}
    (hfits : Workspace.Fits c child parent input) (hplug : c.plug? child = none)
    (hfree : c.target? parent input = none) : Sturdy ids (c.plugIn child parent input) := by
  obtain ⟨check, f, slot, ho, hf, hs, hst, -⟩ := hfits.exist
  have hkept : ∀ {child' parent' input'}, Workspace.Fits c child' parent' input' →
      Workspace.Fits (c.plugIn child parent input) child' parent' input' :=
    fun hfits' => hfits'.congr (output?_plugIn ..) (frame?_plugIn ..)
  refine ⟨h.coherent.plugIn (isSome_of_output? ho) hf hs hst hfits.apart hplug hfree,
    h.formed.congr (fun id => frame?_plugIn ..) fun id _ _ _ => output?_plugIn ..,
    fun id f' hf' hlink => ?_, fun other block name ht => ?_, h.drawn, fun loop f' hf' hloop => ?_⟩
  · rw [frame?_plugIn] at hf'
    rw [output?_plugIn]
    exact h.plural id f' hf' hlink
  · rw [target?_plugIn hf hs] at ht
    split at ht
    · rename_i he
      cases ht
      rw [he.1, he.2]
      exact hkept hfits
    · exact hkept (h.fitting other block name ht)
  · rw [frame?_plugIn] at hf'
    rw [loopVariable?, field?_plugIn]
    exact h.named loop f' hf' hloop

/-- Variables are declared. -/
theorem declared (h : Sturdy ids c) (hd : Declared ids c c') (hblocks : c'.blocks = c.blocks)
    (hdrawn : c.drawn ≤ c'.drawn) : Sturdy ids c' := by
  have hframe := frame?_of_blocks hblocks
  have hout := output?_of_blocks hblocks
  obtain ⟨new, hvars, hnew⟩ := hd
  have hids : c'.vars.map (·.id) = c.vars.map (·.id) ++ new.map (·.id) := by
    rw [hvars, List.map_append]
  refine ⟨h.coherent.of_blocks hblocks hdrawn, h.formed.congr hframe fun id _ _ _ => hout id,
    fun id f hf hlink => ?_, fun child parent input ht => ?_, fun id hid => ?_,
    fun loop f hf hloop => ?_⟩
  · rw [hframe] at hf
    rw [hout]
    exact h.plural id f hf hlink
  · rw [target?_of_blocks hblocks] at ht
    exact (h.fitting child parent input ht).congr (hout child) (hframe parent)
  · rw [hids] at hid
    rcases List.mem_append.mp hid with hid | hid
    · exact h.drawn id hid
    · obtain ⟨v, hv, rfl⟩ := List.mem_map.mp hid
      exact hnew v hv
  · rw [hframe] at hf
    obtain ⟨field, hfield, hid⟩ := loopVariable?_isSome_iff.mp (h.named loop f hf hloop)
    exact loopVariable?_isSome_iff.mpr
      ⟨field, (field?_of_blocks hblocks ..).trans hfield, hids ▸ List.mem_append_left _ hid⟩

/-- A fresh block is added under a new id; if it is a loop, it names a variable. -/
theorem add (h : Sturdy ids c) {id : String} {b : Block} {key : Key} {d : Definition}
    (hnew : c.block? id = none) (hmade : Made key d) (hb : b.Fresh d)
    (hcoherent : Coherent ids (c.add id b)) (hnamed : d = foreachLoop →
      ∃ field, b.fields.get? variableField = some field ∧ field.value ∈ c.vars.map (·.id)) :
    Sturdy ids (c.add id b) := by
  refine ⟨hcoherent, h.formed.add hmade hb, fun other f hf hlink => ?_,
    fun child parent input ht => ?_, h.drawn, fun loop f hf hloop => ?_⟩
  · rw [frame?_add] at hf
    rw [output?_add]
    split
    · rename_i he
      rw [if_pos he, hb.frame, Option.some.injEq] at hf
      rw [← hf] at hlink
      obtain ⟨first, second, htype⟩ := Tag.isLinkType_iff.mp hlink
      obtain ⟨-, -, -, houtput, -⟩ := hmade.slot?_of_link htype
      rw [hb.hasOutput, hb.outputCheck, houtput]
      exact ⟨Tag.unknown.text, rfl, by decide⟩
    · rename_i he
      rw [if_neg he] at hf
      exact h.plural other f hf hlink
  · -- what is plugged in, and what it is plugged into, was there before
    rw [target?_add hnew hb.toBlank] at ht
    have hfits := h.fitting child parent input ht
    have hparent : parent ≠ id := by
      rintro rfl
      rw [target?_eq_bind, hnew] at ht
      cases ht
    have hchild : child ≠ id := by
      rintro rfl
      have hsome := h.coherent.wired.block_of_target ht
      rw [hnew] at hsome
      cases hsome
    exact hfits.congr (by rw [output?_add, if_neg hchild]) (by rw [frame?_add, if_neg hparent])
  · rw [frame?_add] at hf
    rw [loopVariable?_isSome_iff, field?_add]
    split
    · rename_i he
      rw [if_pos he, hb.frame, Option.some.injEq] at hf
      rw [← hf] at hloop
      exact hnamed (hmade.eq_foreachLoop hloop).2
    · rename_i he
      rw [if_neg he] at hf
      exact loopVariable?_isSome_iff.mp (h.named loop f hf hloop)

/-- **A block is made**, under a new id. It holds nothing, is plugged in nowhere, and names a
variable if it is a loop. -/
theorem create (h : Sturdy ids c) (hids : Function.Injective ids) {catalog : Catalog}
    (hsound : catalog.Sound) {blockType id : String} {preset : Option String}
    (hc : c.create ids catalog blockType preset = .ok (id, c')) : Sturdy ids c' := by
  have hcoherent := h.coherent.create hids hc
  obtain ⟨d, hd, rfl, rfl⟩ := create_eq_ok hc
  obtain ⟨key, hmade⟩ := hsound.definition? hd
  obtain ⟨-, hblocks, hnew, hdrawn⟩ := h.coherent.build_next hids d preset
  have hdeclared : Declared ids c ((c.draw ids).2.build ids d preset).2 :=
    Declared.trans (.of_vars rfl) (build_declared (c.draw ids).2 d preset)
  refine (h.declared hdeclared hblocks (Nat.le_of_lt hdrawn)).add hnew hmade
    (build_fresh ids _ d preset) hcoherent ?_
  rintro rfl
  obtain ⟨v, hfield, hv⟩ := build_foreachLoop (c.draw ids).2 preset
  exact ⟨⟨v.id, []⟩, hfield, List.mem_map_of_mem hv⟩

end Sturdy

end TypedBlocks.Canvas
