import TypedBlocks.Proofs.Session.Settling

/-!
# Stray events

Events that nothing stands behind: a block is said to be pulled out of another, and nothing has
changed, or to be plugged into another, and is in none of its inputs.

* A stray disconnection does nothing to a settled canvas (`Settled.afterDisconnect_eq_self`), for
  whatever the rule would reset is reset already.
* A stray connection is believed. The rule for loops asks whether the loop holds the block, the
  rules for links and attribute getters do not; what they do then is `Misled`. It takes nothing but
  the wiring to say so, so this is not a matter of settled canvases (`Wired.afterConnect_stray`).
-/

namespace TypedBlocks.Canvas

open Definition

variable {ids : IdSupply} {domain : Domain} {p : Propagator} {c c' : Canvas} {child parent : String}

/-! ## Disconnections -/

namespace Settled

/-- A dropdown that belongs to an empty input shows the placeholder already, on a settled canvas, so
clearing it does nothing. -/
theorem cleared_eq_self (h : Settled ids domain none c) (id : String) : c.cleared id = c := by
  rw [Canvas.cleared]
  split
  · rename_i hempty
    obtain ⟨f, hf, hgetter⟩ := Option.map_eq_some_iff.mp hempty.1
    have hreset := (h.listed id f (by simp) hf hgetter).reset fun held hheld => by
      rw [hempty.2] at hheld
      cases hheld
    refine write_eq_self fun field hfield => ?_
    exact Option.some.inj (hreset.symm.trans hfield)
  · rfl

/-- **A stray disconnection does nothing.** A link that holds nothing is reset already, and so is
the dropdown of an attribute getter that holds nothing. -/
theorem afterDisconnect_eq_self (h : Settled ids p.domain none c) (child parent : String) :
    (p.afterDisconnect c child parent).canvas = c := by
  by_cases hlink : (c.tag child).isDocument = true ∧ ∃ f, c.frame? parent = some f ∧
      Tag.isLinkType f.type = true
  · obtain ⟨hdoc, f, hf, hlink⟩ := hlink
    refine Propagator.afterDisconnect_of_idle hf hlink hdoc ?_
    cases ht : c.target? parent linkInput with
    | some held => exact .inr rfl
    | none =>
      left
      obtain ⟨first, second, htype⟩ := Tag.isLinkType_iff.mp hlink
      rw [(h.oriented parent f first second (by simp) hf htype).tag_of_empty ht]
      rfl
  · rw [Propagator.afterDisconnect_of_plain fun hdoc f hf => ?_]
    · exact h.cleared_eq_self parent
    · rw [← Bool.not_eq_true]
      exact fun he => hlink ⟨hdoc, f, hf, he⟩

end Settled

/-! ## Connections -/

/-- What believing that `child` is in `parent` does to a canvas, where it does anything. -/
inductive Misled (p : Propagator) (c : Canvas) (child parent : String) : Canvas → Prop where
  /-- a link leads across from a document that it does not hold -/
  | orient {f : Frame} {first second collection : String} (frame : c.frame? parent = some f)
      (link : Tag.ofText f.type = .link first second)
      (document : c.tag child = .document collection)
      (side : collection = first ∨ collection = second)
      (news : c.output? parent ≠ some (true,
        some [(Tag.documentArray (if collection = first then second else first)).text])) :
      Misled p c child parent
        (c.emit parent (.documentArray (if collection = first then second else first)))
  /-- what a link holds is thrown out because of a document that it does not hold -/
  | expel {f : Frame} {first second collection occupant : String}
      (frame : c.frame? parent = some f) (link : Tag.ofText f.type = .link first second)
      (document : c.tag child = .document collection)
      (foreign : collection ≠ first ∧ collection ≠ second)
      (held : c.target? parent linkInput = some occupant) :
      Misled p c child parent (c.detach occupant ⟨parent, linkInput⟩)
  /-- an attribute getter offers attributes of documents that it does not hold -/
  | fill {f : Frame} {collection : String} {found : Collection} (frame : c.frame? parent = some f)
      (getter : f.type = getAttributeType) (documents : (c.tag child).collection? = some collection)
      (known : p.domain.collection? collection = .ok found)
      (offers : found.choices.isEmpty = false)
      (news : ∃ field, c.field? parent attributeField = some field ∧
        field ≠ ⟨found.defaultChoice, found.choices⟩) :
      Misled p c child parent
        (c.write parent attributeField ⟨found.defaultChoice, found.choices⟩)

/-- A link that is told of a document leads across from it, or throws out what it holds. Whether it
holds that document, it does not ask. -/
theorem orientLink_canvas (hw : Wired c) {link : String} {f : Frame} (hf : c.frame? link = some f)
    {first second : String} (htype : Tag.ofText f.type = .link first second)
    (collection : String) :
    (Propagator.orientLink c link f.type collection).canvas =
      if collection = first ∨ collection = second then
        c.emit link (.documentArray (if collection = first then second else first))
      else
        match c.target? link linkInput with
        | none => c
        | some occupant => c.detach occupant ⟨link, linkInput⟩ := by
  by_cases hside : collection = first ∨ collection = second
  · have hacross := Tag.across?_link_eq_some_iff.mpr ⟨hside, rfl⟩
    rw [← htype] at hacross
    rw [if_pos hside, Propagator.orientLink, hacross]
    simp only [setOutputTag_eq_ok (isSome_of_frame? hf), Outcome.ofResult]
  · have hacross := Tag.across?_link_eq_none_iff.mpr (not_or.mp hside)
    rw [← htype] at hacross
    rw [if_neg hside, Propagator.orientLink, hacross]
    exact Propagator.expel_canvas hw ..

namespace Misled

/-- Where there is something to be misled about, the canvas changes, and only as it says. -/
theorem afterConnect (h : Misled p c child parent c') (hw : Wired c) :
    (p.afterConnect c child parent).canvas = c' ∧ c' ≠ c := by
  cases h with
  | @orient f first second collection hf htype hdoc hside hnews =>
    have hlink := Tag.isLinkType_iff.mpr ⟨first, second, htype⟩
    refine ⟨?_, fun he => hnews ?_⟩
    · rw [Propagator.afterConnect_of_document hf hlink hdoc, orientLink_canvas hw hf htype,
        if_pos hside]
    · rw [← output?_emit_self (isSome_of_frame? hf), he]
  | @expel f first second collection occupant hf htype hdoc hforeign hheld =>
    have hlink := Tag.isLinkType_iff.mpr ⟨first, second, htype⟩
    refine ⟨?_, fun he => ?_⟩
    · rw [Propagator.afterConnect_of_document hf hlink hdoc, orientLink_canvas hw hf htype,
        if_neg (not_or.mpr hforeign), hheld]
    · have hempty : (c.detach occupant ⟨parent, linkInput⟩).target? parent linkInput = none := by
        rw [target?_detach, if_pos ⟨rfl, rfl⟩]
      rw [he, hheld] at hempty
      cases hempty
  | @fill f collection found hf hgetter hcollection hfound hoffers hnews =>
    obtain ⟨field, hfield, hne⟩ := hnews
    have hchild : (c.block? child).isSome := isSome_of_tag fun he => by
      rw [he] at hcollection
      cases hcollection
    refine ⟨?_, fun he => hne ?_⟩
    · rw [Propagator.afterConnect_of_getter hchild hf hgetter, hcollection]
      dsimp only
      rw [Propagator.fillAttributes_canvas, hfound]
      simp [hoffers]
    · have hwritten := field?_write c parent parent attributeField attributeField
        ⟨found.defaultChoice, found.choices⟩
      rw [he, if_pos ⟨rfl, rfl⟩, hfield, Option.map_some, Option.some.injEq] at hwritten
      exact hwritten

/-- A link that is told of a document is misled, unless it leads across from such documents already,
or holds nothing that it could throw out. -/
theorem of_orientLink (hw : Wired c) {f : Frame} (hf : c.frame? parent = some f)
    (hlink : Tag.isLinkType f.type = true) {collection : String}
    (hdoc : c.tag child = .document collection) :
    (Propagator.orientLink c parent f.type collection).canvas = c ∨
      Misled p c child parent (Propagator.orientLink c parent f.type collection).canvas := by
  obtain ⟨first, second, htype⟩ := Tag.isLinkType_iff.mp hlink
  rw [orientLink_canvas hw hf htype]
  split
  · rename_i hside
    by_cases hsame : c.output? parent = some (true,
        some [(Tag.documentArray (if collection = first then second else first)).text])
    · exact .inl (emit_eq_self hsame)
    · exact .inr (.orient hf htype hdoc hside hsame)
  · rename_i hside
    cases hheld : c.target? parent linkInput with
    | none => exact .inl rfl
    | some occupant => exact .inr (.expel hf htype hdoc (not_or.mp hside) hheld)

/-- An attribute getter that is told of documents is misled, unless it offers their attributes
already, or there are none. -/
theorem of_fillAttributes {f : Frame} (hf : c.frame? parent = some f)
    (hgetter : f.type = getAttributeType) {collection : String}
    (hcollection : (c.tag child).collection? = some collection) :
    (p.fillAttributes c parent collection).canvas = c ∨
      Misled p c child parent (p.fillAttributes c parent collection).canvas := by
  rw [Propagator.fillAttributes_canvas]
  cases hfound : p.domain.collection? collection with
  | error fault => exact .inl rfl
  | ok found =>
    dsimp only
    cases hoffers : found.choices.isEmpty with
    | true => exact .inl rfl
    | false =>
      rw [if_neg Bool.false_ne_true]
      by_cases hnews : ∃ field, c.field? parent attributeField = some field ∧
          field ≠ ⟨found.defaultChoice, found.choices⟩
      · exact .inr (.fill hf hgetter hcollection hfound hoffers hnews)
      · refine .inl (write_eq_self fun field hfield => ?_)
        by_contra hne
        exact hnews ⟨field, hfield, Ne.symm hne⟩

/-- No variable is concerned. -/
theorem vars (h : Misled p c child parent c') : c'.vars = c.vars := by
  cases h <;> rfl

end Misled

/-- **A stray connection misleads, or does nothing.** Loops are never misled, because the rule asks
whether the child is in their list; links and attribute getters are not asked. -/
theorem Wired.afterConnect_stray (hw : Wired c)
    (hstray : ∀ input, c.target? parent input ≠ some child) :
    (p.afterConnect c child parent).canvas = c ∨
      Misled p c child parent (p.afterConnect c child parent).canvas := by
  rcases p.afterConnect_cases c child parent with he | ⟨f, hf, hcase⟩
  · rw [he]
    exact .inl rfl
  · rcases hcase with
      ⟨collection, hlink, hdoc, he⟩ | ⟨-, hheld, -⟩ | ⟨collection, hgetter, hcollection, he⟩
    · rw [he]
      exact Misled.of_orientLink hw hf hlink hdoc
    · exact absurd hheld (hstray listInput)
    · rw [he]
      exact Misled.of_fillAttributes hf hgetter hcollection

end TypedBlocks.Canvas
