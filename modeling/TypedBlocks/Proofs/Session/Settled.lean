import TypedBlocks.Proofs.Canvas.Wiring
import TypedBlocks.Proofs.Definition.Made

/-!
# Settled canvases

Between two edits of a user, a canvas that a propagator listens to is *settled*:

* every block is as its definition made it, except for the output of links (`Formed`);
* every link has the output that follows from the document that it holds (`Oriented`);
* every attribute getter shows the placeholder or the attributes of what it holds (`Listed`).

An edit of the wiring disturbs this at one block, the one whose input changed, until the propagator
has responded; `Settled` names the block that is still awaited. What else changes on the canvas
matters to a block only if it changes what the block holds or the tag of that, so most of the proofs
come down to `Oriented.congr` and `Listed.congr`.
-/

namespace TypedBlocks

open Definition

/-! ## Tags of links -/

namespace Tag

/-- What a link between two collections puts out when it holds something of a tag, or nothing. A
link takes no document of a third collection. -/
def bearing (first second : String) : Option Tag → Option Tag
  | some (.document collection) => ((link first second).across? collection).map .documentArray
  | _ => some .unknown

theorem bearing_of_not_document {first second : String} {tag : Tag}
    (h : tag.isDocument = false) : bearing first second (some tag) = some .unknown := by
  cases tag with
  | document collection => cases h
  | _ => rfl

/-- A link leads from either side to the other, and from nowhere else. -/
theorem across?_link_eq_some_iff {first second collection other : String} :
    (link first second).across? collection = some other ↔
      (collection = first ∨ collection = second) ∧
        other = if collection = first then second else first := by
  simp only [across?]
  by_cases hfirst : collection = first
  · simp [hfirst, eq_comm]
  · by_cases hsecond : second = collection
    · simp [hfirst, Ne.symm hfirst, hsecond, eq_comm]
    · simp [hfirst, Ne.symm hfirst, hsecond, Ne.symm hsecond]

theorem across?_link_eq_none_iff {first second collection : String} :
    (link first second).across? collection = none ↔ collection ≠ first ∧ collection ≠ second := by
  rw [← not_or, ← Option.not_isSome_iff_eq_none, Option.isSome_iff_exists, not_iff_not]
  constructor
  · rintro ⟨other, hother⟩
    exact (across?_link_eq_some_iff.mp hother).1
  · exact fun hside => ⟨_, across?_link_eq_some_iff.mpr ⟨hside, rfl⟩⟩

/-- A link never puts out a single document. -/
theorem isDocument_of_bearing {first second : String} {held : Option Tag} {tag : Tag}
    (h : bearing first second held = some tag) : (ofText tag.text).isDocument = false := by
  unfold bearing at h
  split at h
  · obtain ⟨other, -, rfl⟩ := Option.map_eq_some_iff.mp h
    rw [ofText_text_documentArray]
    split <;> rfl
  · cases h
    rw [ofText_text_unknown]
    rfl

end Tag

namespace Canvas

variable {c c' : Canvas} {id : String}

/-! ## Form -/

/-- A block is as a definition made it, except for its output if it is a link. Frames never change,
and the outputs of links are all that rules write. -/
structure IsA (c : Canvas) (id : String) (key : Key) (d : Definition) : Prop where
  made : Made key d
  frame : c.frame? id = some d.frame
  output : Tag.isLinkType d.blockType = false →
    c.output? id = some (hasOutput d.output, outputCheck d.output)

/-- Every block is as its definition made it. -/
def Formed (c : Canvas) : Prop := ∀ id f, c.frame? id = some f → ∃ key d, c.IsA id key d

namespace Formed

theorem congr (h : Formed c) (hframe : ∀ id, c'.frame? id = c.frame? id)
    (hout : ∀ id f, c.frame? id = some f → Tag.isLinkType f.type = false →
      c'.output? id = c.output? id) : Formed c' := by
  intro id f hf
  rw [hframe] at hf
  obtain ⟨key, d, hd⟩ := h id f hf
  refine ⟨key, d, hd.made, (hframe id).trans hd.frame, fun hplain => ?_⟩
  rw [hout id d.frame hd.frame hplain]
  exact hd.output hplain

/-- A fresh block may be added. -/
theorem add (h : Formed c) {b : Block} {key : Key} {d : Definition} (hmade : Made key d)
    (hb : b.Fresh d) : Formed (c.add id b) := by
  intro other f hf
  by_cases he : other = id
  · subst he
    refine ⟨key, d, hmade, ?_, fun _ => ?_⟩
    · rw [frame?_add, if_pos rfl, hb.frame]
    · rw [output?_add, if_pos rfl, hb.hasOutput, hb.outputCheck]
  · rw [frame?_add, if_neg he] at hf
    obtain ⟨key', d', hd'⟩ := h other f hf
    refine ⟨key', d', hd'.made, ?_, fun hplain => ?_⟩
    · rw [frame?_add, if_neg he, hd'.frame]
    · rw [output?_add, if_neg he, hd'.output hplain]

/-- The inputs of a link: one, for the documents of its two collections. -/
theorem slot?_of_link (h : Formed c) {f : Frame} (hf : c.frame? id = some f)
    {first second : String} (ht : Tag.ofText f.type = .link first second) :
    first ≠ "" ∧ second ≠ "" ∧
      ∃ a b, (first = a ∧ second = b ∨ first = b ∧ second = a) ∧
        ∀ input, f.slot? input =
          if input = linkInput then
            some ⟨some [(Tag.document a).text, (Tag.document b).text], false⟩
          else none := by
  obtain ⟨key, d, hd⟩ := h id f hf
  have he : d.frame = f := Option.some.inj (hd.frame.symm.trans hf)
  rw [← he] at ht ⊢
  obtain ⟨-, hfirst, hsecond, -, hslot⟩ := hd.made.slot?_of_link ht
  exact ⟨hfirst, hsecond, hslot⟩

/-- The frame of a block that has the type of a built-in definition is that of the definition. -/
theorem frame_of_builtIn (h : Formed c) {d : Definition} (hb : d.IsBuiltIn) {f : Frame}
    (hf : c.frame? id = some f) (ht : f.type = d.blockType) : f = d.frame := by
  obtain ⟨key, made, hmade⟩ := h id f hf
  have he : made.frame = f := Option.some.inj (hmade.frame.symm.trans hf)
  rw [← he] at ht ⊢
  rw [hmade.made.eq_builtIn hb ht]

/-- A getter of a collection puts out a document of it. -/
theorem output?_of_getterType (h : Formed c) {f : Frame} (hf : c.frame? id = some f)
    {collection : String} (ht : f.type = getterType collection) :
    c.output? id = some (true, some [(Tag.document collection).text]) := by
  obtain ⟨key, d, hd⟩ := h id f hf
  obtain rfl : d.frame = f := Option.some.inj (hd.frame.symm.trans hf)
  have hplain : Tag.isLinkType d.blockType = false := by
    rw [Tag.isLinkType, show d.blockType = getterType collection from ht, ofText_getterType]
  rw [hd.output hplain, hd.made.output_of_getterType ht]
  rfl

/-- A loop has no output. -/
theorem output?_of_loop (h : Formed c) {f : Frame} (hf : c.frame? id = some f)
    (ht : f.type = foreachType) : c.output? id = some (false, none) := by
  obtain ⟨key, d, hd⟩ := h id f hf
  obtain rfl : d.frame = f := Option.some.inj (hd.frame.symm.trans hf)
  obtain ⟨-, rfl⟩ := hd.made.eq_foreachLoop ht
  exact hd.output (by decide)

/-- What a link holds, it holds in its one input. -/
theorem input_of_link (h : Formed c) {input child : String} (hc : c.target? id input = some child)
    {f : Frame} (hf : c.frame? id = some f) (hlink : Tag.isLinkType f.type = true) :
    input = linkInput := by
  obtain ⟨first, second, ht⟩ := Tag.isLinkType_iff.mp hlink
  obtain ⟨-, -, a, b, -, hslot⟩ := h.slot?_of_link hf ht
  obtain ⟨f', slot, hf', hs⟩ := slot_of_target hc
  rw [hf, Option.some.injEq] at hf'
  rw [← hf', hslot] at hs
  split at hs
  · rename_i hi
    exact hi
  · cases hs

/-- What an attribute getter holds, it holds in its one input. -/
theorem input_of_getter (h : Formed c) {input child : String}
    (hc : c.target? id input = some child) {f : Frame} (hf : c.frame? id = some f)
    (ht : f.type = getAttributeType) : input = documentInput := by
  obtain ⟨f', slot, hf', hs⟩ := slot_of_target hc
  rw [hf, Option.some.injEq] at hf'
  rw [← hf', h.frame_of_builtIn .attributeGetter hf ht, slot?_attributeGetter] at hs
  split at hs
  · rename_i hi
    exact hi
  · cases hs

end Formed

/-! ## Links and attribute getters -/

/-- The output of a link follows from what it holds, which is no link: documents of the other side
if it holds a document of one, and unknown otherwise. -/
structure Oriented (c : Canvas) (id first second : String) : Prop where
  output : ∃ tag, Tag.bearing first second ((c.target? id linkInput).map c.tag) = some tag ∧
    c.output? id = some (true, some [tag.text])
  plain : ∀ child f, c.target? id linkInput = some child → c.frame? child = some f →
    Tag.isLinkType f.type = false

namespace Oriented

variable {first second : String}

theorem congr (h : Oriented c id first second)
    (htarget : c'.target? id linkInput = c.target? id linkInput)
    (hout : c'.output? id = c.output? id)
    (htag : ∀ child, c.target? id linkInput = some child → c'.tag child = c.tag child)
    (hframe : ∀ child, c.target? id linkInput = some child → c'.frame? child = c.frame? child) :
    Oriented c' id first second where
  output := by
    obtain ⟨tag, hbearing, ho⟩ := h.output
    refine ⟨tag, ?_, hout.trans ho⟩
    rw [htarget, ← hbearing]
    cases ht : c.target? id linkInput with
    | none => rfl
    | some child => rw [Option.map_some, Option.map_some, htag child ht]
  plain child f ht hf := by
    rw [htarget] at ht
    rw [hframe child ht] at hf
    exact h.plain child f ht hf

/-- A link that holds nothing is as it should be if its output is unknown. -/
theorem of_empty (ht : c.target? id linkInput = none)
    (ho : c.output? id = some (true, some [Tag.unknown.text])) : Oriented c id first second where
  output := ⟨.unknown, by rw [ht]; rfl, ho⟩
  plain child f hchild := by
    rw [ht] at hchild
    cases hchild

/-- The output of a link that holds nothing is unknown. -/
theorem output_of_empty (h : Oriented c id first second) (ht : c.target? id linkInput = none) :
    c.output? id = some (true, some [Tag.unknown.text]) := by
  obtain ⟨tag, hbearing, ho⟩ := h.output
  rw [ht] at hbearing
  cases hbearing
  exact ho

theorem tag_of_empty (h : Oriented c id first second) (ht : c.target? id linkInput = none) :
    c.tag id = .unknown := by
  rw [tag_eq_of_output? (h.output_of_empty ht)]
  exact Tag.ofText_text_unknown

/-- The output of a link that holds no document is unknown. -/
theorem output_of_plain (h : Oriented c id first second) {child : String}
    (ht : c.target? id linkInput = some child) (hdoc : (c.tag child).isDocument = false) :
    c.output? id = some (true, some [Tag.unknown.text]) := by
  obtain ⟨tag, hbearing, ho⟩ := h.output
  rw [ht, Option.map_some, Tag.bearing_of_not_document hdoc] at hbearing
  cases hbearing
  exact ho

/-- A link that holds a document puts out documents of the other side. -/
theorem output_of_document (h : Oriented c id first second) {child collection : String}
    (ht : c.target? id linkInput = some child) (hdoc : c.tag child = .document collection) :
    ∃ other, (Tag.link first second).across? collection = some other ∧
      c.output? id = some (true, some [(Tag.documentArray other).text]) := by
  obtain ⟨tag, hbearing, ho⟩ := h.output
  rw [ht, Option.map_some, hdoc] at hbearing
  obtain ⟨other, hother, rfl⟩ := Option.map_eq_some_iff.mp hbearing
  exact ⟨other, hother, ho⟩

/-- Something is known of the output of a link that holds a document. -/
theorem isUnknown_eq_false (h : Oriented c id first second) (hfirst : first ≠ "")
    (hsecond : second ≠ "") {child : String} (ht : c.target? id linkInput = some child)
    (hdoc : (c.tag child).isDocument = true) : (c.tag id).isUnknown = false := by
  cases htag : c.tag child with
  | document collection =>
    obtain ⟨other, hother, ho⟩ := h.output_of_document ht htag
    have hne : other ≠ "" := by
      rw [(Tag.across?_link_eq_some_iff.mp hother).2]
      split
      · exact hsecond
      · exact hfirst
    rw [tag_eq_of_output? ho, Tag.ofCheck, Tag.ofText_text_documentArray, if_neg hne]
    rfl
  | _ =>
    rw [htag] at hdoc
    cases hdoc

/-- A link is no document. -/
theorem isDocument_eq_false (h : Oriented c id first second) :
    (c.tag id).isDocument = false := by
  obtain ⟨tag, hbearing, ho⟩ := h.output
  rw [tag_eq_of_output? ho]
  exact Tag.isDocument_of_bearing hbearing

end Oriented

/-- An attribute getter shows the placeholder, or the attributes of the documents that it holds. It
need not show these if the collection has none, or if its tag came later. -/
def Listed (domain : Domain) (c : Canvas) (id : String) : Prop :=
  c.field? id attributeField = some ⟨notApplicable, placeholder⟩ ∨
  ∃ child collection found, c.target? id documentInput = some child ∧
    (c.tag child).collection? = some collection ∧ domain.collection? collection = .ok found ∧
    found.choices.isEmpty = false ∧
    c.field? id attributeField = some ⟨found.defaultChoice, found.choices⟩

namespace Listed

variable {domain : Domain}

theorem congr (h : Listed domain c id)
    (htarget : c'.target? id documentInput = c.target? id documentInput)
    (hfield : c'.field? id attributeField = c.field? id attributeField)
    (htag : ∀ child, c.target? id documentInput = some child → c'.tag child = c.tag child) :
    Listed domain c' id := by
  rcases h with hreset | ⟨child, collection, found, ht, hcollection, hfound, hsome, hf⟩
  · exact .inl (hfield.trans hreset)
  · refine .inr ⟨child, collection, found, htarget.trans ht, ?_, hfound, hsome, hfield.trans hf⟩
    rw [htag child ht]
    exact hcollection

/-- As long as nothing is known of what it holds, a getter shows the placeholder. -/
theorem reset (h : Listed domain c id)
    (hnone : ∀ child, c.target? id documentInput = some child → (c.tag child).collection? = none) :
    c.field? id attributeField = some ⟨notApplicable, placeholder⟩ := by
  rcases h with hreset | ⟨child, collection, found, ht, hcollection, -⟩
  · exact hreset
  · rw [hnone child ht] at hcollection
    cases hcollection

end Listed

/-! ## All together -/

/-- **A canvas in order**, except at the block that is awaited, if one is. Between edits none is;
while a propagator responds, it is the block that it responds about. -/
structure Settled (ids : IdSupply) (domain : Domain) (awaited : Option String) (c : Canvas) :
    Prop where
  coherent : Coherent ids c
  formed : Formed c
  oriented : ∀ id f first second, some id ≠ awaited → c.frame? id = some f →
    Tag.ofText f.type = .link first second → Oriented c id first second
  listed : ∀ id f, some id ≠ awaited → c.frame? id = some f → f.type = getAttributeType →
    Listed domain c id

end Canvas

end TypedBlocks
