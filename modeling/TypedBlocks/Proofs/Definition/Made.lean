import TypedBlocks.Catalog
import TypedBlocks.Proofs.Canvas.Making
import TypedBlocks.Proofs.TagText

/-!
# The four kinds of definitions

Every definition is made in one of four ways, and its key says in which: this is `Made`. What the
block type of a definition reads as tells the kinds apart (`Made.ofText_blockType`), so a look at
its type is enough to know all of the frame of a block:

* `Made.slot?_of_link`: a link has one input, for the documents of the two collections that its
  type names;
* `Made.eq_attributeGetter`, `Made.eq_foreachLoop`: the types of the attribute getter and of the
  loop have no other definition.

A block that is built from a definition is `Fresh`: it has the frame and the output that its
definition gives it, is plugged in nowhere and holds nothing.
-/

namespace TypedBlocks

open Definition

/-- What the first half of a pair is called does not matter to its key. -/
theorem Definition.Key.ofPair_cases (a b : String) :
    Key.ofPair a b = .link a b ∨ Key.ofPair a b = .link b a := by
  rw [Key.ofPair]
  split
  · exact .inl rfl
  · exact .inr rfl

theorem Collection.isUsableId_iff {id : String} :
    isUsableId id = true ↔ id ≠ "" ∧ '_' ∉ id.toList := by
  simp [isUsableId]

namespace Domain

variable {d : Domain} {id : String} {c : Collection}

theorem find?_of_collection? (h : d.collection? id = .ok c) :
    d.collections.find? (·.id = id) = some c := by
  rw [collection?] at h
  split at h
  · rename_i hfind
    cases h
    exact hfind
  · cases h

theorem collection?_id (h : d.collection? id = .ok c) : c.id = id := by
  simpa using List.find?_some (find?_of_collection? h)

theorem collection?_mem (h : d.collection? id = .ok c) : c ∈ d.collections :=
  List.mem_of_find?_eq_some (find?_of_collection? h)

/-- The collections of a domain that passed its check have ids that collections can have. -/
theorem usable_of_checked (h : d.checked = .ok d) (hc : c ∈ d.collections) :
    Collection.isUsableId c.id = true := by
  rw [checked] at h
  split at h
  · cases h
  · rename_i hfind
    simpa using List.find?_eq_none.mp hfind c hc

end Domain

namespace Definition

/-! ## Frames -/

/-- The input that a part of a message is, if it is one of the given name. -/
def Part.slot? (name : String) : Part → Option Slot
  | .input n check => if name = n then some ⟨check.map (·.map Tag.text), false⟩ else none
  | .statements n => if name = n then some ⟨none, true⟩ else none
  | _ => none

/-- Is a part of a message the field of the given name? -/
def Part.isField (name : String) : Part → Bool
  | .picker n _ _ => name = n
  | .dropdown n _ _ => name = n
  | _ => false

/-- The frame of all blocks of a definition. Of two inputs of one name the last counts. -/
def frame (d : Definition) : Frame where
  type := d.blockType
  slot? name := d.parts.foldl (fun found part => (part.slot? name).or found) none
  hasField name := d.parts.any (Part.isField name)

/-! ## Inputs -/

/-- The attribute getter has one input, for anything. -/
theorem slot?_attributeGetter (input : String) :
    attributeGetter.frame.slot? input =
      if input = documentInput then some ⟨none, false⟩ else none := by
  simp [frame, parts, attributeGetter, Part.slot?]

/-- A link has one input, for the documents of its two collections. -/
theorem slot?_link (blockType : String) (l : LinkType) (first second : Collection)
    (input : String) :
    (link blockType l first second).frame.slot? input =
      if input = linkInput then
        some ⟨some [(Tag.document first.id).text, (Tag.document second.id).text], false⟩
      else none := by
  simp [frame, parts, link, Part.slot?]

/-- The loop has one input, for anything, and a place for statements. -/
theorem slot?_foreachLoop (input : String) :
    foreachLoop.frame.slot? input =
      if input = listInput then some ⟨none, false⟩
      else if input = bodyInput then some ⟨none, true⟩ else none := by
  by_cases hlist : input = listInput
  · subst hlist
    decide
  · by_cases hbody : input = bodyInput
    · subst hbody
      decide
    · simp [frame, parts, foreachLoop, Part.slot?, hlist, hbody]

/-! ## Kinds -/

/-- A definition is made the way its key says: one of the two built-in ones, the getter of a
collection in some colour, or the link of two collections. Which collections these are is open but
for their ids. -/
inductive Made : Key → Definition → Prop
  | foreach : Made .foreach foreachLoop
  | getAttribute : Made .getAttribute attributeGetter
  | collection (c : Collection) (colour : String) :
      Made (.collection c.id) (documentGetter c colour)
  | link (l : LinkType) {first second : Collection}
      (hfirst : Collection.isUsableId first.id) (hsecond : Collection.isUsableId second.id) :
      Made (.ofPair first.id second.id)
        (Definition.link (Key.ofPair first.id second.id).blockType l first second)

/-- The two definitions that are there from the start, whatever the domain. -/
inductive IsBuiltIn : Definition → Prop
  | foreachLoop : IsBuiltIn foreachLoop
  | attributeGetter : IsBuiltIn attributeGetter

/-- What the block type of a key reads as. Getters of collections read as documents of an odd
collection, whose id begins like a getter. -/
def Key.tag : Key → Tag
  | .foreach => .documentArray "foreach"
  | .getAttribute => .unknown
  | .collection id => .document (getterBeginning ++ id)
  | .link first second => .link first second

theorem Key.tag_ofPair (a b : String) :
    ∃ first second, (Key.ofPair a b).tag = .link first second := by
  rcases Key.ofPair_cases a b with he | he
  · exact ⟨a, b, by rw [he, tag]⟩
  · exact ⟨b, a, by rw [he, tag]⟩

/-- The type of a getter reads as a document of a collection that there is not. -/
theorem ofText_getterType (id : String) :
    Tag.ofText (getterType id) = .document (getterBeginning ++ id) := by
  have htext : getterType id = (Tag.document (getterBeginning ++ id)).text := by
    simp [getterType, Tag.text, String.append_assoc]
  rw [htext, Tag.ofText_text_document, if_neg]
  intro h
  have hlist := congrArg String.toList h
  simp [getterBeginning] at hlist

namespace Made

variable {key : Key} {d : Definition}

theorem blockType (h : Made key d) : d.blockType = key.blockType := by
  cases h <;> rfl

/-- **The four kinds read differently.** -/
theorem ofText_blockType (h : Made key d) : Tag.ofText d.blockType = key.tag := by
  rw [h.blockType]
  cases h with
  | foreach => decide
  | getAttribute => decide
  | collection c colour => exact ofText_getterType c.id
  | @link l first second hfirst hsecond =>
    obtain ⟨hfirst, hmem⟩ := Collection.isUsableId_iff.mp hfirst
    obtain ⟨hsecond, hmem'⟩ := Collection.isUsableId_iff.mp hsecond
    -- whichever of the two comes first, it has no underscore that could divide it
    rcases Key.ofPair_cases first.id second.id with he | he
    · rw [he]
      exact Tag.ofText_text_link hfirst hmem hsecond
    · rw [he]
      exact Tag.ofText_text_link hsecond hmem' hfirst

/-- The definitions that have the type of a link are those of pairs of collections. -/
theorem isLinkType_iff (h : Made key d) :
    Tag.isLinkType d.blockType = true ↔ ∃ first second, key = .link first second := by
  rw [Tag.isLinkType_iff, h.ofText_blockType]
  cases key <;> simp [Key.tag]

/-- A link has one input. It takes the documents of its two collections, which are those that its
type names, and both are named. -/
theorem slot?_of_link (h : Made key d) {first second : String}
    (ht : Tag.ofText d.blockType = .link first second) :
    key = .link first second ∧ first ≠ "" ∧ second ≠ "" ∧ d.output = .typed .unknown ∧
      ∃ a b, (first = a ∧ second = b ∨ first = b ∧ second = a) ∧
        ∀ input, d.frame.slot? input =
          if input = linkInput then
            some ⟨some [(Tag.document a).text, (Tag.document b).text], false⟩
          else none := by
  rw [h.ofText_blockType] at ht
  cases h with
  | foreach => cases ht
  | getAttribute => cases ht
  | collection c colour => cases ht
  | @link l c c' hc hc' =>
    have hne := (Collection.isUsableId_iff.mp hc).1
    have hne' := (Collection.isUsableId_iff.mp hc').1
    have hslot := slot?_link (Key.ofPair c.id c'.id).blockType l c c'
    rcases Key.ofPair_cases c.id c'.id with he | he
    · rw [he, Key.tag, Tag.link.injEq] at ht
      obtain ⟨rfl, rfl⟩ := ht
      exact ⟨he, hne, hne', rfl, c.id, c'.id, .inl ⟨rfl, rfl⟩, hslot⟩
    · rw [he, Key.tag, Tag.link.injEq] at ht
      obtain ⟨rfl, rfl⟩ := ht
      exact ⟨he, hne', hne, rfl, c.id, c'.id, .inr ⟨rfl, rfl⟩, hslot⟩

/-- Nothing but the attribute getter has its type. -/
theorem eq_attributeGetter (h : Made key d) (ht : d.blockType = getAttributeType) :
    key = .getAttribute ∧ d = attributeGetter := by
  have hread : key.tag = .unknown := by
    rw [← h.ofText_blockType, ht]
    decide
  cases h with
  | foreach => cases hread
  | getAttribute => exact ⟨rfl, rfl⟩
  | collection c colour => cases hread
  | @link l c c' =>
    obtain ⟨a, b, he⟩ := Key.tag_ofPair c.id c'.id
    rw [he] at hread
    cases hread

/-- Nothing but the loop has its type. -/
theorem eq_foreachLoop (h : Made key d) (ht : d.blockType = foreachType) :
    key = .foreach ∧ d = foreachLoop := by
  have hread : key.tag = .documentArray "foreach" := by
    rw [← h.ofText_blockType, ht]
    decide
  cases h with
  | foreach => exact ⟨rfl, rfl⟩
  | getAttribute => cases hread
  | collection c colour => cases hread
  | @link l c c' =>
    obtain ⟨a, b, he⟩ := Key.tag_ofPair c.id c'.id
    rw [he] at hread
    cases hread

/-- **A built-in definition has its type for itself**: whatever the key, a definition of that type
is the built-in one. -/
theorem eq_builtIn (h : Made key d) {builtIn : Definition} (hb : builtIn.IsBuiltIn)
    (ht : d.blockType = builtIn.blockType) : d = builtIn := by
  cases hb with
  | foreachLoop => exact (h.eq_foreachLoop ht).2
  | attributeGetter => exact (h.eq_attributeGetter ht).2

/-- Nothing but a getter of a collection has its type. -/
theorem of_getterType (h : Made key d) {id : String} (ht : d.blockType = getterType id) :
    key = .collection id ∧ ∃ c : Collection, ∃ colour, c.id = id ∧ d = documentGetter c colour := by
  have hread : key.tag = .document (getterBeginning ++ id) := by
    rw [← h.ofText_blockType, ht, ofText_getterType]
  cases h with
  | foreach => cases hread
  | getAttribute => cases hread
  | collection c colour =>
    rw [Key.tag, Tag.document.injEq, String.append_right_inj] at hread
    exact ⟨congrArg Key.collection hread, c, colour, hread, rfl⟩
  | @link l c c' =>
    obtain ⟨a, b, he⟩ := Key.tag_ofPair c.id c'.id
    rw [he] at hread
    cases hread

/-- A getter of a collection puts out a document of it. -/
theorem output_of_getterType (h : Made key d) {id : String} (ht : d.blockType = getterType id) :
    d.output = .typed (.document id) := by
  obtain ⟨-, c, colour, rfl, rfl⟩ := h.of_getterType ht
  rfl

/-- A definition offers one tag at most. -/
theorem outputCheck_cases (h : Made key d) :
    Canvas.outputCheck d.output = none ∨
      ∃ tag : Tag, Canvas.outputCheck d.output = some [tag.text] := by
  cases h with
  | foreach => exact .inl rfl
  | getAttribute => exact .inl rfl
  | collection c colour => exact .inr ⟨_, rfl⟩
  | link l => exact .inr ⟨_, rfl⟩

end Made

namespace Made

/-- **Inputs that are not for anything are for documents**: the only checks that definitions come
with are those of links. -/
theorem isDocument_of_check {key : Key} {d : Definition} (h : Made key d) {input text : String}
    {slot : Slot} {check : List String} (hs : d.frame.slot? input = some slot)
    (hcheck : slot.check = some check) (ht : text ∈ check) :
    (Tag.ofText text).isDocument = true := by
  cases h with
  | foreach =>
    rw [slot?_foreachLoop] at hs
    split at hs
    · cases hs
      cases hcheck
    · split at hs <;> cases hs
      cases hcheck
  | getAttribute =>
    rw [slot?_attributeGetter] at hs
    split at hs <;> cases hs
    cases hcheck
  | collection c colour => cases hs
  | @link l first second hfirst hsecond =>
    have hread : ∀ {id}, Collection.isUsableId id = true →
        (Tag.ofText (Tag.document id).text).isDocument = true := fun hid => by
      rw [Tag.ofText_text_document, if_neg (Collection.isUsableId_iff.mp hid).1]
      rfl
    rw [slot?_link] at hs
    split at hs <;> cases hs
    cases hcheck
    rcases List.mem_pair.mp ht with rfl | rfl
    · exact hread hfirst
    · exact hread hsecond

end Made

end Definition

/-! ## Blocks of a definition -/

/-- A block as its definition makes it. The dropdown of an attribute getter shows the placeholder
then. -/
structure Block.Fresh (b : Block) (d : Definition) : Prop extends b.Blank where
  frame : b.frame = d.frame
  hasOutput : b.hasOutput = Canvas.hasOutput d.output
  outputCheck : b.outputCheck = Canvas.outputCheck d.output
  dropdown : d = attributeGetter →
    b.fields.get? attributeField = some ⟨notApplicable, placeholder⟩

namespace Canvas

variable {ids : IdSupply} {c : Canvas}

theorem slot?_addPart (preset : Option String) (draft : Draft) (part : Part) (name : String) :
    ((draft.addPart ids preset part).inputs.get? name).map Input.slot =
      (part.slot? name).or ((draft.inputs.get? name).map Input.slot) := by
  cases part with
  | input n check =>
    simp only [Draft.addPart, Table.get?_put, Part.slot?]
    split <;> rfl
  | statements n =>
    simp only [Draft.addPart, Table.get?_put, Part.slot?]
    split <;> rfl
  | _ => rfl

theorem hasField_addPart (preset : Option String) (draft : Draft) (part : Part) (name : String) :
    ((draft.addPart ids preset part).fields.get? name).isSome =
      ((draft.fields.get? name).isSome || part.isField name) := by
  cases part with
  | picker n types default =>
    simp only [Draft.addPart, Table.get?_put, Part.isField]
    by_cases h : name = n <;> simp [h]
  | dropdown n choices value =>
    simp only [Draft.addPart, Table.get?_put, Part.isField]
    by_cases h : name = n <;> simp [h]
  | _ => exact (Bool.or_false _).symm

/-- **A new block has the frame of its definition**, whatever its pickers are bound to. -/
theorem build_frame (ids : IdSupply) (c : Canvas) (d : Definition) (preset : Option String) :
    (c.build ids d preset).1.frame = d.frame := by
  -- by induction on the parts: a draft has the inputs and fields of those before
  have hslot : ∀ (parts : List Part) (draft : Draft) (name : String),
      ((parts.foldl (Draft.addPart ids preset) draft).inputs.get? name).map Input.slot =
        parts.foldl (fun found part => (part.slot? name).or found)
          ((draft.inputs.get? name).map Input.slot) := by
    intro parts
    induction parts with
    | nil => exact fun _ _ => rfl
    | cons part parts ih =>
      intro draft name
      rw [List.foldl_cons, List.foldl_cons, ih, slot?_addPart]
  have hfield : ∀ (parts : List Part) (draft : Draft) (name : String),
      ((parts.foldl (Draft.addPart ids preset) draft).fields.get? name).isSome =
        ((draft.fields.get? name).isSome || parts.any (Part.isField name)) := by
    intro parts
    induction parts with
    | nil => exact fun _ _ => (Bool.or_false _).symm
    | cons part parts ih =>
      intro draft name
      rw [List.foldl_cons, ih, hasField_addPart, List.any_cons, Bool.or_assoc]
  simp only [Block.frame, Definition.frame, Frame.mk.injEq]
  exact ⟨rfl, funext fun name => hslot d.parts _ name, funext fun name => hfield d.parts _ name⟩

/-- **A new block is fresh.** -/
theorem build_fresh (ids : IdSupply) (c : Canvas) (d : Definition) (preset : Option String) :
    (c.build ids d preset).1.Fresh d where
  toBlank := build_blank d preset
  frame := build_frame ids c d preset
  hasOutput := rfl
  outputCheck := rfl
  dropdown := by
    rintro rfl
    rfl

end Canvas

end TypedBlocks
