import TypedBlocks.Domain.Json
import TypedBlocks.Event
import TypedBlocks.Proofs.Json.Records
import TypedBlocks.Toolbox.Item

/-!
# What is exchanged as JSON

Domains, events and toolbox items are exchanged as JSON. **What is written is read back as it was**
(`exchange_roundTrip`), whatever characters its texts are made of. For each kind of record there are
two facts, that it can be written (`writable_toJson`) and that its fields are read as they are
written (`ofJson?_toJson`); the first takes care of the text, so the second is about values only.
-/

namespace TypedBlocks

open Json

/-! ## Domains -/

theorem Attribute.writable_toJson (a : Attribute) : a.toJson.Writable :=
  writable_record (by simp)

theorem Attribute.ofJson?_toJson (a : Attribute) : ofJson? a.toJson = some a := by
  simp [ofJson?, toJson, fields?_record, requiredField]

theorem Collection.writable_toJson (c : Collection) : c.toJson.Writable := by
  have hdefault := writable_ofOption writable_text c.defaultAttribute
  have hattributes := writable_list Attribute.writable_toJson c.attributes
  exact writable_record (by simp [hdefault, hattributes])

theorem Collection.ofJson?_toJson (c : Collection) : ofJson? c.toJson = some c := by
  have hdefault := optionalField_ofOption text?_text text_ne_null c.defaultAttribute
  have hattributes := list?_map Attribute.ofJson?_toJson c.attributes
  simp [ofJson?, toJson, fields?_record, requiredField, defaultedField, hdefault, hattributes]

theorem LinkType.writable_toJson (l : LinkType) : l.toJson.Writable :=
  writable_record (by simp)

theorem LinkType.ofJson?_toJson (l : LinkType) : ofJson? l.toJson = some l := by
  simp [ofJson?, toJson, fields?_record, requiredField]

theorem DocumentVariable.writable_toJson (v : DocumentVariable) : v.toJson.Writable :=
  writable_record (by simp)

theorem DocumentVariable.ofJson?_toJson (v : DocumentVariable) : ofJson? v.toJson = some v := by
  simp [ofJson?, toJson, fields?_record, requiredField]

/-- A domain can be written: it is made of texts and lists of records, and there are no numbers in
it. -/
theorem Domain.writable_toJson (d : Domain) : d.toJson.Writable := by
  have hcollections := writable_list Collection.writable_toJson d.collections
  have hlinkTypes := writable_list LinkType.writable_toJson d.linkTypes
  have hvariables := writable_list DocumentVariable.writable_toJson d.documentVariables
  exact writable_record (by simp [hcollections, hlinkTypes, hvariables])

/-- A domain is read back from the value that it is written as, member by member, without a
check. -/
theorem Domain.ofJson?_toJson (d : Domain) : ofJson? d.toJson = some d := by
  have hcollections := list?_map Collection.ofJson?_toJson d.collections
  have hlinkTypes := list?_map LinkType.ofJson?_toJson d.linkTypes
  have hvariables := list?_map DocumentVariable.ofJson?_toJson d.documentVariables
  simp [ofJson?, toJson, fields?_record, defaultedField, hcollections, hlinkTypes, hvariables]

/-- A domain that is read from its text is checked, and that is all that can go wrong. -/
theorem Domain.ofJsonText_render (d : Domain) : ofJsonText d.toJson.render = d.checked := by
  rw [ofJsonText, parse?_render d.writable_toJson, Option.bind_some, ofJson?_toJson]

/-- A domain is refused or taken as it is. -/
theorem Domain.checked_eq {d d' : Domain} (h : d.checked = .ok d') : d' = d := by
  rw [checked] at h
  split at h
  · cases h
  · exact (Except.ok.inj h).symm

/-- Domains that are read have passed the check. -/
theorem Domain.checked_of_ofJsonText {text : String} {d : Domain} (h : ofJsonText text = .ok d) :
    d.checked = .ok d := by
  rw [ofJsonText] at h
  split at h
  · have heq := checked_eq h
    rwa [← heq] at h
  · cases h

/-! ## Events -/

theorem Event.writable_toJson (e : Event) : e.toJson.Writable := by
  have hparent : ∀ key part, ∀ m ∈ optionalMember key text part, m.2.Writable := fun _ =>
    forall_optionalMember writable_text
  refine writable_record ?_
  simp only [List.forall_mem_append, List.forall_mem_singleton]
  exact ⟨⟨⟨writable_text _, hparent _ _⟩, hparent _ _⟩, writable_text _⟩

theorem Event.ofJson?_toJson (e : Event) : ofJson? e.toJson = some e := by
  have hnew := optionalField_map text?_text text_ne_null e.newParent
  have hold := optionalField_map text?_text text_ne_null e.oldParent
  rw [ofJson?, toJson, fields?_record]
  · simp [List.lookup_append, requiredField, hnew, hold]
  -- a missing parent is left out, so there are four lists of keys
  · cases e.newParent <;> cases e.oldParent <;> simp [optionalMember]
  · cases e.newParent <;> cases e.oldParent <;> simp [optionalMember]

/-- **Events are read back**, whatever texts they hold; there is nothing about them to be
checked. -/
theorem Event.ofJsonText_render (e : Event) : ofJsonText e.toJson.render = .ok e := by
  rw [ofJsonText, parse?_render e.writable_toJson, Option.bind_some, ofJson?_toJson]

/-! ## Toolbox items -/

theorem Variable.writable_toJson (v : Variable) : v.toJson.Writable :=
  writable_record (by simp)

theorem Variable.isSound_toJson (v : Variable) : v.toJson.isSound = true :=
  isSound_record.mpr (by simp)

theorem Variable.depth_toJson (v : Variable) : v.toJson.depth ≤ 1 :=
  depth_record_le (by simp)

theorem Variable.ofJson?_toJson (v : Variable) : ofJson? v.toJson = some v := by
  simp [ofJson?, toJson, fields?_record, requiredField]

namespace Toolbox.Item

theorem writable_toJson (item : Item) : item.toJson.Writable := by
  cases item with
  | block blockType preset =>
    refine writable_record ?_
    rw [List.forall_mem_append]
    exact ⟨by simp, forall_optionalMember Variable.writable_toJson preset⟩
  | separator gap => exact writable_record (by simp)

/-- A toolbox item is read back from the value that it is written as: a separator with its gap, a
block with its type and, if it is listed with one, its variable. -/
theorem ofJson?_toJson (item : Item) : ofJson? item.toJson = some item := by
  cases item with
  | block blockType preset =>
    have hlabelled : (toJson (.block blockType preset)).labelled? "kind" 0 = some ("block",
        record (("block_type", text blockType) ::
          optionalMember "variable" Variable.toJson preset)) := by
      refine labelled?_record 1 ?_ ?_ ?_ ?_
      · exact List.forall_mem_cons.mpr ⟨isSound_text blockType,
          forall_optionalMember Variable.isSound_toJson preset⟩
      · exact List.forall_mem_cons.mpr ⟨Nat.zero_le 1,
          forall_optionalMember Variable.depth_toJson preset⟩
      · decide
      · cases preset <;> simp [optionalMember]
    have hpreset :=
      optionalField_map Variable.ofJson?_toJson (fun _ => Json.noConfusion) preset
    rw [ofJson?, hlabelled]
    simp only [Option.bind_eq_bind, Option.bind_some, if_true]
    rw [fields?_record]
    · simp [requiredField, hpreset]
    · cases preset <;> simp [optionalMember]
    · simp
  | separator gap =>
    have hgap : gap.toNat < UInt32.size := gap.toNat_lt_size
    have hlabelled : (toJson (.separator gap)).labelled? "kind" 0 =
        some ("separator", record [("gap", nat gap.toNat)]) := by
      -- numbers have to be in the range of doubles, read or not, and 32 bits are
      refine labelled?_record 0 ?_ ?_ ?_ ?_
      · simp [isSound_nat (Nat.lt_trans hgap (by decide))]
      · simp
      · decide
      · simp
    simp [ofJson?, hlabelled, fields?_record, requiredField, natBelow?_nat hgap]

/-- **Toolbox items are read back.** A gap has to fit into the range of the reader, which every gap
does by its type. -/
theorem ofJsonText_render (item : Item) : ofJsonText item.toJson.render = .ok item := by
  rw [ofJsonText, parse?_render item.writable_toJson, Option.bind_some, ofJson?_toJson]

end Toolbox.Item

/-! ## All of them -/

/-- **What is exchanged is read back as it was written**: domains that pass the check, events, and
toolbox items, with any texts in them. So whatever text one of them is read from, writing it and
reading it again changes nothing. -/
theorem exchange_roundTrip :
    (∀ d : Domain, d.checked = .ok d → Domain.ofJsonText d.toJson.render = .ok d) ∧
      (∀ e : Event, Event.ofJsonText e.toJson.render = .ok e) ∧
      (∀ item : Toolbox.Item, Toolbox.Item.ofJsonText item.toJson.render = .ok item) ∧
      (∀ text d, Domain.ofJsonText text = .ok d → Domain.ofJsonText d.toJson.render = .ok d) ∧
      (∀ text e, Event.ofJsonText text = .ok e → Event.ofJsonText e.toJson.render = .ok e) ∧
      ∀ text item, Toolbox.Item.ofJsonText text = .ok item →
        Toolbox.Item.ofJsonText item.toJson.render = .ok item := by
  refine ⟨fun d h => ?_, Event.ofJsonText_render, Toolbox.Item.ofJsonText_render,
    fun text d h => ?_, fun _ e _ => e.ofJsonText_render, fun _ item _ => item.ofJsonText_render⟩
  · rw [d.ofJsonText_render, h]
  · rw [d.ofJsonText_render, Domain.checked_of_ofJsonText h]

/-- A quote, a backslash, a line break, the character zero and one that takes two halves to write,
in a domain, an event and an item that are also read from texts in array form. -/
theorem exchange_roundTrip_escapes :
    let d : Domain :=
      { collections := [{ id := "\"\\\n\x00𝄞", name := "", defaultAttribute := some "" }] }
    let e : Event :=
      { block := "\"", newParent := none, oldParent := some "\x00", workspace := "\\" }
    let item : Toolbox.Item := .block "𝄞" none
    d.checked = .ok d ∧ Domain.ofJsonText d.toJson.render = .ok d ∧
      Domain.ofJsonText "[[[\"\\\"\\\\\\n\\u0000𝄞\", \"\", \"\", \"\", \"\"]]]" = .ok d ∧
      Event.ofJsonText "[\"\\\"\", null, \"\\u0000\", \"\\\\\"]" = .ok e ∧
      Event.ofJsonText e.toJson.render = .ok e ∧
      Toolbox.Item.ofJsonText "[\"block\", \"\\ud834\\udd1e\"]" = .ok item ∧
      Toolbox.Item.ofJsonText item.toJson.render = .ok item := by
  obtain ⟨hdomain, -, -, -, hevents, hitems⟩ := exchange_roundTrip
  refine ⟨rfl, hdomain _ rfl, ?_, ?event, hevents _ _ ?event, ?item, hitems _ _ ?item⟩ <;>
    decide +kernel

end TypedBlocks
