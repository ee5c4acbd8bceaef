import Mathlib.Data.List.Nodup
import TypedBlocks.Json.Read
import TypedBlocks.Proofs.Json.Texts
import TypedBlocks.Proofs.Number.Range

/-!
# Records that are written and read

For each way in which the part of a record is written there is one in which it is read, and the two
belong together: a text, a list, an optional part that is `null` or left out without one, a pair.
A record whose keys do not repeat is read as its members (`fields?_record`), one that is labelled as
its label and the rest (`labelled?_record`).
-/

namespace TypedBlocks

theorem Glyph.join?_map_char (chars : List Char) : join? (chars.map .char) = some chars := by
  induction chars with
  | nil => rfl
  | cons c chars ih => rw [List.map_cons, join?, ih, Option.map_some]

namespace Json

variable {α : Type} {read : Json → Option α} {toJson : α → Json}

/-! ## Plain values -/

/-- The glyphs that a text is written with join to the characters of the text, whatever these
are. -/
theorem join?_glyphs (s : String) : Glyph.join? (glyphs s) = some s.toList :=
  Glyph.join?_map_char s.toList

/-- So two texts with the same glyphs are the same text. -/
theorem glyphs_injective : Function.Injective glyphs := by
  intro s t h
  have hjoin := congrArg Glyph.join? h
  rw [join?_glyphs, join?_glyphs] at hjoin
  exact String.toList_inj.mp (Option.some.inj hjoin)

@[simp]
theorem text?_text (s : String) : (text s).text? = some s := by
  simp [text?, text, join?_glyphs]

/-- A text is sound: what is written for it joins to a text again, so there are no stray halves. -/
@[simp]
theorem isSound_text (s : String) : (text s).isSound = true := by
  simp [isSound, text, join?_glyphs]

@[simp]
theorem depth_text (s : String) : (text s).depth = 0 := rfl

theorem text_ne_null (s : String) : text s ≠ .null := Json.noConfusion

/-- A list is read back if each of its items is, with one function for all. -/
theorem list?_map (hread : ∀ a, read (toJson a) = some a) (items : List α) :
    list? read (.array (items.map toJson)) = some items := by
  induction items with
  | nil => rfl
  | cons a items ih =>
    simp only [list?] at ih
    simp [list?, hread a, ih]

@[simp]
theorem pair?_texts (a b : String) : pair? text? (texts [a, b]) = some (a, b) := by
  simp [pair?, texts]

/-- A number below `2 ^ 53` is sound, because it is a double without rounding, and not infinite. -/
theorem isSound_nat {n : Nat} (h : n < 2 ^ 53) : (nat n).isSound = true :=
  Numeral.isSome_scaled?_ofNat h

@[simp]
theorem depth_nat (n : Nat) : (nat n).depth = 0 := rfl

/-- A number is read back below any bound that it is below. -/
theorem natBelow?_nat {bound n : Nat} (h : n < bound) : natBelow? bound (nat n) = some n := by
  simp [natBelow?, nat, Numeral.nat?_ofNat, h]

/-- An optional part that is left out without one. -/
theorem optionalField_map (hread : ∀ a, read (toJson a) = some a) (hnull : ∀ a, toJson a ≠ .null)
    (part : Option α) : optionalField read (part.map toJson) = some part := by
  cases part with
  | none => rfl
  | some a =>
    rw [Option.map_some, optionalField, hread a, Option.map_some]
    exact hnull a

/-- An optional part that is `null` without one. -/
theorem optionalField_ofOption (hread : ∀ a, read (toJson a) = some a)
    (hnull : ∀ a, toJson a ≠ .null) (part : Option α) :
    optionalField read (some (ofOption toJson part)) = some part := by
  cases part with
  | none => rfl
  | some a => exact optionalField_map hread hnull (some a)

/-- A property of a member carries over to an optional one, which may not be written at all. -/
theorem forall_optionalMember {p : String × Json → Prop} {key : String}
    (h : ∀ a, p (key, toJson a)) (part : Option α) : ∀ m ∈ optionalMember key toJson part, p m := by
  cases part with
  | none => exact List.forall_mem_nil p
  | some a => exact List.forall_mem_singleton.mpr (h a)

@[simp]
theorem lookup_cons_of_ne {key key' : String} {json : Json} {members : List (String × Json)}
    (h : key ≠ key') : ((key', json) :: members).lookup key = members.lookup key := by
  rw [List.lookup_cons, beq_eq_false_iff_ne.mpr h]

/-- An optional member is found under its key if it is there, and under no other. -/
@[simp]
theorem lookup_optionalMember (key key' : String) (part : Option α) :
    (optionalMember key toJson part).lookup key' =
      if key' = key then part.map toJson else none := by
  cases part with
  | none => simp [optionalMember]
  | some a => by_cases h : key' = key <;> simp [optionalMember, h]

/-! ## Records -/

theorem members?_record (members : List (String × Json)) :
    (record members).members? = some members := by
  simp only [record, members?]
  induction members with
  | nil => rfl
  | cons m members ih => simp [join?_glyphs, ih]

/-- **A record is read as its members**, if no key repeats and none is missing that is required. -/
theorem fields?_record {specs : List FieldSpec} {members : List (String × Json)}
    (hkeys : (members.map (·.1)).Nodup)
    (hrequired : ∀ s ∈ specs, s.presence = .required → s.key ∈ members.map (·.1)) :
    (record members).fields? specs = some fun key => members.lookup key := by
  have htimes : ∀ key, members.countP (·.1 = key) = (members.map (·.1)).count key := by
    intro key
    rw [List.count, List.countP_map]
    congr 1
  have hfields : (record members).fields? specs = objectFields? specs members := by
    rw [fields?, members?_record]
    · rfl
    · exact fun items h => Json.noConfusion h
  rw [hfields, objectFields?, if_pos]
  simp only [List.all_eq_true, htimes, Bool.and_eq_true, decide_eq_true_eq, Bool.or_eq_true,
    bne_iff_ne]
  intro s hs
  refine ⟨List.nodup_iff_count_le_one.mp hkeys s.key, ?_⟩
  by_cases hp : s.presence = .required
  · exact Or.inr (List.nodup_iff_count_eq_one.mp hkeys s.key (hrequired s hs hp))
  · exact Or.inl hp

/-- A record is sound just if what its members hold is; its keys are texts, and always are. -/
theorem isSound_record {members : List (String × Json)} :
    (record members).isSound = true ↔ ∀ m ∈ members, m.2.isSound = true := by
  simp only [record, isSound]
  induction members with
  | nil => simp [soundMembers]
  | cons m members ih => simp [soundMembers, join?_glyphs, ih]

/-- A record is nested one level deeper than its deepest member. -/
theorem depth_record_le {members : List (String × Json)} {limit : Nat}
    (h : ∀ m ∈ members, m.2.depth ≤ limit) : (record members).depth ≤ limit + 1 := by
  simp only [record, depth, Nat.add_le_add_iff_right]
  induction members with
  | nil => exact Nat.zero_le limit
  | cons m members ih =>
    rw [List.forall_mem_cons] at h
    exact Nat.max_le.mpr ⟨h.1, ih h.2⟩

/-- **A labelled record is read as its label and the rest.** -/
theorem labelled?_record {label name : String} {around : Nat} {members : List (String × Json)}
    (limit : Nat) (hsound : ∀ m ∈ members, m.2.isSound = true)
    (hdepth : ∀ m ∈ members, m.2.depth ≤ limit) (hlimit : limit + 1 + around ≤ nestingLimit)
    (hlabel : label ∉ members.map (·.1)) :
    (record ((label, text name) :: members)).labelled? label around =
      some (name, record members) := by
  have hsound' : (record ((label, text name) :: members)).isSound = true :=
    isSound_record.mpr (List.forall_mem_cons.mpr ⟨isSound_text name, hsound⟩)
  have hdepth' : (record ((label, text name) :: members)).depth ≤ limit + 1 :=
    depth_record_le (List.forall_mem_cons.mpr ⟨Nat.zero_le limit, hdepth⟩)
  have hrest : ∀ m ∈ members.map fun m => (glyphs m.1, m.2), m.1 ≠ glyphs label := by
    intro m hm h
    obtain ⟨m', hm', rfl⟩ := List.mem_map.mp hm
    exact hlabel (List.mem_map.mpr ⟨m', hm', glyphs_injective h⟩)
  have hpartition : ((glyphs label, text name) :: members.map fun m => (glyphs m.1, m.2)).partition
        (·.1 = glyphs label) =
      ([(glyphs label, text name)], members.map fun m => (glyphs m.1, m.2)) := by
    rw [List.partition_eq_filter_filter, List.filter_cons_of_pos (by simp),
      List.filter_cons_of_neg (by simp), List.filter_eq_nil_iff.mpr (by simpa using hrest),
      List.filter_eq_self.mpr (by simpa using hrest)]
  have hobject : record ((label, text name) :: members) =
      .object ((glyphs label, text name) :: members.map fun m => (glyphs m.1, m.2)) := rfl
  rw [hobject] at hsound' hdepth' ⊢
  rw [labelled?, if_pos (by simp [hsound']; omega)]
  simp only [hpartition, text?_text, Option.map_some]
  rfl

/-! ## What can be written -/

@[simp]
theorem writable_text (s : String) : (text s).Writable := by
  refine .string fun g hg => ?_
  obtain ⟨c, -, rfl⟩ := List.mem_map.mp hg
  trivial

@[simp]
theorem writable_nat (n : Nat) : (nat n).Writable := .number (Numeral.isStrict_ofNat n)

/-- A list can be written if each of its items can. -/
theorem writable_list (h : ∀ a, (toJson a).Writable) (items : List α) :
    (array (items.map toJson)).Writable := by
  refine .array fun item hitem => ?_
  obtain ⟨a, -, rfl⟩ := List.mem_map.mp hitem
  exact h a

@[simp]
theorem writable_texts (items : List String) : (texts items).Writable :=
  writable_list writable_text items

theorem writable_ofOption (h : ∀ a, (toJson a).Writable) (part : Option α) :
    (ofOption toJson part).Writable := by
  cases part with
  | none => exact .null
  | some a => exact h a

/-- A record can be written if what each of its members holds can. -/
theorem writable_record {members : List (String × Json)} (h : ∀ m ∈ members, m.2.Writable) :
    (record members).Writable := by
  refine .object ?_ ?_
  · intro m hm g hg
    obtain ⟨m, -, rfl⟩ := List.mem_map.mp hm
    obtain ⟨c, -, rfl⟩ := List.mem_map.mp hg
    trivial
  · intro m hm
    obtain ⟨m', hm', rfl⟩ := List.mem_map.mp hm
    exact h m' hm'

end Json

end TypedBlocks
