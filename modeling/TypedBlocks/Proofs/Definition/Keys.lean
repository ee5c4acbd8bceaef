import Mathlib.Data.Set.Function
import TypedBlocks.Proofs.Definition.Made
import TypedBlocks.Proofs.Tag.Canonical
import TypedBlocks.Proofs.Text.Bytes

/-!
# Reading keys back

A block type is read as a built-in one, as a getter if it begins like one, and as a link otherwise.
Keys survive that: the names of getters and links cannot be taken for each other, and the pair of a
link cannot be divided in the wrong place, both because the smaller id comes first.

* A pair that begins like a getter would be `variables` and an id that begins with `get`, which is
  smaller (`not_beginning`).
* If the smaller id has an underscore, what stands before that is read as the first of the pair. It
  is smaller still, so the pair that is read is another one, also when it is sorted again
  (`usable_of_ofBlockType?`).
-/

namespace TypedBlocks

/-- The place of the first underscore is determined. -/
theorem Tag.first_underscore_unique {first second first' second' : List Char} (h : '_' ∉ first)
    (h' : '_' ∉ first') (he : first ++ '_' :: second = first' ++ '_' :: second') :
    first = first' ∧ second = second' := by
  rcases List.append_eq_append_iff.mp he with ⟨between, rfl, hrest⟩ | ⟨between, rfl, hrest⟩
  · cases between with
    | nil => simpa using hrest
    | cons c between =>
      rw [List.cons_append, List.cons.injEq] at hrest
      exact absurd (by simp [← hrest.1]) h'
  · cases between with
    | nil => simpa [eq_comm] using hrest
    | cons c between =>
      rw [List.cons_append, List.cons.injEq] at hrest
      exact absurd (by simp [← hrest.1]) h

namespace Definition.Key

variable {a b : String}

/-! ## The smaller id -/

/-- The one of two ids that comes first in a link, by the order of their bytes. -/
def smaller (a b : String) : String := if Text.bytes a ≤ Text.bytes b then a else b

/-- A link names the smaller id first. -/
theorem ofPair_sorted (a b : String) :
    ∃ second, smaller a b ≤ second ∧ ofPair a b = .link (smaller a b) second := by
  rw [ofPair, smaller]
  by_cases h : a ≤ b
  · rw [if_pos h, if_pos (Text.le_iff_bytes_le.mp h)]
    exact ⟨b, h, rfl⟩
  · rw [if_neg h, if_neg (mt Text.le_iff_bytes_le.mpr h)]
    exact ⟨a, le_of_not_ge h, rfl⟩

/-- The order in which the ids of a link are given does not matter. -/
theorem ofPair_comm (a b : String) : ofPair a b = ofPair b a := by
  rw [ofPair, ofPair]
  rcases lt_trichotomy a b with h | rfl | h
  · rw [if_pos h.le, if_neg h.not_ge]
  · rfl
  · rw [if_neg h.not_ge, if_pos h.le]

/-! ## Getters -/

/-- A getter is read back, unless its collection has no id to speak of. -/
theorem ofBlockType?_collection (id : String) :
    ofBlockType? (Key.collection id).blockType =
      if id = "" then none else some (.collection id) := by
  have hchars : (getterType id).toList = getterBeginning.toList ++ (Tag.document id).text.toList :=
    String.toList_append
  have hbegins : getterBeginning.toList <+: (getterType id).toList := ⟨_, hchars.symm⟩
  have hforeach : getterType id ≠ foreachType := by
    intro h
    rw [h] at hbegins
    exact absurd hbegins (by decide)
  have hattribute : getterType id ≠ getAttributeType := by
    intro h
    rw [h] at hbegins
    exact absurd hbegins (by decide)
  have hrest : getterBeginning.toList.isPrefixOf? (getterType id).toList =
      some (Tag.document id).text.toList :=
    List.isPrefixOf?_eq_some_iff_append_eq.mpr hchars.symm
  simp only [blockType, ofBlockType?, if_neg hforeach, if_neg hattribute, hrest,
    String.ofList_toList, Tag.ofText_text_document]
  by_cases hid : id = "" <;> simp only [hid, if_true, if_false]

/-- What is read as the loop is its type. -/
theorem eq_foreachType_of_ofBlockType? {blockType : String}
    (h : ofBlockType? blockType = some .foreach) : blockType = foreachType := by
  rw [ofBlockType?] at h
  split at h
  · assumption
  · split at h
    · cases h
    · split at h
      · split at h <;> cases h
      · split at h
        · rename_i first second _
          rcases Key.ofPair_cases first second with he | he <;>
            cases he.symm.trans (Option.some.inj h)
        · cases h

/-- What is read as a getter is the type of one. -/
theorem eq_getterType_of_ofBlockType? {blockType id : String}
    (h : ofBlockType? blockType = some (.collection id)) : blockType = getterType id := by
  rw [ofBlockType?] at h
  split at h
  · cases h
  · split at h
    · cases h
    · split at h
      · rename_i rest hrest
        split at h
        · rename_i collection hread
          obtain rfl := Key.collection.inj (Option.some.inj h)
          have htext : (Tag.document collection).text = String.ofList rest := by
            rw [← hread]
            exact Tag.text_ofText (hread ▸ nofun)
          refine String.toList_inj.mp ?_
          rw [getterType, htext, String.toList_append, String.toList_ofList]
          exact (List.isPrefixOf?_eq_some_iff_append_eq.mp hrest).symm
        · cases h
      · split at h
        · rename_i first second _
          rcases Key.ofPair_cases first second with he | he <;>
            cases he.symm.trans (Option.some.inj h)
        · cases h

/-! ## Links -/

theorem link_ends (a b : String) : Tag.linkEnding <:+ (Key.link a b).blockType.toList :=
  ⟨_, (Tag.toList_text_link a b).symm⟩

/-- No link begins like a getter if its ids are sorted and the first has no underscore. -/
theorem not_beginning (hle : a ≤ b) (hmem : '_' ∉ a.toList) :
    ¬ getterBeginning.toList <+: (Key.link a b).blockType.toList := by
  rintro ⟨rest, hrest⟩
  have hdivided : "variables".toList ++ '_' :: ("get_".toList ++ rest) =
      a.toList ++ '_' :: (b.toList ++ Tag.linkEnding) := by
    rw [blockType, Tag.toList_text_link, List.append_assoc] at hrest
    exact hrest
  obtain ⟨ha, hb⟩ := Tag.first_underscore_unique (by decide) hmem hdivided
  -- the second id begins with a letter before the first one's
  have hlt : b < a := by
    rw [String.lt_iff_toList_lt, ← ha]
    cases hsecond : b.toList with
    | nil => exact List.nil_lt_cons _ _
    | cons c second =>
      rw [hsecond] at hb
      obtain ⟨rfl, -⟩ := List.cons.inj hb
      exact List.cons_lt_cons_iff.mpr (.inl (by decide))
  exact absurd hle (not_le_of_gt hlt)

/-- A link between ids that can be told apart is read back, if it does not begin like a getter. -/
theorem ofBlockType?_of_not_beginning (hne : a ≠ "") (hmem : '_' ∉ a.toList) (hne' : b ≠ "")
    (h : ¬ getterBeginning.toList <+: (Key.link a b).blockType.toList) :
    ofBlockType? (Key.link a b).blockType = some (ofPair a b) := by
  have hforeach : (Key.link a b).blockType ≠ foreachType := by
    intro h
    exact absurd (h ▸ link_ends a b) (by decide)
  have hattribute : (Key.link a b).blockType ≠ getAttributeType := by
    intro h
    exact absurd (h ▸ link_ends a b) (by decide)
  have hbegins : getterBeginning.toList.isPrefixOf? (Key.link a b).blockType.toList = none := by
    cases hfound : getterBeginning.toList.isPrefixOf? (Key.link a b).blockType.toList with
    | none => rfl
    | some rest => exact absurd ⟨rest, List.isPrefixOf?_eq_some_iff_append_eq.mp hfound⟩ h
  have hread : Tag.ofText (Key.link a b).blockType = .link a b :=
    Tag.ofText_text_link hne hmem hne'
  simp only [ofBlockType?, if_neg hforeach, if_neg hattribute, hbegins, hread]

/-- A link is read back if its smaller id comes first, and can be told from the other. -/
theorem ofBlockType?_link (hle : a ≤ b) (hne : a ≠ "") (hmem : '_' ∉ a.toList) :
    ofBlockType? (Key.link a b).blockType = some (.link a b) := by
  have hsecond : b ≠ "" := by
    rintro rfl
    obtain ⟨c, rest, hfirst⟩ := List.exists_cons_of_ne_nil (mt String.toList_eq_nil_iff.mp hne)
    refine absurd hle (not_le_of_gt (String.lt_iff_toList_lt.mpr ?_))
    rw [hfirst]
    exact List.nil_lt_cons c rest
  rw [ofBlockType?_of_not_beginning hne hmem hsecond (not_beginning hle hmem), ofPair, if_pos hle]

/-- What is read as a link has the form of one. -/
theorem ofBlockType?_eq_link {blockType : String}
    (h : ofBlockType? blockType = some (.link a b)) :
    ∃ first second, Tag.ofText blockType = .link first second ∧
      ofPair first second = .link a b := by
  rw [ofBlockType?] at h
  split at h
  · cases h
  · split at h
    · cases h
    · split at h
      · split at h <;> cases h
      · split at h
        · rename_i first second hread
          exact ⟨first, second, hread, Option.some.inj h⟩
        · cases h

/-- **A link that is read back can be told apart**: its first id is one, and has no underscore, so
the pair is divided where it was joined. -/
theorem usable_of_ofBlockType? (hle : a ≤ b)
    (h : ofBlockType? (Key.link a b).blockType = some (.link a b)) :
    a ≠ "" ∧ '_' ∉ a.toList := by
  obtain ⟨first, second, hread, hpair⟩ := ofBlockType?_eq_link h
  obtain ⟨hfirst, hmem, hsecond⟩ : (Tag.link first second).Canonical :=
    hread ▸ Tag.canonical_ofText _
  rcases ofPair_cases first second with he | he
  · obtain ⟨rfl, rfl⟩ := Key.link.inj (he.symm.trans hpair)
    exact ⟨hfirst, hmem⟩
  · -- the pair was divided elsewhere, and sorting has turned it round
    obtain ⟨rfl, rfl⟩ := Key.link.inj (he.symm.trans hpair)
    refine ⟨hsecond, fun hmem' => ?_⟩
    have htext := congrArg String.toList (Tag.text_ofText (hread ▸ nofun) :
      (Tag.ofText (Key.link second first).blockType).text = (Key.link second first).blockType)
    rw [hread, blockType, Tag.toList_text_link, Tag.toList_text_link,
      List.append_cancel_right_eq] at htext
    -- what stands before the first underscore of the smaller id would be the greater one
    obtain ⟨before, after, hsplit, hbefore⟩ := List.eq_append_cons_of_mem hmem'
    rw [hsplit, List.append_assoc, List.cons_append] at htext
    obtain ⟨hsame, -⟩ := Tag.first_underscore_unique hmem hbefore htext
    have hprefix : first.toList <+: second.toList := ⟨'_' :: after, by rw [hsplit, hsame]⟩
    have hge : first ≤ second :=
      not_lt.mp (mt String.lt_iff_toList_lt.mp (List.not_lt.mpr hprefix.le))
    exact hmem (le_antisymm hge hle ▸ hmem')

theorem ofBlockType?_ofPair (a b : String) :
    ofBlockType? (ofPair a b).blockType = some (ofPair a b) ↔
      smaller a b ≠ "" ∧ '_' ∉ (smaller a b).toList := by
  obtain ⟨second, hle, he⟩ := ofPair_sorted a b
  rw [he]
  exact ⟨usable_of_ofBlockType? hle, fun ⟨hne, hmem⟩ => ofBlockType?_link hle hne hmem⟩

/-! ## All keys -/

/-- The keys that their block types stand for: the built-in ones, those of getters of a collection
with an id, and those of links between ids that collections can have. -/
inductive Proper : Key → Prop
  | foreach : Proper .foreach
  | getAttribute : Proper .getAttribute
  | collection {id : String} (h : id ≠ "") : Proper (.collection id)
  | link {a b : String} (ha : Collection.isUsableId a) (hb : Collection.isUsableId b) :
      Proper (.ofPair a b)

/-- **A proper key is read back out of its block type.** -/
theorem Proper.ofBlockType? {key : Key} (h : key.Proper) :
    Key.ofBlockType? key.blockType = some key := by
  cases h with
  | foreach => decide
  | getAttribute => decide
  | collection h => rw [ofBlockType?_collection, if_neg h]
  | @link a b ha hb =>
    rw [ofBlockType?_ofPair, ← Collection.isUsableId_iff, smaller]
    split
    · exact ha
    · exact hb

/-- Proper keys have block types of their own. -/
theorem injOn_blockType : Set.InjOn blockType {key | key.Proper} := by
  intro key h key' h' he
  have hread : some key = some key' := by
    rw [← h.ofBlockType?, ← h'.ofBlockType?, he]
  exact Option.some.inj hread

/-- **Which keys are read back out of their block types**: the built-in ones, those of collections
that have an id, and those of links whose smaller id is one and has no underscore. So block types
tell proper keys from each other. -/
theorem reads_back :
    ofBlockType? foreach.blockType = some .foreach ∧
    ofBlockType? getAttribute.blockType = some .getAttribute ∧
    (∀ id, ofBlockType? (collection id).blockType = some (.collection id) ↔ id ≠ "") ∧
    (∀ a b, ofBlockType? (ofPair a b).blockType = some (ofPair a b) ↔
      smaller a b ≠ "" ∧ '_' ∉ (smaller a b).toList) ∧
    Set.InjOn blockType {key | key.Proper} := by
  refine ⟨Proper.foreach.ofBlockType?, Proper.getAttribute.ofBlockType?, fun id => ?_,
    ofBlockType?_ofPair, injOn_blockType⟩
  rw [ofBlockType?_collection]
  by_cases h : id = "" <;> simp [h]

/-- The smaller id has an underscore, so the pair is divided there. -/
example : ofBlockType? (ofPair "ship" "home_port").blockType = some (.link "home" "port_ship") := by
  decide

end Definition.Key

end TypedBlocks
