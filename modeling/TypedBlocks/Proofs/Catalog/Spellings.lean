import TypedBlocks.Catalog
import TypedBlocks.Proofs.Definition.Keys

/-!
# The two spellings of a link

A link type is written with its collections in either order, and both spellings are types of link
blocks. The catalog files the definition under the sorted pair, so both should lead to it. One
spelling does not: a name that begins like a getter is read as a getter or as nothing, and
`variables_get_link` is a link between `variables` and `get` that begins that way. No other link
does (`beginning_iff`): an id has no underscore, so the two that stand in the beginning of getters
have to be the ends of the two ids.
-/

namespace TypedBlocks

variable {a b : String}

namespace Definition.Key

/-- **Only one link begins like a getter**, among those between ids without underscores: the one
from `variables` to `get`, because the beginning of getters has an underscore after each of these
words. -/
theorem beginning_iff (ha : '_' ∉ a.toList) (hb : '_' ∉ b.toList) :
    getterBeginning.toList <+: (Tag.link a b).text.toList ↔ a = "variables" ∧ b = "get" := by
  constructor
  · rintro ⟨rest, hrest⟩
    have hdivided : "variables".toList ++ '_' :: ("get".toList ++ '_' :: rest) =
        a.toList ++ '_' :: (b.toList ++ '_' :: "link".toList) := by
      rw [Tag.toList_text_link, List.append_assoc] at hrest
      exact hrest
    obtain ⟨hfirst, hdivided⟩ := Tag.first_underscore_unique (by decide) ha hdivided
    obtain ⟨hsecond, -⟩ := Tag.first_underscore_unique (by decide) hb hdivided
    exact ⟨(String.toList_inj.mp hfirst).symm, (String.toList_inj.mp hsecond).symm⟩
  · rintro ⟨rfl, rfl⟩
    decide

/-- **What a spelling of a link is read as**: the key of the link, in which the order of its ids is
lost, unless the spelling begins like a getter. Then it is read as nothing. -/
theorem ofBlockType?_text_link (ha : Collection.isUsableId a) (hb : Collection.isUsableId b) :
    ofBlockType? (Tag.link a b).text =
      if a = "variables" ∧ b = "get" then none else some (ofPair a b) := by
  obtain ⟨hne, hmem⟩ := Collection.isUsableId_iff.mp ha
  obtain ⟨hne', hmem'⟩ := Collection.isUsableId_iff.mp hb
  split
  · rename_i h
    obtain ⟨rfl, rfl⟩ := h
    decide
  · rename_i h
    exact ofBlockType?_of_not_beginning hne hmem hne' (mt (beginning_iff hmem hmem').mp h)

end Definition.Key

namespace Catalog

open Definition

/-- Both spellings of a link are types of link blocks. -/
theorem isLinkType_text_link (ha : Collection.isUsableId a) (hb : Collection.isUsableId b) :
    Tag.isLinkType (Tag.link a b).text = true := by
  obtain ⟨hne, hmem⟩ := Collection.isUsableId_iff.mp ha
  obtain ⟨hne', -⟩ := Collection.isUsableId_iff.mp hb
  exact Tag.isLinkType_iff.mpr ⟨a, b, Tag.ofText_text_link hne hmem hne'⟩

/-- **The spellings of a link.** Let two collections have ids that they can have. Either order of
them spells the type of a link block, and both spellings have the key of the link, in which the
order does not matter; a catalog that has the link finds it under either. Only `variables_get_link`
has no key and is never found, because it begins like a getter. -/
theorem link_spellings (ha : Collection.isUsableId a) (hb : Collection.isUsableId b) :
    Tag.isLinkType (Tag.link a b).text = true ∧
    Key.ofPair a b = Key.ofPair b a ∧
    Key.ofBlockType? (Tag.link a b).text =
      (if a = "variables" ∧ b = "get" then none else some (Key.ofPair a b)) ∧
    ∀ c : Catalog, c.definition? (Tag.link a b).text =
      if a = "variables" ∧ b = "get" then none else c.definitions.get? (Key.ofPair a b) := by
  refine ⟨isLinkType_text_link ha hb, Key.ofPair_comm a b, Key.ofBlockType?_text_link ha hb,
    fun c => ?_⟩
  rw [definition?, Key.ofBlockType?_text_link ha hb]
  split <;> rfl

/-- The type of a link block without a definition, whose other spelling has one. -/
theorem link_spellings_variables_get :
    Tag.isLinkType "variables_get_link" = true ∧
    Key.ofBlockType? "variables_get_link" = none ∧
    Key.ofBlockType? "get_variables_link" = some (.ofPair "variables" "get") := by
  obtain ⟨hlink, hsorted, hkey, -⟩ :=
    link_spellings (a := "variables") (b := "get") (by decide) (by decide)
  obtain ⟨-, -, hother, -⟩ :=
    link_spellings (a := "get") (b := "variables") (by decide) (by decide)
  exact ⟨hlink, hkey.trans (if_pos ⟨rfl, rfl⟩),
    hother.trans ((if_neg (by decide)).trans (congrArg some hsorted.symm))⟩

end Catalog

end TypedBlocks
