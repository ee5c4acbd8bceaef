import TypedBlocks.Proofs.TagText

/-!
# Canonical tags

The text format is exact. A tag is *canonical* if its collections are named, the first of a link by
an id without underscores, and no list in it is one of unknowns or of single documents. Reading
yields canonical tags only, and what it yields is written as the text that was read
(`ofCharsWithin_exact`). Conversely every canonical tag is read back out of its text
(`ofCharsWithin_text`). So texts and canonical tags are two forms of the same, up to the texts that
mean nothing.
-/

namespace TypedBlocks.Tag

/-- Can a tag be read back out of its text? Its ids must not be empty, the first of a link must have
no underscore, and a list must not be over what has a form of its own or means nothing. -/
def Canonical : Tag → Prop
  | .document collection => collection ≠ ""
  | .documentArray collection => collection ≠ ""
  | .link first second => first ≠ "" ∧ '_' ∉ first.toList ∧ second ≠ ""
  | .array element => element.Canonical ∧ element ≠ .unknown ∧ element.isDocument = false
  | .unknown => True

/-- **Reading is exact.** What is read is canonical, and its text is the one that was read. -/
theorem ofCharsWithin_exact (depth : Nat) (chars : List Char) :
    (ofCharsWithin depth chars).Canonical ∧
      (ofCharsWithin depth chars ≠ .unknown → (ofCharsWithin depth chars).text.toList = chars) := by
  -- by induction on the number of list endings that may be taken off
  induction depth generalizing chars with
  | zero => exact ⟨trivial, fun h => absurd rfl h⟩
  | succ depth ih =>
    cases ends chars with
    | documentArray id =>
      rw [ofCharsWithin_documentArray]
      split
      · exact ⟨trivial, fun h => absurd rfl h⟩
      · rename_i hne
        exact ⟨by simpa [Canonical] using hne, fun _ => by simp⟩
    | document id =>
      rw [ofCharsWithin_document]
      split
      · exact ⟨trivial, fun h => absurd rfl h⟩
      · rename_i hne
        exact ⟨by simpa [Canonical] using hne, fun _ => by simp⟩
    | link pair =>
      rw [ofCharsWithin_link]
      rcases ofPair_cases pair with he | ⟨first, second, hfirst, hmem, hsecond, rfl, he⟩
      · rw [he]
        exact ⟨trivial, fun h => absurd rfl h⟩
      · rw [he]
        exact ⟨by simp [Canonical, hfirst, hmem, hsecond], fun _ => by simp⟩
    | array element hends =>
      rw [ofCharsWithin_array depth hends]
      obtain ⟨hcanonical, htext⟩ := ih element
      cases hread : ofCharsWithin depth element with
      | unknown => exact ⟨trivial, fun h => absurd rfl h⟩
      | document collection =>
        -- the element would end like a document, and the two endings are that of several
        rw [hread, toList_text_document] at htext
        exact absurd ⟨collection.toList, htext nofun⟩ hends
      | _ =>
        rw [hread] at hcanonical htext
        refine ⟨⟨hcanonical, nofun, rfl⟩, fun _ => ?_⟩
        rw [listOf, toList_text_array, htext nofun]
        nofun
    | other _ hother =>
      rw [hother]
      exact ⟨trivial, fun h => absurd rfl h⟩

/-- Nothing but a document ends like one. -/
theorem not_documentEnding {tag : Tag} (hne : tag ≠ .unknown) (h : tag.isDocument = false) :
    ¬ documentEnding <:+ tag.text.toList := by
  cases tag with
  | document collection => cases h
  | documentArray collection =>
    rw [toList_text_documentArray]
    exact not_suffix_append (by decide) (by decide) _
  | link first second =>
    rw [toList_text_link]
    exact not_suffix_append (by decide) (by decide) _
  | array element =>
    rw [toList_text_array]
    exact not_suffix_append (by decide) (by decide) _
  | unknown => exact absurd rfl hne

/-- **A canonical tag is read back out of its text**, once enough list endings may be taken off. -/
theorem ofCharsWithin_text {tag : Tag} (h : tag.Canonical) {depth : Nat}
    (hdepth : tag.text.toList.length < depth) : ofCharsWithin depth tag.text.toList = tag := by
  induction tag generalizing depth with
  | document collection =>
    obtain ⟨depth, rfl⟩ := Nat.exists_eq_add_of_lt hdepth
    exact (ofCharsWithin_text_document _ collection).trans (if_neg h)
  | documentArray collection =>
    obtain ⟨depth, rfl⟩ := Nat.exists_eq_add_of_lt hdepth
    exact (ofCharsWithin_text_documentArray _ collection).trans (if_neg h)
  | link first second =>
    obtain ⟨depth, rfl⟩ := Nat.exists_eq_add_of_lt hdepth
    obtain ⟨hfirst, hmem, hsecond⟩ := h
    exact ofCharsWithin_text_link _ hfirst hmem hsecond
  | array element ih =>
    obtain ⟨hcanonical, hne, hdocument⟩ := h
    have hlength : element.text.toList.length + arrayEnding.length < depth := by
      simpa using hdepth
    have hpositive : 0 < arrayEnding.length := by decide
    obtain ⟨depth, rfl⟩ := Nat.exists_eq_add_of_lt hlength
    rw [toList_text_array, ofCharsWithin_array _ (not_documentEnding hne hdocument),
      ih hcanonical (by omega)]
    cases element with
    | unknown => exact absurd rfl hne
    | document collection => cases hdocument
    | _ => rfl
  | unknown =>
    obtain ⟨depth, rfl⟩ := Nat.exists_eq_add_of_lt hdepth
    exact ofCharsWithin_text_unknown _

theorem canonical_ofText (text : String) : (ofText text).Canonical :=
  (ofCharsWithin_exact _ text.toList).1

/-- What a text means is written as that text. -/
theorem text_ofText {text : String} (h : ofText text ≠ .unknown) : (ofText text).text = text :=
  String.toList_inj.mp ((ofCharsWithin_exact _ text.toList).2 h)

/-- A tag is read back out of its text just if it is canonical. -/
theorem ofText_text_eq_iff {tag : Tag} : ofText tag.text = tag ↔ tag.Canonical := by
  constructor
  · intro h
    rw [← h]
    exact canonical_ofText tag.text
  · exact fun h => ofCharsWithin_text h (Nat.lt_succ_self _)

/-- **The text format is exact.** Every text reads as a canonical tag, and as one that is written as
that text if it means anything; and a tag is read back out of its text just if it is canonical. -/
theorem reading_exact :
    (∀ text, (ofText text).Canonical ∧ (ofText text ≠ .unknown → (ofText text).text = text)) ∧
    ∀ tag : Tag, ofText tag.text = tag ↔ tag.Canonical :=
  ⟨fun text => ⟨canonical_ofText text, text_ofText⟩, fun _ => ofText_text_eq_iff⟩

/-- A list of single documents has the text of several. -/
example : ofText (array (document "ship")).text = .documentArray "ship" := by decide

/-- Lists of links, whose second collection is named with an underscore. -/
theorem reading_exact_lists :
    ofText "ship_home_port_link_array_array" ≠ .unknown ∧
      (ofText "ship_home_port_link_array_array").text = "ship_home_port_link_array_array" :=
  have hne : ofText "ship_home_port_link_array_array" ≠ .unknown := by decide
  ⟨hne, (reading_exact.1 _).2 hne⟩

end TypedBlocks.Tag
