import Mathlib.Logic.Function.Iterate
import TypedBlocks.Proofs.Tag.Canonical

/-!
# Lists of what a text means

To put the ending of a list behind a text is to form the list of what the text means
(`ofText_append_ending`): a document becomes several, a text that means nothing goes on meaning
nothing, and everything else becomes a list. The first ending behind a document is the odd one,
because together with the ending of a document it is that of several; behind that one endings are
lists. Taking the element undoes one ending at a time, so nothing is lost however many there are
(`reading_plurals`).
-/

namespace TypedBlocks.Tag

/-! ## The depth of reading -/

/-- How many list endings may be taken off makes no difference, once there cannot be as many. -/
theorem ofCharsWithin_deep {chars : List Char} {depth depth' : Nat} (h : chars.length < depth)
    (h' : chars.length < depth') : ofCharsWithin depth chars = ofCharsWithin depth' chars := by
  -- whatever is read at one depth is canonical and written as these characters, so it is read back
  -- at the other
  have hback : ∀ {d d'}, chars.length < d' → ofCharsWithin d chars ≠ .unknown →
      ofCharsWithin d' chars = ofCharsWithin d chars := by
    intro d d' hd' hne
    obtain ⟨hcanonical, htext⟩ := ofCharsWithin_exact d chars
    have hread : ofCharsWithin d' (ofCharsWithin d chars).text.toList = ofCharsWithin d chars :=
      ofCharsWithin_text hcanonical (by rw [htext hne]; exact hd')
    rw [htext hne] at hread
    exact hread
  by_cases hne : ofCharsWithin depth chars = .unknown
  · by_cases hne' : ofCharsWithin depth' chars = .unknown
    · rw [hne, hne']
    · exact hback h hne'
  · exact (hback h' hne).symm

/-! ## One ending -/

/-- A list leads back to its element, that of documents included. -/
@[simp] theorem element?_plural (tag : Tag) : tag.plural.element? = some tag := by
  cases tag <;> rfl

/-- A list of documents is written like any other list. -/
theorem text_plural (tag : Tag) : tag.plural.text = (array tag).text := by
  cases tag with
  | document collection => simp [plural, text, String.append_assoc]
  | _ => rfl

/-- A list of something known is known. -/
theorem plural_ne_unknown (tag : Tag) : tag.plural ≠ .unknown := by
  cases tag <;> exact nofun

/-- What means a document ends like one. -/
theorem documentEnding_of_ofText {text collection : String}
    (h : ofText text = .document collection) : documentEnding <:+ text.toList := by
  have htext : (document collection).text = text := by
    rw [← h]
    exact text_ofText (h ▸ nofun)
  rw [← htext, toList_text_document]
  exact List.suffix_append ..

/-- **An ending makes a list.** -/
theorem ofText_append_ending (text : String) :
    ofText (text ++ "_array") =
      if ofText text = .unknown then .unknown else (ofText text).plural := by
  have happend : (text ++ "_array").toList = text.toList ++ arrayEnding := String.toList_append
  rw [ofText, happend]
  by_cases hends : documentEnding <:+ text.toList
  · obtain ⟨id, hid⟩ := hends
    have hdocument : ofText text = if id = [] then .unknown else .document (String.ofList id) := by
      rw [ofText, ← hid, ofCharsWithin_document]
    rw [← hid, List.append_assoc, documentEnding_append_arrayEnding, ofCharsWithin_documentArray,
      hdocument]
    split
    · rfl
    · rfl
  · have hdeep : ofCharsWithin (text.toList ++ arrayEnding).length text.toList = ofText text :=
      ofCharsWithin_deep (by simp [arrayEnding]) (Nat.lt_succ_self _)
    rw [ofCharsWithin_array _ hends, hdeep]
    cases hread : ofText text with
    | document collection => exact absurd (documentEnding_of_ofText hread) hends
    | _ => rfl

/-! ## Any number of endings -/

/-- Any number of endings makes as many lists of what means something, and nothing of what does
not. -/
theorem ofText_append_endings (n : Nat) (text : String) :
    ofText ((· ++ "_array")^[n] text) =
      if ofText text = .unknown then .unknown else plural^[n] (ofText text) := by
  induction n with
  | zero => split <;> simp [*]
  | succ n ih =>
    rw [Function.iterate_succ_apply', ofText_append_ending, ih, Function.iterate_succ_apply']
    by_cases hunknown : ofText text = .unknown
    · simp only [hunknown, if_true]
    · have hknown : plural^[n] (ofText text) ≠ .unknown := by
        cases n with
        | zero => exact hunknown
        | succ n =>
          rw [Function.iterate_succ_apply']
          exact plural_ne_unknown _
      simp only [hunknown, hknown, if_false]

/-- Taking the element as often as a list was formed leads back. -/
theorem elements_plurals (n : Nat) (tag : Tag) :
    (Option.bind · element?)^[n] (some (plural^[n] tag)) = some tag := by
  induction n with
  | zero => rfl
  | succ n ih =>
    -- the list that was formed last is the first that is opened
    rw [Function.iterate_succ_apply, Function.iterate_succ_apply', Option.bind_some,
      element?_plural, ih]

/-- **Endings are lists.** The ending of a list behind a text makes the list of what the text means,
if it means anything, and that list leads back to its element; to the reader of texts it makes no
difference whether a list of documents has the form of its own. Any number of endings makes as many
lists, and as many elements lead back. -/
theorem reading_plurals :
    (∀ text, ofText (text ++ "_array") =
      if ofText text = .unknown then .unknown else (ofText text).plural) ∧
    (∀ tag : Tag, tag.plural.element? = some tag ∧ tag.plural.text = (array tag).text) ∧
    ∀ (n : Nat) (text : String),
      ofText ((· ++ "_array")^[n] text) =
        (if ofText text = .unknown then .unknown else plural^[n] (ofText text)) ∧
      (Option.bind · element?)^[n] (some (plural^[n] (ofText text))) = some (ofText text) :=
  ⟨ofText_append_ending, fun tag => ⟨element?_plural tag, text_plural tag⟩,
    fun n text => ⟨ofText_append_endings n text, elements_plurals n _⟩⟩

/-- An ending behind no document, behind a document, and behind several. -/
example : ofText "_document_array" = .unknown ∧
    ofText "ship_document_array" = .documentArray "ship" ∧
    ofText "ship_document_array_array" = .array (.documentArray "ship") := by decide

end TypedBlocks.Tag
