import Mathlib.Data.List.Basic
import Mathlib.Data.List.TakeWhile
import TypedBlocks.Tag

/-!
# Reading tags back

A tag can be read back out of its text as long as its collections can be told from what stands
around them: `ofText_text_document`, `ofText_text_documentArray` and `ofText_text_link` say so for
the tags that outputs and block types are made of. Of the four endings only those of several
documents and of a list overlap; for the others it does not matter in which order the reader tries
them. `ends` sorts texts by the ending that the reader finds.
-/

namespace TypedBlocks.Tag

/-! ## Endings -/

/-- What stands before an ending is found again. -/
theorem isSuffixOf?_append_self (start ending : List Char) :
    ending.isSuffixOf? (start ++ ending) = some start :=
  List.isSuffixOf?_eq_some_iff_append_eq.mpr rfl

section Apart

variable {ending other : List Char} (h : ¬ ending <:+ other) (h' : ¬ other <:+ ending)

include h h'

/-- Of two endings neither of which ends the other, no text has both. -/
theorem not_suffix_append (start : List Char) : ¬ ending <:+ start ++ other := by
  intro hends
  rcases List.suffix_or_suffix_of_suffix hends (List.suffix_append start other) with hs | hs
  · exact h hs
  · exact h' hs

theorem isSuffixOf?_append_of_not (start : List Char) :
    ending.isSuffixOf? (start ++ other) = none := by
  cases hfound : ending.isSuffixOf? (start ++ other) with
  | none => rfl
  | some rest =>
    exact absurd ⟨rest, List.isSuffixOf?_eq_some_iff_append_eq.mp hfound⟩
      (not_suffix_append h h' start)

end Apart

/-- The one ending that another one ends: several documents are a list of documents. -/
theorem documentEnding_append_arrayEnding :
    documentEnding ++ arrayEnding = documentArrayEnding := by decide

/-! ## The four readings -/

/-- A text that ends as a list of documents is read as one, unless nothing stands before the
ending. -/
theorem ofCharsWithin_documentArray (depth : Nat) (id : List Char) :
    ofCharsWithin (depth + 1) (id ++ documentArrayEnding) =
      if id = [] then .unknown else .documentArray (String.ofList id) := by
  simp only [ofCharsWithin, isSuffixOf?_append_self]

/-- A text that ends as a document is read as one, unless nothing stands before the ending. -/
theorem ofCharsWithin_document (depth : Nat) (id : List Char) :
    ofCharsWithin (depth + 1) (id ++ documentEnding) =
      if id = [] then .unknown else .document (String.ofList id) := by
  have hlong : documentArrayEnding.isSuffixOf? (id ++ documentEnding) = none :=
    isSuffixOf?_append_of_not (by decide) (by decide) id
  simp only [ofCharsWithin, hlong, isSuffixOf?_append_self]

/-- A text that ends as a link is read as the link of the pair before the ending, if that is a
pair. -/
theorem ofCharsWithin_link (depth : Nat) (pair : List Char) :
    ofCharsWithin (depth + 1) (pair ++ linkEnding) = ofPair pair := by
  have hlong : documentArrayEnding.isSuffixOf? (pair ++ linkEnding) = none :=
    isSuffixOf?_append_of_not (by decide) (by decide) pair
  have hshort : documentEnding.isSuffixOf? (pair ++ linkEnding) = none :=
    isSuffixOf?_append_of_not (by decide) (by decide) pair
  simp only [ofCharsWithin, hlong, hshort, isSuffixOf?_append_self]

/-- The text of a list is read as a list of what its element is read as. An element that ends like
a document is the exception, the two endings together are that of several documents. -/
theorem ofCharsWithin_array (depth : Nat) {element : List Char} (h : ¬ documentEnding <:+ element) :
    ofCharsWithin (depth + 1) (element ++ arrayEnding) = listOf (ofCharsWithin depth element) := by
  have hlong : documentArrayEnding.isSuffixOf? (element ++ arrayEnding) = none := by
    cases hfound : documentArrayEnding.isSuffixOf? (element ++ arrayEnding) with
    | none => rfl
    | some id =>
      have hjoin : (id ++ documentEnding) ++ arrayEnding = element ++ arrayEnding := by
        rw [List.append_assoc, documentEnding_append_arrayEnding]
        exact List.isSuffixOf?_eq_some_iff_append_eq.mp hfound
      exact absurd ⟨id, List.append_cancel_right hjoin⟩ h
  have hshort : documentEnding.isSuffixOf? (element ++ arrayEnding) = none :=
    isSuffixOf?_append_of_not (by decide) (by decide) element
  have hlink : linkEnding.isSuffixOf? (element ++ arrayEnding) = none :=
    isSuffixOf?_append_of_not (by decide) (by decide) element
  simp only [ofCharsWithin, hlong, hshort, hlink, isSuffixOf?_append_self]

/-- What a text ends in, as the reader finds it. -/
inductive Ends : List Char → Prop
  | documentArray (id : List Char) : Ends (id ++ documentArrayEnding)
  | document (id : List Char) : Ends (id ++ documentEnding)
  | link (pair : List Char) : Ends (pair ++ linkEnding)
  | array (element : List Char) (h : ¬ documentEnding <:+ element) : Ends (element ++ arrayEnding)
  | other (chars : List Char) (h : ∀ depth, ofCharsWithin depth chars = .unknown) : Ends chars

/-- Every text is of one of the forms that the reader asks for in turn, or of none of them. -/
theorem ends (chars : List Char) : Ends chars := by
  cases hlong : documentArrayEnding.isSuffixOf? chars with
  | some id => exact List.isSuffixOf?_eq_some_iff_append_eq.mp hlong ▸ .documentArray id
  | none =>
    cases hshort : documentEnding.isSuffixOf? chars with
    | some id => exact List.isSuffixOf?_eq_some_iff_append_eq.mp hshort ▸ .document id
    | none =>
      cases hlink : linkEnding.isSuffixOf? chars with
      | some pair => exact List.isSuffixOf?_eq_some_iff_append_eq.mp hlink ▸ .link pair
      | none =>
        cases harray : arrayEnding.isSuffixOf? chars with
        | some element =>
          obtain rfl := List.isSuffixOf?_eq_some_iff_append_eq.mp harray
          refine .array element ?_
          rintro ⟨id, rfl⟩
          rw [List.append_assoc, documentEnding_append_arrayEnding,
            isSuffixOf?_append_self] at hlong
          cases hlong
        | none =>
          refine .other chars fun depth => ?_
          cases depth with
          | zero => rfl
          | succ depth => simp only [ofCharsWithin, hlong, hshort, hlink, harray]

/-! ## Pairs -/

/-- A pair is divided where it was joined, if no underscore comes before that. -/
theorem ofPair_append {first second : List Char} (hfirst : first ≠ []) (hmem : '_' ∉ first)
    (hsecond : second ≠ []) :
    ofPair (first ++ '_' :: second) = .link (String.ofList first) (String.ofList second) := by
  have htake : (first ++ '_' :: second).takeWhile (· != '_') = first := by
    rw [List.takeWhile_append_of_pos fun c hc => by
      simpa using fun he : c = '_' => hmem (he ▸ hc)]
    simp
  have hdrop : (first ++ '_' :: second).dropWhile (· != '_') = '_' :: second := by
    rw [List.dropWhile_append_of_pos fun c hc => by
      simpa using fun he : c = '_' => hmem (he ▸ hc)]
    simp
  obtain ⟨a, first, rfl⟩ := List.exists_cons_of_ne_nil hfirst
  obtain ⟨b, second, rfl⟩ := List.exists_cons_of_ne_nil hsecond
  simp only [ofPair, htake, hdrop]

/-- A pair is divided at its first underscore, if there is something on either side of it. -/
theorem ofPair_cases (pair : List Char) :
    ofPair pair = .unknown ∨
    ∃ first second, first ≠ [] ∧ '_' ∉ first ∧ second ≠ [] ∧ pair = first ++ '_' :: second ∧
      ofPair pair = .link (String.ofList first) (String.ofList second) := by
  have hdivide : pair.takeWhile (· != '_') ++ pair.dropWhile (· != '_') = pair :=
    List.takeWhile_append_dropWhile
  have hhead := List.head?_dropWhile_not (· != '_') pair
  rw [ofPair]
  split
  · rename_i a first x b second htake hdrop
    rw [htake, hdrop] at hdivide
    rw [hdrop] at hhead
    obtain rfl : x = '_' := by simpa using hhead
    refine .inr ⟨a :: first, b :: second, List.cons_ne_nil _ _, fun hmem => ?_,
      List.cons_ne_nil _ _, hdivide.symm, rfl⟩
    rw [← htake] at hmem
    simpa using List.mem_takeWhile_imp hmem
  · exact .inl rfl

/-! ## Texts -/

@[simp] theorem toList_text_document (id : String) :
    (document id).text.toList = id.toList ++ documentEnding := String.toList_append

/-- The text of a document is never empty, also if the collection has no id to speak of. -/
theorem text_document_ne_empty (id : String) : (Tag.document id).text ≠ "" := by
  intro h
  have hlist := congrArg String.toList h
  simp [Tag.text] at hlist

@[simp] theorem toList_text_documentArray (id : String) :
    (documentArray id).text.toList = id.toList ++ documentArrayEnding := String.toList_append

@[simp] theorem toList_text_link (first second : String) :
    (link first second).text.toList = (first.toList ++ '_' :: second.toList) ++ linkEnding := by
  simp [text, String.toList_append, linkEnding]

@[simp] theorem toList_text_array (element : Tag) :
    (array element).text.toList = element.text.toList ++ arrayEnding := String.toList_append

section Depth

variable (depth : Nat)

/-- A document is read back, unless its collection has no id. There is no condition on underscores:
only the ending is looked at. -/
theorem ofCharsWithin_text_document (id : String) :
    ofCharsWithin (depth + 1) (document id).text.toList =
      if id = "" then .unknown else .document id := by
  rw [toList_text_document, ofCharsWithin_document, String.ofList_toList]
  simp only [String.toList_eq_nil_iff]

theorem ofCharsWithin_text_documentArray (id : String) :
    ofCharsWithin (depth + 1) (documentArray id).text.toList =
      if id = "" then .unknown else .documentArray id := by
  rw [toList_text_documentArray, ofCharsWithin_documentArray, String.ofList_toList]
  simp only [String.toList_eq_nil_iff]

/-- A link is read back if both ids are there and the first has no underscore: the pair is taken
apart at the first one. -/
theorem ofCharsWithin_text_link {first second : String} (hfirst : first ≠ "")
    (hmem : '_' ∉ first.toList) (hsecond : second ≠ "") :
    ofCharsWithin (depth + 1) (link first second).text.toList = .link first second := by
  rw [toList_text_link, ofCharsWithin_link,
    ofPair_append (by simpa using hfirst) hmem (by simpa using hsecond),
    String.ofList_toList, String.ofList_toList]

theorem ofCharsWithin_text_unknown : ofCharsWithin (depth + 1) unknown.text.toList = .unknown := rfl

end Depth

/-- The text of a document reads as that document, unless it names no collection. -/
theorem ofText_text_document (id : String) :
    ofText (document id).text = if id = "" then .unknown else .document id :=
  ofCharsWithin_text_document ..

/-- The text of several documents reads as them, unless it names no collection. -/
theorem ofText_text_documentArray (id : String) :
    ofText (documentArray id).text = if id = "" then .unknown else .documentArray id :=
  ofCharsWithin_text_documentArray ..

/-- The text of a link reads as that link if its first collection is named without underscores. -/
theorem ofText_text_link {first second : String} (hfirst : first ≠ "")
    (hmem : '_' ∉ first.toList) (hsecond : second ≠ "") :
    ofText (link first second).text = .link first second :=
  ofCharsWithin_text_link _ hfirst hmem hsecond

/-- The text of what is not known reads as not known. -/
theorem ofText_text_unknown : ofText unknown.text = .unknown := ofCharsWithin_text_unknown _

/-- A block type is that of a link if it reads as one. -/
theorem isLinkType_iff {blockType : String} :
    isLinkType blockType = true ↔ ∃ first second, ofText blockType = .link first second := by
  rw [isLinkType]
  cases ofText blockType <;> simp

/-! ## Parts -/

theorem isDocumentArray_iff {tag : Tag} :
    tag.isDocumentArray = true ↔ ∃ collection, tag = .documentArray collection := by
  cases tag <;> simp [isDocumentArray]

end TypedBlocks.Tag
