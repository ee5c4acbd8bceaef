/-!
# Tags: what an output stands for, and the text it is written as

A tag says what a block's output carries: one document of a collection, several of them, the pair
of collections that a link block joins, a list of some other tag, or nothing known. Hosts see a
tag only as a flat text, built from collection ids and one of four suffixes:

* `text` writes a tag: `c1_document`, `c1_document_array`, `c1_c2_link`, `…_array`, `unknown`;
* `ofText` reads one. The suffixes are tried from the longest meaning down, and a suffix that
  matches decides: a text that ends in `_document` but names no collection is `unknown`, it is not
  tried as anything else.

`unknown` is also what every text outside this format reads as, so reading never fails.
-/

namespace TypedBlocks

/-- What the output of a block carries. Hosts know tags by their texts. -/
inductive Tag where
  /-- one document of a collection -/
  | document (collection : String)
  /-- several documents of a collection -/
  | documentArray (collection : String)
  /-- the two collections that a link block joins -/
  | link (first second : String)
  /-- a list whose elements carry `element` -/
  | array (element : Tag)
  /-- nothing is known -/
  | unknown
  deriving DecidableEq

namespace Tag

instance : Inhabited Tag := ⟨.unknown⟩

/-! ## Writing -/

/-- The text of a tag, by which checks are compared. Two tags can have one text, as a list of
documents and an array of one do. -/
def text : Tag → String
  | .document collection => collection ++ "_document"
  | .documentArray collection => collection ++ "_document_array"
  | .link first second => first ++ "_" ++ second ++ "_link"
  | .array element => element.text ++ "_array"
  | .unknown => "unknown"

/-! ## Reading -/

/-- The ending of the text of a document. -/
def documentEnding : List Char := "_document".toList

/-- The ending of the text of several documents. -/
def documentArrayEnding : List Char := "_document_array".toList

/-- The ending of the text of a link. -/
def linkEnding : List Char := "_link".toList

/-- The ending of the text of a list. -/
def arrayEnding : List Char := "_array".toList

/-- Reads the pair of a link: the first underscore divides it, and neither half may be empty. The
second half may hold further underscores. -/
def ofPair (pair : List Char) : Tag :=
  match pair.takeWhile (· != '_'), pair.dropWhile (· != '_') with
  | a :: first, _ :: b :: second => .link (String.ofList (a :: first)) (String.ofList (b :: second))
  | _, _ => .unknown

/-- Forms a list over a tag that was read; nothing is known of a list of unknowns. A list of
documents is never formed here, because its ending was taken off before. -/
def listOf : Tag → Tag
  | .unknown => .unknown
  | element => .array element

/-- Reads a text in which at most `depth` list endings are taken off. The endings are tried in a
fixed order, and the first that matches decides. -/
def ofCharsWithin : Nat → List Char → Tag
  | 0, _ => .unknown
  | depth + 1, chars =>
    match documentArrayEnding.isSuffixOf? chars with
    | some id => if id = [] then .unknown else .documentArray (String.ofList id)
    | none =>
      match documentEnding.isSuffixOf? chars with
      | some id => if id = [] then .unknown else .document (String.ofList id)
      | none =>
        match linkEnding.isSuffixOf? chars with
        | some pair => ofPair pair
        | none =>
          match arrayEnding.isSuffixOf? chars with
          | some element => listOf (ofCharsWithin depth element)
          | none => .unknown

/-- Reads a text. Every list ending takes characters off, so its length bounds their number. -/
def ofText (text : String) : Tag :=
  ofCharsWithin (text.toList.length + 1) text.toList

/-! ## Parts -/

/-- Is this the tag of one document? -/
def isDocument : Tag → Bool
  | .document _ => true
  | _ => false

/-- Is this the tag of several documents? -/
def isDocumentArray : Tag → Bool
  | .documentArray _ => true
  | _ => false

/-- Is nothing known? -/
def isUnknown : Tag → Bool
  | .unknown => true
  | _ => false

/-- Does a block type name a link block? Its type is the text of a link tag, and is read as one. -/
def isLinkType (blockType : String) : Bool :=
  match ofText blockType with
  | .link _ _ => true
  | _ => false

/-- The list of a tag; a list of documents has a form of its own. -/
def plural : Tag → Tag
  | .document collection => .documentArray collection
  | tag => .array tag

/-- The collection whose documents a tag is about, whether it is of one or of several. -/
def collection? : Tag → Option String
  | .document collection => some collection
  | .documentArray collection => some collection
  | _ => none

/-- What the elements of a list carry; nothing for what is no list. -/
def element? : Tag → Option Tag
  | .documentArray collection => some (.document collection)
  | .array element => some element
  | _ => none

/-- The other side of a link, seen from `collection`. A link from a collection to itself leads
back to it. -/
def across? : Tag → String → Option String
  | .link first second, collection =>
    if first = collection then some second
    else if second = collection then some first
    else none
  | _, _ => none

/-- The tag of an output with the given check: the first text it offers, `unknown` without one. -/
def ofCheck (check : Option (List String)) : Tag :=
  match check with
  | some (text :: _) => ofText text
  | _ => .unknown

end Tag

end TypedBlocks
