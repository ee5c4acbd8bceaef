import TypedBlocks.Tag

/-!
# Keys of block definitions

A block definition is found by what it is about, not by its host name: one for the loop, one for
the attribute getter, one per collection, one per unordered pair of linked collections.
`blockType` is the name a host knows a key by and `ofBlockType?` reads it back; a link reads back
under either order of its collections, because `ofPair` sorts them.
-/

namespace TypedBlocks.Definition

/-- What a block definition is about. There is one definition for each key, however many types of
links join the same two collections. -/
inductive Key where
  /-- the loop over documents -/
  | foreach
  /-- the attribute getter -/
  | getAttribute
  /-- the getter of a document of one collection -/
  | collection (id : String)
  /-- the link of two collections, the smaller id first -/
  | link (first second : String)
  deriving DecidableEq

/-- Block type of the loop. -/
def foreachType : String := "foreach_document_array"

/-- Block type of the attribute getter. -/
def getAttributeType : String := "get_attribute"

/-- What the block type of every document getter begins with. -/
def getterBeginning : String := "variables_get_"

/-- Block type of the getter of one collection: the text of its documents, behind the beginning of
all getters. -/
def getterType (collection : String) : String :=
  getterBeginning ++ (Tag.document collection).text

namespace Key

/-- The key of a link, whichever order its collections are given in. Ids are ordered by code
point. -/
def ofPair (a b : String) : Key :=
  if a ≤ b then .link a b else .link b a

/-- The name a host knows the definition by: the block type of its blocks. -/
def blockType : Key → String
  | .foreach => foreachType
  | .getAttribute => getAttributeType
  | .collection id => getterType id
  | .link first second => (Tag.link first second).text

/-- The key behind a host name. The built-in names are tried first. A name that begins like a getter
is a getter or nothing, and any other is a link or nothing. -/
def ofBlockType? (blockType : String) : Option Key :=
  if blockType = foreachType then some .foreach
  else if blockType = getAttributeType then some .getAttribute
  else
    match getterBeginning.toList.isPrefixOf? blockType.toList with
    | some rest =>
      match Tag.ofText (String.ofList rest) with
      | .document id => some (.collection id)
      | _ => none
    | none =>
      match Tag.ofText blockType with
      | .link a b => some (ofPair a b)
      | _ => none

end Key

end TypedBlocks.Definition
