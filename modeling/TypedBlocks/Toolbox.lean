import TypedBlocks.Catalog
import TypedBlocks.Propagator
import TypedBlocks.Toolbox.Item

/-!
# The two toolbox categories

The contents of the categories that a session offers. Listing a category makes the definitions of
what is listed, so that every block in it can be dragged out; what cannot be made is passed over.
-/

namespace TypedBlocks

namespace Toolbox

/-- Name of the category of document variables. -/
def documentVariablesName : String := "DOCUMENT_VARIABLES"

/-- Name of the category of links. -/
def linksName : String := "LINKS"

/-- The gap in front of the attribute getter. -/
def gap : UInt32 := 48

/-- The contents of a category, with the catalog that holds their definitions, and what was passed
over in listing them. -/
structure Listing where
  items : List Item
  catalog : Catalog
  notices : List Notice

/-- A category: lists its contents when it is opened, from the catalog and the canvas as they are
then. -/
abbrev Category := Catalog → Canvas → Listing

/-- A category whose contents are fixed. -/
def fixedCategory (items : List Item) : Category := fun catalog _ =>
  { items, catalog, notices := [] }

end Toolbox

namespace Propagator

open Toolbox

/-- The getter of a collection, from a catalog that may be poisoned. -/
def ensureGetter (p : Propagator) (catalog : Catalog) (id : String) : Except Fault Supplied := do
  (← catalog.shared).getter p.domain id

/-- The link of a link type, from a catalog that may be poisoned. -/
def ensureLink (p : Propagator) (catalog : Catalog) (l : LinkType) : Except Fault Supplied := do
  (← catalog.shared).link p.domain l

/-- Lists a variable if it holds a document, as the getter of its collection, preset to it. One
whose getter cannot be made is passed over, which is noted. -/
def addVariable (p : Propagator) (listing : Listing) (v : Variable) : Listing :=
  match Tag.ofText v.type with
  | .document collection =>
    match p.ensureGetter listing.catalog collection with
    | .ok s =>
      { items := listing.items ++ [.block s.definition.blockType (some v)]
        catalog := s.catalog
        notices := listing.notices ++ s.notices }
    | .error fault =>
      { listing with notices := listing.notices ++ [.skippedVariable v.name fault] }
  | _ => listing

/-- The document variables: a getter for every variable that holds a document, in the order of the
variables, and behind a gap the attribute getter. -/
def variableListing (p : Propagator) (catalog : Catalog) (vars : List Variable) : Listing :=
  let listing := vars.foldl p.addVariable { items := [], catalog, notices := [] }
  { listing with
    items := listing.items ++ [.separator gap, .block Definition.getAttributeType none] }

/-- Lists a link type unless its block is listed already. One whose block cannot be made is passed
over, which is noted. -/
def addLink (p : Propagator) (listing : Listing) (l : LinkType) : Listing :=
  match p.ensureLink listing.catalog l with
  | .ok s =>
    let item : Item := .block s.definition.blockType none
    { items := if item ∈ listing.items then listing.items else listing.items ++ [item]
      catalog := s.catalog
      notices := listing.notices ++ s.notices }
  | .error fault => { listing with notices := listing.notices ++ [.skippedLink l.name fault] }

/-- The links: one block for every pair of linked collections, in the order of the link types. -/
def linkListing (p : Propagator) (catalog : Catalog) : Listing :=
  p.domain.linkTypes.foldl p.addLink { items := [], catalog, notices := [] }

end Propagator

end TypedBlocks
