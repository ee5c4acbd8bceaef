import TypedBlocks.Definition
import TypedBlocks.Notice
import TypedBlocks.Table

/-!
# The catalog of block definitions

A catalog holds one definition per key. It starts out with the two that are built in; the others
are made from a domain when they are first asked for and never change again, also when a later
domain would make them differently. Several editors may share one catalog.
-/

namespace TypedBlocks

/-- The definitions known so far, by what they are about. None is ever taken out or replaced. -/
structure Catalog where
  definitions : Table Definition.Key Definition
  /-- how far the colours of document getters are shaded -/
  shade : Float
  /-- has a writer failed midway? From then on no editor may use the catalog -/
  poisoned : Bool := false

/-- A definition that was asked for, with the catalog that now holds it, and what there was to note
about making it. -/
structure Supplied where
  definition : Definition
  catalog : Catalog
  notices : List Notice := []

namespace Catalog

/-- The catalog of the built-in definitions: the loop and the attribute getter. -/
def initial (shade : Float) : Catalog where
  definitions :=
    (Table.single .foreach Definition.foreachLoop).put .getAttribute Definition.attributeGetter
  shade := shade

/-- The number of definitions. -/
def size (c : Catalog) : Nat := c.definitions.size

/-- The definition of a block type: the one under the key that the type is read as, if there is
one. -/
def definition? (c : Catalog) (blockType : String) : Option Definition :=
  (Definition.Key.ofBlockType? blockType).bind c.definitions.get?

/-- Adds a definition under its key, and hands it out. -/
def supply (c : Catalog) (key : Definition.Key) (definition : Definition)
    (notices : List Notice) : Supplied where
  definition := definition
  catalog := { c with definitions := c.definitions.put key definition }
  notices := notices

/-- Makes the getter of a collection, in its colour shaded. A colour that cannot be shaded is kept,
and noted. -/
def makeGetter (c : Catalog) (collection : Collection) : Definition × List Notice :=
  match Colour.shade collection.colour c.shade with
  | some colour => (Definition.documentGetter collection colour, [])
  | none =>
    (Definition.documentGetter collection collection.colour,
      [.invalidColour collection.id collection.colour])

/-- The getter of a collection, made from the domain if it is new. Of one that is there the domain
is not asked. It fails if it is new and the domain has no such collection. -/
def getter (c : Catalog) (domain : Domain) (id : String) : Except Fault Supplied :=
  match c.definitions.get? (.collection id) with
  | some definition => .ok { definition, catalog := c }
  | none =>
    match domain.collection? id with
    | .ok collection =>
      let (definition, notices) := c.makeGetter collection
      .ok (c.supply (.collection id) definition notices)
    | .error fault => .error fault

/-- The link of a link type, made from the domain if its pair of collections is new. A new link
needs ids that its block type can be read back from. -/
def link (c : Catalog) (domain : Domain) (l : LinkType) : Except Fault Supplied :=
  let (first, second) := l.collections
  let key := Definition.Key.ofPair first second
  match c.definitions.get? key with
  | some definition => .ok { definition, catalog := c }
  | none =>
    match [first, second].find? fun id => !Collection.isUsableId id with
    | some id => .error (.badCollectionId id)
    | none => do
      let first ← domain.collection? first
      let second ← domain.collection? second
      return c.supply key (Definition.link key.blockType l first second) []

/-- Gives a shared catalog out, unless it is poisoned. -/
def shared (c : Catalog) : Except Fault Catalog :=
  if c.poisoned then .error .catalogPoisoned else .ok c

end Catalog

end TypedBlocks
