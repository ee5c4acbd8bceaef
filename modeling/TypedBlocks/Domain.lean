import TypedBlocks.Fault

/-!
# The domain

What blocks are about: collections of documents with their attributes, types of links between two
collections, and the document variables that every workspace starts out with. A domain is supplied
once and never changes.

The name of a link block joins two collection ids by an underscore, so an id with an underscore
could not be read back out of it; `isUsableId` rules such ids out, and the empty one.
-/

namespace TypedBlocks

/-- A property that the documents of a collection have. -/
structure Attribute where
  id : String
  name : String
  deriving DecidableEq

/-- A kind of document. Only its id and its name have to be given. -/
structure Collection where
  id : String
  name : String
  /-- the icon shown on blocks, a class name -/
  icon : String := ""
  /-- the colour of blocks, `#rrggbb` -/
  colour : String := ""
  /-- the attribute offered first -/
  defaultAttribute : Option String := none
  attributes : List Attribute := []
  deriving DecidableEq

/-- A kind of link between the documents of two collections, or of one with itself. -/
structure LinkType where
  name : String
  collections : String × String
  deriving DecidableEq

/-- A variable that every workspace starts out with; it holds a document of a collection. -/
structure DocumentVariable where
  name : String
  collection : String
  deriving DecidableEq

/-- All that blocks can be about: what a host hands in when it attaches a session. -/
structure Domain where
  collections : List Collection := []
  linkTypes : List LinkType := []
  documentVariables : List DocumentVariable := []
  deriving DecidableEq

/-- One entry of a dropdown field. -/
structure Choice where
  label : String
  value : String
  deriving DecidableEq

namespace Collection

/-- Can a collection have this id? It must not be empty, and must have no underscore. -/
def isUsableId (id : String) : Bool := id != "" && !id.toList.contains '_'

/-- The attributes of a collection as dropdown entries, in their order: shown by name, chosen by
id. -/
def choices (c : Collection) : List Choice :=
  c.attributes.map fun a => { label := a.name, value := a.id }

/-- The name of the attribute to start with: the first that has the default's id, else the first
of all, else nothing. -/
def defaultChoice (c : Collection) : String :=
  let preferred := c.defaultAttribute.bind fun id => c.attributes.find? (·.id = id)
  match preferred.or c.attributes.head? with
  | some a => a.name
  | none => ""

end Collection

namespace Domain

/-- The first collection with an id. It fails, naming the id, if there is none. -/
def collection? (d : Domain) (id : String) : Except Fault Collection :=
  match d.collections.find? (·.id = id) with
  | some c => .ok c
  | none => .error (.noCollection id)

/-- Refuses a domain in which a collection has an id that none can have, naming the first of them.
-/
def checked (d : Domain) : Except Fault Domain :=
  match d.collections.find? fun c => !Collection.isUsableId c.id with
  | some c => .error (.badCollectionId c.id)
  | none => .ok d

end Domain

end TypedBlocks
