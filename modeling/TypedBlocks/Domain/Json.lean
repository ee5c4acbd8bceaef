import TypedBlocks.Domain
import TypedBlocks.Json.Read

/-!
# Domains as JSON

`Domain.ofJsonText` reads a domain and checks the ids of its collections; `Domain.toJson` writes
every field, defaults included.
-/

namespace TypedBlocks

open Json

/-- An attribute as JSON. -/
def Attribute.toJson (a : Attribute) : Json := .record [("id", .text a.id), ("name", .text a.name)]

/-- Reads an attribute. -/
def Attribute.ofJson? (json : Json) : Option Attribute := do
  let field ← json.fields? [⟨"id", .required⟩, ⟨"name", .required⟩]
  let id ← requiredField text? (field "id")
  let name ← requiredField text? (field "name")
  return { id, name }

/-- A collection as JSON. -/
def Collection.toJson (c : Collection) : Json :=
  .record
    [("id", .text c.id), ("name", .text c.name), ("icon", .text c.icon), ("color", .text c.colour),
      ("defaultAttributeId", .ofOption .text c.defaultAttribute),
      ("attributes", .array (c.attributes.map Attribute.toJson))]

/-- Reads a collection; only its id and its name have to be given. -/
def Collection.ofJson? (json : Json) : Option Collection := do
  let field ← json.fields?
    [⟨"id", .required⟩, ⟨"name", .required⟩, ⟨"icon", .defaulted⟩, ⟨"color", .defaulted⟩,
      ⟨"defaultAttributeId", .defaulted⟩, ⟨"attributes", .defaulted⟩]
  let id ← requiredField text? (field "id")
  let name ← requiredField text? (field "name")
  let icon ← defaultedField "" text? (field "icon")
  let colour ← defaultedField "" text? (field "color")
  let defaultAttribute ← optionalField text? (field "defaultAttributeId")
  let attributes ← defaultedField [] (list? Attribute.ofJson?) (field "attributes")
  return { id, name, icon, colour, defaultAttribute, attributes }

/-- A link type as JSON. -/
def LinkType.toJson (l : LinkType) : Json :=
  .record [("name", .text l.name), ("collectionIds", .texts [l.collections.1, l.collections.2])]

/-- Reads a link type. -/
def LinkType.ofJson? (json : Json) : Option LinkType := do
  let field ← json.fields? [⟨"name", .required⟩, ⟨"collectionIds", .required⟩]
  let name ← requiredField text? (field "name")
  let collections ← requiredField (pair? text?) (field "collectionIds")
  return { name, collections }

/-- A document variable as JSON. -/
def DocumentVariable.toJson (v : DocumentVariable) : Json :=
  .record [("name", .text v.name), ("collectionId", .text v.collection)]

/-- Reads a document variable. -/
def DocumentVariable.ofJson? (json : Json) : Option DocumentVariable := do
  let field ← json.fields? [⟨"name", .required⟩, ⟨"collectionId", .required⟩]
  let name ← requiredField text? (field "name")
  let collection ← requiredField text? (field "collectionId")
  return { name, collection }

namespace Domain

/-- A domain as JSON. -/
def toJson (d : Domain) : Json :=
  .record
    [("collections", .array (d.collections.map Collection.toJson)),
      ("linkTypes", .array (d.linkTypes.map LinkType.toJson)),
      ("variables", .array (d.documentVariables.map DocumentVariable.toJson))]

/-- Reads a domain, its ids unchecked. -/
def ofJson? (json : Json) : Option Domain := do
  let field ← json.fields?
    [⟨"collections", .defaulted⟩, ⟨"linkTypes", .defaulted⟩, ⟨"variables", .defaulted⟩]
  let collections ← defaultedField [] (list? Collection.ofJson?) (field "collections")
  let linkTypes ← defaultedField [] (list? LinkType.ofJson?) (field "linkTypes")
  let documentVariables ← defaultedField [] (list? DocumentVariable.ofJson?) (field "variables")
  return { collections, linkTypes, documentVariables }

/-- The domain that a JSON text writes, its ids checked. -/
def ofJsonText (text : String) : Except Fault Domain :=
  match (parse? text).bind ofJson? with
  | some d => d.checked
  | none => .error .json

end Domain

end TypedBlocks
