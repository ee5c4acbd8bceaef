import TypedBlocks.Colour
import TypedBlocks.Definition.Key
import TypedBlocks.Domain

/-!
# Block definitions

A definition is the pattern that blocks of one type are made from: messages with the parts that
stand in them, what the block puts out, and its colour. Two definitions are built in;
`documentGetter` and `link` make the others from a domain.
-/

namespace TypedBlocks

namespace Definition

/-- Name of the variable picker of loops and document getters. -/
def variableField : String := "VAR"

/-- Name of the dropdown of the attribute getter. -/
def attributeField : String := "ATTR"

/-- Name of the list input of the loop. -/
def listInput : String := "LIST"

/-- Name of the body of the loop. -/
def bodyInput : String := "DO"

/-- Name of the document input of the attribute getter. -/
def documentInput : String := "DOCUMENT"

/-- Name of the document input of links. -/
def linkInput : String := "NAME"

/-- The only entry of an attribute dropdown while no document is known. -/
def placeholder : List Choice := [{ label := "?", value := "?" }]

/-- The value of an attribute dropdown while no document is known. -/
def notApplicable : String := "N/A"

/-- A part of a message: something to be shown, a field, or an input. -/
inductive Part where
  | icon (icon colour : String)
  | label (text : String) (style : Option String)
  /-- a picker of variables: of the types it offers, all of them if there are none given, and with
  the type of a variable made for it -/
  | picker (name : String) (types : Option (List Tag)) (default : Option Tag)
  | dropdown (name : String) (choices : List Choice) (value : Option String)
  /-- an input for blocks whose output passes the check; any output does if there is none -/
  | input (name : String) (check : Option (List Tag))
  /-- a place for statements -/
  | statements (name : String)
  deriving DecidableEq

/-- A line of a block; `%1`, `%2` and so on stand for its parts. -/
structure Message where
  text : String
  parts : List Part
  deriving DecidableEq

/-- What a block puts out: nothing, anything, or something of one tag. -/
inductive Output where
  /-- nothing: it is a statement -/
  | statement
  /-- something of no particular type -/
  | untyped
  | typed (tag : Tag)
  deriving DecidableEq

end Definition

open Definition in

/-- The pattern of the blocks of one type: what blocks of that type are made from. -/
structure Definition where
  blockType : String
  messages : List Message
  output : Output
  colour : String
  deriving DecidableEq

namespace Definition

/-- All parts of a definition, in order. -/
def parts (d : Definition) : List Part := d.messages.flatMap (·.parts)

/-- The loop over the documents of a list. Its variable has no type of its own, and its list takes
anything: the propagator sees to both. -/
def foreachLoop : Definition where
  blockType := foreachType
  messages :=
    [{ text := "for each document %1 in %2"
       parts := [.picker variableField none none, .input listInput none] },
     { text := "do this %1", parts := [.statements bodyInput] }]
  output := .statement
  colour := "#e74c3c"

/-- The getter of an attribute of a document. Its dropdown starts with the placeholder, and its
input takes anything. -/
def attributeGetter : Definition where
  blockType := getAttributeType
  messages :=
    [{ text := "get %1 of %2"
       parts :=
          [.dropdown attributeField placeholder (some notApplicable), .input documentInput none] }]
  output := .untyped
  colour := "#18bc9c"

/-- The getter of a document variable of a collection, in the given colour. Its picker offers
variables that hold such documents, and a variable that is made for it is one. -/
def documentGetter (c : Collection) (colour : String) : Definition where
  blockType := getterType c.id
  messages :=
    [{ text := "%1 %2 %3"
       parts :=
        [.icon c.icon c.colour, .label c.name none,
          .picker variableField (some [.document c.id]) (some (.document c.id))] }]
  output := .typed (.document c.id)
  colour := colour

/-- The link of a link type, between two collections. Which documents it yields is known only once
one is plugged in. -/
def link (blockType : String) (l : LinkType) (first second : Collection) : Definition where
  blockType := blockType
  messages :=
    [{ text := "%1%2 %3 %4"
       parts :=
        [.icon first.icon first.colour, .icon second.icon second.colour,
          .label l.name (some "text-primary"),
          .input linkInput (some [.document first.id, .document second.id])] }]
  output := .typed .unknown
  colour := "#F7F7F7"

end Definition

end TypedBlocks
