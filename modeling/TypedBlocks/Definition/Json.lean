import TypedBlocks.Definition
import TypedBlocks.Json.Text

/-!
# Definitions as JSON

Hosts are given definitions as JSON; nothing reads them back. Tags are written by their texts.
-/

namespace TypedBlocks

/-- A dropdown entry as JSON. -/
def Choice.toJson (c : Choice) : Json :=
  .record [("label", .text c.label), ("value", .text c.value)]

namespace Definition

/-- The tags that something is restricted to, `null` without a restriction. -/
def tagsJson (tags : Option (List Tag)) : Json :=
  .ofOption (fun tags => .texts (tags.map Tag.text)) tags

/-- A part of a message as JSON, labelled by its kind. No definition names the variable of its
picker. -/
def Part.toJson : Part → Json
  | .icon name colour =>
    .record [("type", .text "field_icon"), ("icon", .text name), ("icon_color", .text colour)]
  | .label text style =>
    .record ([("type", .text "field_label"), ("text", .text text)] ++
      Json.optionalMember "class" Json.text style)
  | .picker name types default =>
    .record
      [("type", .text "field_variable"), ("name", .text name), ("variable", .null),
        ("variable_types", tagsJson types),
        ("default_type", .ofOption (fun t => .text t.text) default)]
  | .dropdown name choices value =>
    .record ([("type", .text "field_dropdown"), ("name", .text name),
      ("options", .array (choices.map Choice.toJson))] ++
      Json.optionalMember "value" Json.text value)
  | .input name check =>
    .record [("type", .text "input_value"), ("name", .text name), ("check", tagsJson check)]
  | .statements name => .record [("type", .text "input_statement"), ("name", .text name)]

/-- A message as JSON. -/
def Message.toJson (m : Message) : Json :=
  .record [("text", .text m.text), ("args", .array (m.parts.map Part.toJson))]

/-- An output as JSON. -/
def Output.toJson : Output → Json
  | .statement => .text "statement"
  | .untyped => .text "untyped"
  | .typed tag => .record [("typed", .text tag.text)]

/-- A definition as JSON. -/
def toJson (d : Definition) : Json :=
  .record
    [("block_type", .text d.blockType), ("messages", .array (d.messages.map Message.toJson)),
      ("output", d.output.toJson), ("colour", .text d.colour)]

end Definition

end TypedBlocks
