import TypedBlocks.Json.Text
import TypedBlocks.Number.Scaled

/-!
# Reading records out of JSON

A record is an object whose keys are its fields, or an array of its fields in order. `fields?`
reads either form and says for each field what stands there. In an object a field may be missing
unless it is required, no field may be given twice, and keys that are no field are passed over
with their values. In an array only fields with a default may be missing, at the end, and nothing
may follow the last field.

A *labelled* record names one of several forms by a label. It is taken in as a whole before it is
read, so everything in it has to be sound, what is passed over included: strings without stray
halves of surrogate pairs, numbers in the range of doubles, and containers nested no deeper than a
limit.
-/

namespace TypedBlocks.Json

/-! ## Plain values -/

/-- The text of a string without stray halves. -/
def text? : Json → Option String
  | .string glyphs => (Glyph.join? glyphs).map String.ofList
  | _ => none

/-- The items of an array, each read by `read`. -/
def list? (read : Json → Option α) : Json → Option (List α)
  | .array items => items.mapM read
  | _ => none

/-- A number as a double. -/
def float? : Json → Option Float
  | .number n => n.scaled?
  | _ => none

/-- A whole number below `bound`, written without sign, point and exponent. -/
def natBelow? (bound : Nat) : Json → Option Nat
  | .number n => n.nat?.filter (· < bound)
  | _ => none

/-- A pair of values, as an array of two. -/
def pair? (read : Json → Option α) : Json → Option (α × α)
  | .array [a, b] => do return (← read a, ← read b)
  | _ => none

/-! ## Records -/

/-- May a field be missing? -/
inductive Presence where
  /-- it has to be there -/
  | required
  /-- an object may leave it out, an array may not -/
  | optional
  /-- it has a default -/
  | defaulted
  deriving DecidableEq

/-- A field of a record: its key, and whether it may be missing. -/
structure FieldSpec where
  key : String
  presence : Presence

/-- What stands in the fields of a record, by key. -/
abbrev Fields := String → Option Json

/-- The members of an object, their keys read as texts. -/
def members? : Json → Option (List (String × Json))
  | .object members =>
    members.mapM fun m => (Glyph.join? m.1).map fun key => (String.ofList key, m.2)
  | _ => none

/-- The fields of a record in object form. -/
def objectFields? (specs : List FieldSpec) (members : List (String × Json)) : Option Fields :=
  let times (key : String) := members.countP (·.1 = key)
  if specs.all fun s => times s.key ≤ 1 && (s.presence != .required || times s.key = 1) then
    some fun key => members.lookup key
  else none

/-- The fields of a record in array form. -/
def arrayFields? (specs : List FieldSpec) (items : List Json) : Option Fields :=
  if items.length ≤ specs.length ∧ ((specs.drop items.length).all (·.presence = .defaulted)) then
    some fun key => ((specs.map (·.key)).zip items).lookup key
  else none

/-- The fields of a record in either form. -/
def fields? (specs : List FieldSpec) : Json → Option Fields
  | .array items => arrayFields? specs items
  | json => (members? json).bind (objectFields? specs)

/-- Reads a field that has to be there. -/
def requiredField (read : Json → Option α) (field : Option Json) : Option α :=
  field.bind read

/-- Reads a field that may be missing or `null`. -/
def optionalField (read : Json → Option α) : Option Json → Option (Option α)
  | none => some none
  | some .null => some none
  | some json => (read json).map some

/-- Reads a field that may be missing, but not `null`. -/
def defaultedField (default : α) (read : Json → Option α) : Option Json → Option α
  | none => some default
  | some json => read json

/-! ## Labelled records -/

mutual

/-- How deep containers are nested. -/
def depth : Json → Nat
  | .array items => depthItems items + 1
  | .object members => depthMembers members + 1
  | _ => 0

/-- The depth of the deepest item. -/
def depthItems : List Json → Nat
  | [] => 0
  | item :: rest => max item.depth (depthItems rest)

/-- The depth of the deepest member. -/
def depthMembers : List (List Glyph × Json) → Nat
  | [] => 0
  | (_, value) :: rest => max value.depth (depthMembers rest)

end

mutual

/-- Are all strings free of stray halves and all numbers within the range of doubles? -/
def isSound : Json → Bool
  | .number n => n.scaled?.isSome
  | .string glyphs => (Glyph.join? glyphs).isSome
  | .array items => soundItems items
  | .object members => soundMembers members
  | _ => true

/-- Are all items sound? -/
def soundItems : List Json → Bool
  | [] => true
  | item :: rest => item.isSound && soundItems rest

/-- Are all keys and values sound? -/
def soundMembers : List (List Glyph × Json) → Bool
  | [] => true
  | (key, value) :: rest => (Glyph.join? key).isSome && value.isSound && soundMembers rest

end

/-- How many containers a text with labelled records may nest. -/
def nestingLimit : Nat := 127

/-- Splits a labelled record into its label and the rest, a record that is itself in object or array
form. The label is a member of an object, given once, or the first item of an array. `around` is the
number of containers around the record. -/
def labelled? (label : String) (around : Nat) (json : Json) : Option (String × Json) :=
  if json.isSound && json.depth + around ≤ nestingLimit then
    match json with
    | .array (first :: rest) => first.text?.map fun name => (name, .array rest)
    | .object members =>
      match members.partition (·.1 = glyphs label) with
      | ([(_, value)], rest) => value.text?.map fun name => (name, .object rest)
      | _ => none
    | _ => none
  else none

end TypedBlocks.Json
