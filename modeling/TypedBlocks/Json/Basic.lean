import TypedBlocks.Number.Numeral
import TypedBlocks.Text.Hex

/-!
# JSON values

`Json` is a JSON text with its meaning still open: numbers are numerals, the members of an object
stand in their order and may repeat, and a string is a list of glyphs, in which an escape for half
of a surrogate pair may stand alone. Whether such a string or such a number is good for anything
is decided by whoever reads it (`text?` here, numbers in `TypedBlocks.Json.Read`), because a value
that nobody reads may hold any of them.
-/

namespace TypedBlocks

/-- One unit of a JSON string: a character, or one half of a pair that an escape writes. -/
inductive Glyph where
  /-- a character -/
  | char (c : Char)
  /-- the escape of one half of a surrogate pair -/
  | half (code : Nat)
  deriving DecidableEq

namespace Glyph

/-- Is this the code of the first half of a pair? -/
def isHigh (code : Nat) : Bool := 0xD800 ≤ code ∧ code < 0xDC00

/-- Is this the code of the second half of a pair? -/
def isLow (code : Nat) : Bool := 0xDC00 ≤ code ∧ code < 0xE000

/-- The unit that an escape with the given code writes. -/
def ofCode (code : Nat) : Glyph :=
  if isHigh code || isLow code then .half code else .char (Char.ofNat code)

/-- The character written by two halves. -/
def joinHalves (high low : Nat) : Char :=
  Char.ofNat (0x10000 + (high - 0xD800) * 0x400 + (low - 0xDC00))

/-- The characters of a string, each pair of halves joined; `none` if a half is left over. -/
def join? : List Glyph → Option (List Char)
  | [] => some []
  | .char c :: rest => (join? rest).map (c :: ·)
  | .half high :: .half low :: rest =>
    if isHigh high && isLow low then (join? rest).map (joinHalves high low :: ·) else none
  | .half _ :: _ => none

end Glyph

/-- A JSON value. -/
inductive Json where
  | null
  | bool (b : Bool)
  | number (n : Numeral)
  | string (glyphs : List Glyph)
  | array (items : List Json)
  /-- members in the order they are written, keys possibly repeated -/
  | object (members : List (List Glyph × Json))

namespace Json

/-- The units of a text. -/
def glyphs (s : String) : List Glyph := s.toList.map .char

/-- A text as a JSON string. -/
def text (s : String) : Json := .string (glyphs s)

/-- A natural number as a JSON number. -/
def nat (n : Nat) : Json := .number (.ofNat n)

/-- An object from its members. -/
def record (members : List (String × Json)) : Json :=
  .object (members.map fun m => (glyphs m.1, m.2))

/-- An array of texts. -/
def texts (items : List String) : Json := .array (items.map text)

/-- The value of an optional part, `null` without one. -/
def ofOption (toJson : α → Json) : Option α → Json
  | some a => toJson a
  | none => .null

/-- The member of an optional part, left out without one. -/
def optionalMember (key : String) (toJson : α → Json) : Option α → List (String × Json)
  | some a => [(key, toJson a)]
  | none => []

end Json

end TypedBlocks
