import TypedBlocks.Json.Text

/-!
# JSON for readers

`pretty` writes a value over several lines: every item and every member on a line of its own, two
blanks deeper than its container. Empty containers stay on one line.
-/

namespace TypedBlocks.Json

/-- A new line that is indented `indent` steps. -/
def newLine (indent : Nat) : List Char := '\n' :: List.replicate (2 * indent) ' '

mutual

/-- The characters of a value whose lines are indented `indent` steps. -/
def prettyChars (indent : Nat) : Json → List Char
  | .array (item :: rest) =>
    ['['] ++ newLine (indent + 1) ++ item.prettyChars (indent + 1) ++ prettyItems indent rest
  | .object ((key, value) :: rest) =>
    ['\x7b'] ++ newLine (indent + 1) ++ (Token.string key).chars ++ [':', ' '] ++
      value.prettyChars (indent + 1) ++ prettyMembers indent rest
  | .array [] => ['[', ']']
  | .object [] => ['\x7b', '\x7d']
  | .null => Token.null.chars
  | .bool b => (Token.bool b).chars
  | .number n => n.chars
  | .string glyphs => (Token.string glyphs).chars

/-- The items after the first, and the end of the array. -/
def prettyItems (indent : Nat) : List Json → List Char
  | [] => newLine indent ++ [']']
  | item :: rest =>
    [','] ++ newLine (indent + 1) ++ item.prettyChars (indent + 1) ++ prettyItems indent rest

/-- The members after the first, and the end of the object. -/
def prettyMembers (indent : Nat) : List (List Glyph × Json) → List Char
  | [] => newLine indent ++ ['\x7d']
  | (key, value) :: rest =>
    [','] ++ newLine (indent + 1) ++ (Token.string key).chars ++ [':', ' '] ++
      value.prettyChars (indent + 1) ++ prettyMembers indent rest

end

/-- The text of a value over several lines. -/
def pretty (json : Json) : String := String.ofList (json.prettyChars 0)

end TypedBlocks.Json
