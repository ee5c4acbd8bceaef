import TypedBlocks.Json.Basic

/-!
# Tokens of JSON texts

`Token.ofChars?` cuts a text into tokens and `Token.chars` writes one. Cutting is a machine with
one state for each place a character can fall in: between tokens, in a word (a literal name or a
number), in a string, behind a backslash, in the four digits of an escape. It looks at each
character once and never back.

A word extends as far as it can and is judged as a whole: `null`, `true`, `false`, or a numeral
under the strict rule.
-/

namespace TypedBlocks.Json

/-- The smallest meaningful parts of a JSON text. -/
inductive Token where
  | openArray
  | closeArray
  | openObject
  | closeObject
  | comma
  | colon
  | null
  | bool (b : Bool)
  | number (n : Numeral)
  | string (glyphs : List Glyph)
  deriving DecidableEq

namespace Token

/-! ## Cutting -/

/-- The four characters that may stand between tokens. -/
def isBlank (c : Char) : Bool := c = ' ' || c = '\t' || c = '\n' || c = '\r'

/-- The token of a single character. -/
def punctuation? (c : Char) : Option Token :=
  if c = '[' then some .openArray
  else if c = ']' then some .closeArray
  else if c = '{' then some .openObject
  else if c = '}' then some .closeObject
  else if c = ',' then some .comma
  else if c = ':' then some .colon
  else none

/-- The token of a word. -/
def ofWord? (word : List Char) : Option Token :=
  if word = "null".toList then some .null
  else if word = "true".toList then some (.bool true)
  else if word = "false".toList then some (.bool false)
  else
    match Numeral.ofChars? word with
    | some n => if n.isStrict then some (.number n) else none
    | none => none

/-- The unit that a backslash and one character write. -/
def escape? (c : Char) : Option Glyph :=
  if c = '"' then some (.char '"')
  else if c = '\\' then some (.char '\\')
  else if c = '/' then some (.char '/')
  else if c = 'b' then some (.char '\x08')
  else if c = 'f' then some (.char '\x0c')
  else if c = 'n' then some (.char '\n')
  else if c = 'r' then some (.char '\r')
  else if c = 't' then some (.char '\t')
  else none

/-- Where the next character falls. What was seen of a word or a string is kept last unit first. -/
inductive Place where
  /-- between tokens -/
  | between
  /-- in a word -/
  | word (seen : List Char)
  /-- in a string -/
  | quoted (seen : List Glyph)
  /-- behind a backslash in a string -/
  | escaped (seen : List Glyph)
  /-- in the digits of an escape: how many are to come, and the number so far -/
  | code (missing value : Nat) (seen : List Glyph)

/-- Cuts the rest of a text, the next character falling in `place`. -/
def cut? : Place → List Char → Option (List Token)
  | .between, [] => some []
  | .word seen, [] => (ofWord? seen.reverse).map ([·])
  | _, [] => none
  | .between, c :: rest =>
    if isBlank c then cut? .between rest
    else if c = '"' then cut? (.quoted []) rest
    else
      match punctuation? c with
      | some token => (cut? .between rest).map (token :: ·)
      | none => cut? (.word [c]) rest
  | .word seen, c :: rest =>
    if isBlank c then do
      let word ← ofWord? seen.reverse
      (cut? .between rest).map (word :: ·)
    else if c = '"' then none
    else
      match punctuation? c with
      | some token => do
        let word ← ofWord? seen.reverse
        (cut? .between rest).map ([word, token] ++ ·)
      | none => cut? (.word (c :: seen)) rest
  | .quoted seen, c :: rest =>
    if c = '"' then (cut? .between rest).map (.string seen.reverse :: ·)
    else if c = '\\' then cut? (.escaped seen) rest
    else if c.toNat < 0x20 then none
    else cut? (.quoted (.char c :: seen)) rest
  | .escaped seen, c :: rest =>
    if c = 'u' then cut? (.code 4 0 seen) rest
    else do
      let glyph ← escape? c
      cut? (.quoted (glyph :: seen)) rest
  | .code missing value seen, c :: rest => do
    let digit ← Text.hexValue? c
    if missing ≤ 1 then cut? (.quoted (Glyph.ofCode (16 * value + digit) :: seen)) rest
    else cut? (.code (missing - 1) (16 * value + digit) seen) rest

/-- The tokens of a text. -/
def ofChars? (chars : List Char) : Option (List Token) := cut? .between chars

/-! ## Writing -/

/-- A unit as it is written in a string: quotes, backslashes and control characters as escapes,
the shortest that there is, everything else as itself. -/
def glyphChars : Glyph → List Char
  | .char c =>
    if c = '"' then ['\\', '"']
    else if c = '\\' then ['\\', '\\']
    else if c = '\x08' then ['\\', 'b']
    else if c = '\x0c' then ['\\', 'f']
    else if c = '\n' then ['\\', 'n']
    else if c = '\r' then ['\\', 'r']
    else if c = '\t' then ['\\', 't']
    else if c.toNat < 0x20 then ['\\', 'u'] ++ Text.hexFixed 4 c.toNat
    else [c]
  | .half code => ['\\', 'u'] ++ Text.hexFixed 4 code

/-- The text of a token. -/
def chars : Token → List Char
  | .openArray => ['[']
  | .closeArray => [']']
  | .openObject => ['{']
  | .closeObject => ['}']
  | .comma => [',']
  | .colon => [':']
  | .null => "null".toList
  | .bool true => "true".toList
  | .bool false => "false".toList
  | .number n => n.chars
  | .string glyphs => '"' :: glyphs.flatMap glyphChars ++ ['"']

end Token

end TypedBlocks.Json
