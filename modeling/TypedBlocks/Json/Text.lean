import TypedBlocks.Json.Token

/-!
# JSON texts

`tokens` spells a value out, `render` writes it without any blank, and `parse?` reads a text.
Reading is a machine over tokens that keeps the containers still open on a stack, so a text of any
depth is read, and each token is looked at once.
-/

namespace TypedBlocks.Json

/-! ## Writing -/

mutual

/-- The tokens of a value. -/
def tokens : Json → List Token
  | .null => [.null]
  | .bool b => [.bool b]
  | .number n => [.number n]
  | .string glyphs => [.string glyphs]
  | .array [] => [.openArray, .closeArray]
  | .array (item :: rest) => .openArray :: item.tokens ++ moreItems rest
  | .object [] => [.openObject, .closeObject]
  | .object ((key, value) :: rest) =>
    [.openObject, .string key, .colon] ++ value.tokens ++ moreMembers rest

/-- The tokens of the items after the first, and of the end of the array. -/
def moreItems : List Json → List Token
  | [] => [.closeArray]
  | item :: rest => .comma :: item.tokens ++ moreItems rest

/-- The tokens of the members after the first, and of the end of the object. -/
def moreMembers : List (List Glyph × Json) → List Token
  | [] => [.closeObject]
  | (key, value) :: rest => [.comma, .string key, .colon] ++ value.tokens ++ moreMembers rest

end

/-- The text of a value, without blanks. -/
def render (json : Json) : String := String.ofList (json.tokens.flatMap Token.chars)

/-! ## Reading -/

/-- A container that is still open, with what it holds so far, the last first. -/
inductive Frame where
  | array (items : List Json)
  /-- an object that waits for the value of `key` -/
  | object (members : List (List Glyph × Json)) (key : List Glyph)

/-- What has been read, and what may follow. -/
inductive Stage where
  /-- a value has to follow -/
  | wantValue (stack : List Frame)
  /-- an array has just been opened: its first item follows, or its end -/
  | wantItem (stack : List Frame)
  /-- an object has just been opened: its first key follows, or its end -/
  | wantFirstKey (stack : List Frame)
  /-- a key has to follow -/
  | wantKey (members : List (List Glyph × Json)) (stack : List Frame)
  /-- the colon behind a key has to follow -/
  | wantColon (members : List (List Glyph × Json)) (key : List Glyph) (stack : List Frame)
  /-- a value is complete: its container goes on, or the text ends -/
  | complete (value : Json) (stack : List Frame)

/-- Takes the first token of a value. -/
def Stage.beginValue? (stack : List Frame) : Token → Option Stage
  | .openArray => some (.wantItem stack)
  | .openObject => some (.wantFirstKey stack)
  | .null => some (.complete .null stack)
  | .bool b => some (.complete (.bool b) stack)
  | .number n => some (.complete (.number n) stack)
  | .string glyphs => some (.complete (.string glyphs) stack)
  | _ => none

/-- Takes one token. -/
def Stage.step? : Stage → Token → Option Stage
  | .wantValue stack, token => beginValue? stack token
  | .wantItem stack, .closeArray => some (.complete (.array []) stack)
  | .wantItem stack, token => beginValue? (.array [] :: stack) token
  | .wantFirstKey stack, .closeObject => some (.complete (.object []) stack)
  | .wantFirstKey stack, .string key => some (.wantColon [] key stack)
  | .wantKey members stack, .string key => some (.wantColon members key stack)
  | .wantColon members key stack, .colon => some (.wantValue (.object members key :: stack))
  | .complete value (.array items :: stack), .comma =>
    some (.wantValue (.array (value :: items) :: stack))
  | .complete value (.array items :: stack), .closeArray =>
    some (.complete (.array (value :: items).reverse) stack)
  | .complete value (.object members key :: stack), .comma =>
    some (.wantKey ((key, value) :: members) stack)
  | .complete value (.object members key :: stack), .closeObject =>
    some (.complete (.object ((key, value) :: members).reverse) stack)
  | _, _ => none

/-- Takes a run of tokens. -/
def Stage.run? : Stage → List Token → Option Stage
  | stage, [] => some stage
  | stage, token :: rest => (stage.step? token).bind (run? · rest)

/-- The value that a text writes. -/
def parse? (text : String) : Option Json :=
  match Token.ofChars? text.toList with
  | some tokens =>
    match Stage.run? (.wantValue []) tokens with
    | some (.complete value []) => some value
    | _ => none
  | none => none

end TypedBlocks.Json
