import TypedBlocks.Number.Numeral

/-!
# Numbers in settings

A number that is typed in by hand is a numeral under the lenient rule, or one of the words `inf`,
`infinity` and `nan` in any mixture of cases, with a sign if wanted.
-/

namespace TypedBlocks

/-- The lower-case form of an ASCII letter; other characters are kept. -/
def asciiLower (c : Char) : Char :=
  if 'A' ≤ c ∧ c ≤ 'Z' then Char.ofNat (c.toNat + 32) else c

/-- The double behind a word. -/
def wordFloat? (word : List Char) : Option Float :=
  let word := word.map asciiLower
  if word = "inf".toList ∨ word = "infinity".toList then some (1 / 0)
  else if word = "nan".toList then some (0 / 0)
  else none

/-- The double behind a text: the nearest one to a numeral, or the one that a word names. -/
def readFloat? (chars : List Char) : Option Float :=
  let (sign, word) := Numeral.takeSign chars
  match wordFloat? word with
  | some x => some (if sign = .minus then -x else x)
  | none =>
    match Numeral.ofChars? chars with
    | some n => if n.isLenient then some n.nearest else none
    | none => none

end TypedBlocks
