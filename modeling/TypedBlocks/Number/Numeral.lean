/-!
# Numerals: numbers as they are written

A numeral is a number before anything is computed from it: a sign, the digits in front of the
point, the digits behind it, and an exponent. `ofChars?` cuts a text into these parts and leaves
open which parts may be missing; `isStrict` and `isLenient` are the two rules in use, one for JSON
and one for settings that are typed in by hand.

`nearest` is the double closest to a numeral, a tie going to the even neighbour.
-/

namespace TypedBlocks

/-- A decimal digit. -/
abbrev Digit := Fin 10

/-- The sign in front of a numeral. -/
inductive Sign where
  /-- no sign -/
  | absent
  | plus
  | minus
  deriving DecidableEq

/-- A number as it is written: sign, digits before and after the point, and exponent, none of them
evaluated. -/
structure Numeral where
  /-- the sign in front -/
  sign : Sign
  /-- the digits before the point -/
  whole : List Digit
  /-- the digits after the point, if there is a point -/
  fraction : Option (List Digit)
  /-- the power of ten, if one is written -/
  exponent : Option Int
  deriving DecidableEq

namespace Numeral

/-! ## Digits -/

/-- The digit that a character stands for. -/
def digit? (c : Char) : Option Digit :=
  if h : '0' ≤ c ∧ c ≤ '9' then
    some ⟨c.toNat - 48, by
      have := Char.le_def.mp h.2
      have : c.toNat ≤ 57 := this
      omega⟩
  else none

/-- The character of a digit. -/
def digitChar (d : Digit) : Char := Nat.digitChar d.val

/-- Takes the digits that a text begins with. -/
def takeDigits : List Char → List Digit × List Char
  | [] => ([], [])
  | c :: rest =>
    match digit? c with
    | some d => (d :: (takeDigits rest).1, (takeDigits rest).2)
    | none => ([], c :: rest)

/-- The number that follows from `value` when more digits are written behind it. -/
def appendDigits (value : Nat) (digits : List Digit) : Nat :=
  digits.foldl (fun n d => 10 * n + d.val) value

/-- The digits of a number, without leading zeros; zero is one digit. -/
def digitsOf (n : Nat) : List Digit :=
  (Nat.toDigits 10 n).filterMap digit?

/-! ## Cutting -/

/-- Takes a sign, if the text begins with one. -/
def takeSign : List Char → Sign × List Char
  | '+' :: rest => (.plus, rest)
  | '-' :: rest => (.minus, rest)
  | rest => (.absent, rest)

/-- A number with the sign it was written with. -/
def signed (sign : Sign) (n : Nat) : Int :=
  match sign with
  | .minus => -(n : Int)
  | _ => n

/-- Reads what follows the digits and the point: nothing, or an exponent with at least one digit. -/
def exponent? : List Char → Option (Option Int)
  | [] => some none
  | c :: rest =>
    if c = 'e' ∨ c = 'E' then
      let (sign, rest) := takeSign rest
      match takeDigits rest with
      | (d :: digits, []) => some (some (signed sign (appendDigits 0 (d :: digits))))
      | _ => none
    else none

/-- Cuts a text into the parts of a numeral. Digits may be missing on either side of the point. -/
def ofChars? (chars : List Char) : Option Numeral :=
  let (sign, rest) := takeSign chars
  let (whole, rest) := takeDigits rest
  let (fraction, rest) : Option (List Digit) × List Char :=
    match rest with
    | '.' :: rest => (some (takeDigits rest).1, (takeDigits rest).2)
    | rest => (none, rest)
  (exponent? rest).map fun exponent => { sign, whole, fraction, exponent }

/-- The strict rule: no plus sign, digits on both sides of a point, no leading zero before another
digit. -/
def isStrict (n : Numeral) : Bool :=
  n.sign != .plus && n.fraction != some [] &&
    match n.whole with
    | [] => false
    | d :: more => d.val != 0 || more.isEmpty

/-- The lenient rule: any sign, and a digit on at least one side of the point. -/
def isLenient (n : Numeral) : Bool :=
  !n.whole.isEmpty || !(n.fraction.getD []).isEmpty

/-! ## Values -/

/-- The digits on both sides of the point, as one number. -/
def significand (n : Numeral) : Nat :=
  appendDigits (appendDigits 0 n.whole) (n.fraction.getD [])

/-- The power of ten that the significand is to be taken with. -/
def scale (n : Numeral) : Int :=
  n.exponent.getD 0 - (n.fraction.getD []).length

/-- Puts the sign of a numeral on a magnitude. -/
def withSign (n : Numeral) (magnitude : Float) : Float :=
  if n.sign = .minus then -magnitude else magnitude

/-- The double nearest to a numeral; an infinity beyond the range of doubles. -/
def nearest (n : Numeral) : Float :=
  n.withSign (Float.ofScientific n.significand (n.scale < 0) n.scale.natAbs)

/-- The numeral of a natural number. -/
def ofNat (n : Nat) : Numeral :=
  { sign := .absent, whole := digitsOf n, fraction := none, exponent := none }

/-- The whole number that a numeral without sign, point and exponent writes. -/
def nat? (n : Numeral) : Option Nat :=
  match n with
  | { sign := .absent, whole, fraction := none, exponent := none } => some (appendDigits 0 whole)
  | _ => none

/-- The characters of a numeral, as the strict rule reads them. -/
def chars (n : Numeral) : List Char :=
  (match n.sign with
    | .absent => []
    | .plus => ['+']
    | .minus => ['-']) ++
  n.whole.map digitChar ++
  (match n.fraction with
    | none => []
    | some digits => '.' :: digits.map digitChar) ++
  (match n.exponent with
    | none => []
    | some e =>
      'e' :: ((if e < 0 then ['-'] else []) ++ (digitsOf e.natAbs).map digitChar))

end Numeral

end TypedBlocks
