/-!
# Hexadecimal digits

Digits are read in either case and written in lower case. `hexFixed` pads to a width, `hexShort`
writes no leading zero; both are used wherever a code point, a colour channel or the bits of a
number are spelled out.
-/

namespace TypedBlocks.Text

/-- The value of a hexadecimal digit, in either case. -/
def hexValue? (c : Char) : Option Nat :=
  if '0' ≤ c ∧ c ≤ '9' then some (c.toNat - 48)
  else if 'a' ≤ c ∧ c ≤ 'f' then some (c.toNat - 87)
  else if 'A' ≤ c ∧ c ≤ 'F' then some (c.toNat - 55)
  else none

/-- The lower-case digit of a value below sixteen. -/
def hexDigit (n : Nat) : Char := Nat.digitChar n

/-- The last `width` hexadecimal digits of `n`. -/
def hexFixed : Nat → Nat → List Char
  | 0, _ => []
  | width + 1, n => hexFixed width (n / 16) ++ [hexDigit (n % 16)]

/-- The hexadecimal digits of `n`, without leading zeros; zero is one digit. -/
def hexShort (n : Nat) : List Char :=
  match (hexFixed (n.log2 / 4 + 1) n).dropWhile (· == '0') with
  | [] => ['0']
  | digits => digits

/-- The number written by a run of hexadecimal digits; `none` at any other character. -/
def readHex? : List Char → Option Nat :=
  go 0
where
  /-- Reads on, `value` being the number read so far. -/
  go (value : Nat) : List Char → Option Nat
    | [] => some value
    | c :: rest =>
      match hexValue? c with
      | some digit => go (16 * value + digit) rest
      | none => none

end TypedBlocks.Text
