import TypedBlocks.Number.Numeral

/-!
# Doubles in one scaling step

JSON numbers become doubles by a rule that is cheap and not always the nearest: the digits are
kept in a 64-bit word as long as they fit, and the word, once rounded to a double, is multiplied or
divided by one power of ten.

* A whole digit that does not fit is dropped with all whole digits after it; each raises the power
  by one.
* A fraction digit lowers the power by one; the first that does not fit ends the fraction.
* A number beyond the range of doubles is refused, one too small becomes zero.
-/

namespace TypedBlocks.Numeral

/-- One more than the greatest number that the word of kept digits can hold: two to the power
of 64. -/
def wordSize : Nat := 0x10000000000000000

/-- Appends whole digits while they fit, and counts those that are dropped. -/
def keepWhole (word : Nat) : List Digit → Nat × Nat
  | [] => (word, 0)
  | d :: rest =>
    if 10 * word + d.val < wordSize then keepWhole (10 * word + d.val) rest
    else (word, rest.length + 1)

/-- Appends fraction digits while they fit, and counts those that are kept. -/
def keepFraction (word places : Nat) : List Digit → Nat × Nat
  | [] => (word, places)
  | d :: rest =>
    if 10 * word + d.val < wordSize then keepFraction (10 * word + d.val) (places + 1) rest
    else (word, places)

/-- The greatest power of ten that one step scales by. -/
def widestStep : Nat := 308

/-- The power of ten as a double. -/
def powerOfTen (n : Nat) : Float := Float.ofScientific 1 false n

/-- Divides by a power of ten, in steps of at most `widestStep`. -/
def shrink (x : Float) (power : Nat) : Float :=
  if power ≤ widestStep then x / powerOfTen power
  else if x == 0 then x
  else shrink (x / powerOfTen widestStep) (power - widestStep)
termination_by power
decreasing_by simp only [widestStep] at *; omega

/-- Multiplies by a power of ten; `none` beyond the range of doubles. -/
def stretch? (x : Float) (power : Nat) : Option Float :=
  if power ≤ widestStep then
    let y := x * powerOfTen power
    if y.isInf then none else some y
  else if x == 0 then some x
  else none

/-- The greatest exponent that is told apart from larger ones. -/
def exponentLimit : Int := 0x7fffffff

/-- The double of a numeral, or `none` beyond their range. -/
def scaled? (n : Numeral) : Option Float :=
  let (word, dropped) := keepWhole 0 n.whole
  let (word, places) := keepFraction word 0 (n.fraction.getD [])
  let exponent := n.exponent.getD 0
  let magnitude : Option Float :=
    if exponent > exponentLimit then if word = 0 then some 0 else none
    else if exponent < -exponentLimit then some 0
    else
      let power : Int := dropped - places + exponent
      if 0 ≤ power then stretch? (Float.ofNat word) power.toNat
      else some (shrink (Float.ofNat word) power.natAbs)
  magnitude.map n.withSign

end TypedBlocks.Numeral
