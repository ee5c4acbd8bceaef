import TypedBlocks.Number.Numeral

/-!
# The shortest decimal of a double

A double stands for every real number that rounds to it. `shortest` gives the decimal with the
fewest digits among those, and of several with that many digits the one closest to the double; a
tie goes away from zero.

The search is exact. A finite double is `m * 2 ^ q`; its neighbours' midpoints bound the reals
that round to it, the bounds themselves counting just if `m` is even. For one digit, two digits,
and so on, the two points of that decimal grid around the double are tried: if any point of a grid
lies within the bounds, one of these does.
-/

namespace TypedBlocks

/-- A decimal `digits * 10 ^ exponent`. -/
structure Decimal where
  digits : Nat
  exponent : Int
  deriving DecidableEq

namespace Decimal

/-- The value of the sign bit of a double: two to the power of 63. -/
def signUnit : Nat := 0x8000000000000000

/-- Moves trailing zeros into the exponent, at most `count` of them. -/
def trim : Nat → Decimal → Decimal
  | 0, d => d
  | count + 1, d =>
    if d.digits ≠ 0 ∧ d.digits % 10 = 0 then trim count ⟨d.digits / 10, d.exponent + 1⟩ else d

/-- A power as a fraction: numerator and denominator. -/
def powerRatio (base : Nat) (exponent : Int) : Nat × Nat :=
  if 0 ≤ exponent then (base.pow exponent.toNat, 1) else (1, base.pow exponent.natAbs)

/-- The place of the first digit: the least `p` such that the fraction is below `10 ^ p`. -/
def leadingPlace (numerator denominator : Nat) : Int :=
  if denominator ≤ numerator then (Numeral.digitsOf (numerator / denominator)).length
  else
    match (List.range 400).find? fun zeros => denominator ≤ numerator * Nat.pow 10 (zeros + 1) with
    | some zeros => -(zeros : Int)
    | none => -400

/-- Tries the grid of multiples of `10 ^ exponent`. All of `low`, `centre` and `high` are counted in
units of `unit`; the ends of the interval count if `closed`. -/
def onGrid? (unit : Nat × Nat) (low centre high : Nat) (closed : Bool) (exponent : Int) :
    Option Decimal :=
  let grid := powerRatio 10 exponent
  let up := unit.1 * grid.2
  let down := unit.2 * grid.1
  let below := centre * up / down
  let within (c : Nat) : Bool :=
    if closed then low * up ≤ c * down ∧ c * down ≤ high * up
    else low * up < c * down ∧ c * down < high * up
  let nearerAbove : Bool := (below + 1) * down - centre * up ≤ centre * up - below * down
  match within below, within (below + 1) with
  | true, true => some ⟨if nearerAbove then below + 1 else below, exponent⟩
  | true, false => some ⟨below, exponent⟩
  | false, true => some ⟨below + 1, exponent⟩
  | false, false => none

/-- The number of values of the low bits of a double, the fraction: two to the power of 52. -/
def fractionSize : Nat := 0x10000000000000

/-- The shortest decimal that rounds to the magnitude of a finite double. -/
def shortest (x : Float) : Decimal :=
  let bits := x.toBits.toNat % signUnit
  let biased := bits / fractionSize
  let low := bits % fractionSize
  let m := if biased = 0 then low else fractionSize + low
  let q : Int := (max biased 1 : Nat) - 1075
  if m = 0 then ⟨0, 0⟩
  else
    let unit := powerRatio 2 (q - 2)
    let centre := 4 * m
    let below := if low = 0 ∧ 1 < biased then centre - 1 else centre - 2
    let place := leadingPlace (centre * unit.1) unit.2
    let found := (List.range 17).findSome? fun (n : Nat) =>
      onGrid? unit below centre (centre + 2) (m % 2 = 0) (place - (n + 1 : Nat))
    trim 20 (found.getD ⟨0, 0⟩)

end Decimal

end TypedBlocks
