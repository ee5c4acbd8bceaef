import TypedBlocks.Number.Shortest

/-!
# How doubles are laid out

Both layouts write the shortest digits that read back as the double. `plainText` is for messages:
never an exponent, no point without a fraction, words for what is no number. `ofFloat?` is for
JSON: always a fraction or an exponent, so that a double is not mistaken for an integer, and
nothing for what JSON cannot hold.
-/

namespace TypedBlocks

namespace Decimal

/-- The digits before and after the point when a decimal is written without exponent. -/
def split (d : Decimal) : List Digit × List Digit :=
  let digits := Numeral.digitsOf d.digits
  let point := (digits.length : Int) + d.exponent
  if point ≤ 0 then ([0], List.replicate point.natAbs 0 ++ digits)
  else
    let padded := digits ++ List.replicate (point.toNat - digits.length) 0
    (padded.take point.toNat, padded.drop point.toNat)

end Decimal

/-- Is the sign bit of a double set? -/
def signBit (x : Float) : Bool := Decimal.signUnit ≤ x.toBits.toNat

/-- The text of a double in messages. -/
def plainText (x : Float) : String :=
  if x.isNaN then "NaN"
  else
    let magnitude :=
      if x.isInf then "inf".toList
      else
        let (whole, fraction) := (Decimal.shortest x).split
        let point := if fraction = [] then [] else ['.']
        (whole.map Numeral.digitChar) ++ point ++ (fraction.map Numeral.digitChar)
    String.ofList (if signBit x then '-' :: magnitude else magnitude)

namespace Numeral

/-- The lowest and the highest place of the first digit that JSON output writes without exponent. -/
def plainPlaces : Int × Int := (-4, 16)

/-- The numeral of a double in JSON; infinities and what is no number have none. -/
def ofFloat? (x : Float) : Option Numeral :=
  if x.isNaN ∨ x.isInf then none
  else
    let sign := if signBit x then Sign.minus else .absent
    let d := Decimal.shortest x
    let digits := digitsOf d.digits
    let place := (digits.length : Int) + d.exponent
    if plainPlaces.1 ≤ place ∧ place ≤ plainPlaces.2 then
      let (whole, fraction) := d.split
      let fraction := if fraction = [] then [0] else fraction
      some { sign, whole, fraction := some fraction, exponent := none }
    else
      let fraction := if digits.tail = [] then none else some digits.tail
      some { sign, whole := digits.take 1, fraction, exponent := some (place - 1) }

end Numeral

end TypedBlocks
