import TypedBlocks.Text.Hex

/-!
# Shading of colours

A colour is written `#rrggbb`. `Colour.shade` moves each channel towards white, or towards black
for a negative share, and writes the result the same way. The six characters are read as one
hexadecimal number, which may open with a plus sign; any other text is no colour.
-/

namespace TypedBlocks.Colour

/-- The number behind the six characters after the `#`: six digits, or a plus sign and five. -/
def number? : List Char → Option Nat
  | ['+', b, c, d, e, f] => Text.readHex? [b, c, d, e, f]
  | [a, b, c, d, e, f] => Text.readHex? [a, b, c, d, e, f]
  | _ => none

/-- Moves a channel the given share of its way to `target`. The way is rounded to a whole number,
a half upwards, and the result held within a byte; a share that is no number yields zero. -/
def shadeChannel (target share : Float) (channel : Nat) : UInt8 :=
  let channel := Float.ofNat channel
  (((target - channel) * share + 0.5).floor + channel).toUInt8

/-- The number of a colour, its three channels moved `share` of their way to white, or `-share` of
their way to black. -/
def shade (colour : String) (share : Float) : Option String :=
  match colour.toList with
  | '#' :: digits =>
    match number? digits with
    | some number =>
      let moved := if share < 0 then shadeChannel 0 (-share) else shadeChannel 255 share
      let channels := [number / 65536, number / 256 % 256, number % 256]
      some (String.ofList ('#' :: channels.flatMap fun c => Text.hexFixed 2 (moved c).toNat))
    | none => none
  | _ => none

end TypedBlocks.Colour
