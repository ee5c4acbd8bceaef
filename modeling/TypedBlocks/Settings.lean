import TypedBlocks.Fault
import TypedBlocks.Json.Read
import TypedBlocks.Number.Layout
import TypedBlocks.Number.Read
import TypedBlocks.Text.Blank

/-!
# Settings

Two numbers, each with a default. They come from JSON (`ofJsonText`) or from the environment
(`ofEnvironment`); only the environment's shade is held to a range.
-/

namespace TypedBlocks

/-- The settings of an editor. -/
structure Settings where
  /-- how far a link block moves when its document is unplugged -/
  snapRadius : Float := 28
  /-- how far the colours of document getters move towards white, or towards black below zero -/
  shade : Float := 0.5

namespace Settings

/-- Name of the environment's snap radius. -/
def snapRadiusKey : String := "BLOCKWIRE_SNAP_RADIUS"

/-- Name of the environment's shade. -/
def shadeKey : String := "BLOCKWIRE_SHADE_PERCENT"

/-- A number of the environment, white space around it aside. A value that is no number is shown
as it is. -/
def readNumber (key : String) : Option String → Except Fault (Option Float)
  | none => .ok none
  | some value =>
    match readFloat? (Text.trim value.toList) with
    | some x => .ok (some x)
    | none => .error (.badSetting key value)

/-- The defaults, overridden by the environment. `snapRadius` and `shade` are the values of its
two variables; the shade has to lie between -1 and 1. -/
def ofEnvironment (snapRadius shade : Option String) : Except Fault Settings := do
  let defaults : Settings := {}
  let snapRadius ← readNumber snapRadiusKey snapRadius
  let shade ← readNumber shadeKey shade
  let shade := shade.getD defaults.shade
  if -1 ≤ shade ∧ shade ≤ 1 then
    return { snapRadius := snapRadius.getD defaults.snapRadius, shade }
  else
    throw (.badSetting shadeKey (plainText shade))

/-- Reads settings; both may be missing. -/
def ofJson? (json : Json) : Option Settings := do
  let defaults : Settings := {}
  let field ← json.fields? [⟨"snap_radius", .defaulted⟩, ⟨"shade_percent", .defaulted⟩]
  let snapRadius ← Json.defaultedField defaults.snapRadius Json.float? (field "snap_radius")
  let shade ← Json.defaultedField defaults.shade Json.float? (field "shade_percent")
  return { snapRadius, shade }

/-- The settings that a JSON text writes. -/
def ofJsonText (text : String) : Except Fault Settings :=
  match (Json.parse? text).bind ofJson? with
  | some s => .ok s
  | none => .error .json

end Settings

end TypedBlocks
