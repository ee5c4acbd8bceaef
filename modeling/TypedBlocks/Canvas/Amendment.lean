import TypedBlocks.Canvas

/-!
# Amendments

The programmatic changes that a host offers, as values: `Amendment.apply` makes one. What is not
here, a host does not offer; in particular nothing here plugs a block in, that is for users.
-/

namespace TypedBlocks

/-- A programmatic change to a canvas, as hosts and listeners make them. No event is reported of
it. -/
inductive Amendment where
  | ensureVariable (name type : String) (id : Option String)
  | retypeVariable (id type : String)
  | setOutputTag (block : String) (tag : Tag)
  | pullOut (block : String)
  | clearInput (block input : String)
  | move (block : String) (dx dy : Float)
  | setField (block field value : String)
  | setChoices (block field : String) (choices : List Choice)

namespace Amendment

/-- Makes a change; one that fails changes nothing. -/
def apply (ids : IdSupply) (c : Canvas) : Amendment → Except Fault Canvas
  | .ensureVariable name type id => .ok (c.ensureVariable ids name type id).2
  | .retypeVariable id type => c.retypeVariable id type
  | .setOutputTag block tag => c.setOutputTag block tag
  | .pullOut block => c.pullOut block
  | .clearInput block input => c.clearInput block input
  | .move block dx dy => c.move block dx dy
  | .setField block field value => c.setField block field value
  | .setChoices block field choices => c.setChoices block field choices

end Amendment

end TypedBlocks
