import TypedBlocks.Event
import TypedBlocks.Tag

/-!
# Notices

What is written to the log when something is passed over or undone instead of failing. A notice
says what happened; `level` and `text` say how it is logged.
-/

namespace TypedBlocks

/-- Why a connection was undone: the link is not about that collection, or the loop cannot go over
that. -/
inductive Mismatch where
  /-- a link does not join the collection of the document plugged in -/
  | notLinked (collection blockType : String)
  /-- a loop cannot run over what was plugged in -/
  | notIterable (tag : Tag)
  deriving DecidableEq

/-- The text of a mismatch. -/
def Mismatch.message : Mismatch → String
  | .notLinked collection blockType =>
    "structural mismatch: collection " ++ collection ++ " is not linked by " ++ blockType
  | .notIterable tag => "structural mismatch: foreach cannot iterate over " ++ tag.text

/-- Something that was passed over or undone. -/
inductive Notice where
  /-- the colour of a collection is none, and used as it is -/
  | invalidColour (collection colour : String)
  /-- a variable has no place in the toolbox -/
  | skippedVariable (name : String) (fault : Fault)
  /-- a link type has no place in the toolbox -/
  | skippedLink (name : String) (fault : Fault)
  /-- the attributes of an unresolved collection were not offered -/
  | skippedRefresh (fault : Fault)
  /-- an input was emptied again -/
  | rejected (parent input : String) (reason : Mismatch)
  /-- an event could not be applied -/
  | failed (event : Event) (fault : Fault)
  /-- a session was to be detached from a workspace that it is not attached to -/
  | foreignDetach (session workspace : String)
  deriving DecidableEq

namespace Notice

/-- Is a notice logged as an error? All others are warnings. -/
def isError : Notice → Bool
  | .failed _ _ => true
  | .foreignDetach _ _ => true
  | _ => false

/-- The text of a notice. -/
def text : Notice → String
  | .invalidColour collection colour =>
    "collection " ++ collection ++ " has invalid color " ++ Text.quoted colour
  | .skippedVariable name fault => "skip variable " ++ name ++ ": " ++ fault.message
  | .skippedLink name fault => "skip link " ++ name ++ ": " ++ fault.message
  | .skippedRefresh fault => "skip refresh: " ++ fault.message
  | .rejected parent input reason =>
    "reject connection into " ++ parent ++ "." ++ input ++ ": " ++ reason.message
  | .failed event fault => "failed to apply " ++ event.describe ++ ": " ++ fault.message
  | .foreignDetach session workspace =>
    "detach session of workspace " ++ session ++ " from workspace " ++ workspace

end Notice

end TypedBlocks
