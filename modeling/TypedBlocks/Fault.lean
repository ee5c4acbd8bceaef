import TypedBlocks.Text.Quoted

/-!
# Faults

What can go wrong, by cause. `message` is the text a user is shown; two causes can share a
wording, such as a block that is plugged in nowhere and an input that holds nothing.
-/

namespace TypedBlocks

/-- Why an operation failed. -/
inductive Fault where
  /-- a text is not the JSON of the record asked for -/
  | json
  /-- a block is plugged in nowhere -/
  | unplugged (block : String)
  /-- an input holds no block -/
  | vacant (block input : String)
  /-- the domain has no such collection -/
  | noCollection (id : String)
  /-- a collection id is empty or holds an underscore -/
  | badCollectionId (id : String)
  /-- the canvas has no such block -/
  | noBlock (id : String)
  /-- a block has no such input -/
  | noInput (block input : String)
  /-- a block has no such field -/
  | noField (block field : String)
  /-- there is no such variable -/
  | noVariable (id : String)
  /-- the catalog has no definition of a block type -/
  | noDefinition (blockType : String)
  /-- an input does not take the output of a block -/
  | misfit (child parent input : String)
  /-- a failed writer has left the catalog in doubt -/
  | catalogPoisoned
  /-- a setting has a value that it cannot have -/
  | badSetting (key value : String)
  deriving DecidableEq

/-- The text of a fault. -/
def Fault.message : Fault → String
  | .json => "json error"
  | .unplugged block => "block " ++ block ++ " is already disconnected"
  | .vacant block input => "block " ++ block ++ "." ++ input ++ " is already disconnected"
  | .noCollection id => "collection " ++ id ++ " not found"
  | .badCollectionId id =>
    "collection id " ++ Text.quoted id ++ " must be non-empty and free of \x60_\x60"
  | .noBlock id => "block " ++ id ++ " not found"
  | .noInput block input => "block " ++ block ++ " has no input " ++ input
  | .noField block field => "block " ++ block ++ " has no field " ++ field
  | .noVariable id => "variable " ++ id ++ " not found"
  | .noDefinition blockType => "block type " ++ blockType ++ " is not registered"
  | .misfit child parent input => "cannot connect " ++ child ++ " into " ++ parent ++ "." ++ input
  | .catalogPoisoned => "block registry lock poisoned"
  | .badSetting key value => "invalid config " ++ key ++ ": " ++ value

end TypedBlocks
