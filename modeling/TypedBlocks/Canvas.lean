import TypedBlocks.Definition
import TypedBlocks.Table
import TypedBlocks.Variable

/-!
# The canvas

A canvas is the graph that a program is drawn as: blocks, each with inputs that hold other blocks,
and the variables that blocks name. A connection is kept at both of its ends: an input names the
block it holds, and a block names the input it is plugged into.

The operations here are single, programmatic amendments. Each either succeeds or leaves the canvas
as it was, and none is reported to anyone. Ids come from a supply, a function of the number of ids
drawn before.
-/

namespace TypedBlocks

/-- Where new ids come from: the next is found by the number of those drawn before. That ids differ
is not part of this; theorems that need it say so. -/
abbrev IdSupply := Nat → String

/-- An input of a block. What it takes is fixed when the block is made; what it holds is not. -/
structure Input where
  /-- the tag texts it takes, any if there are none given -/
  check : Option (List String)
  /-- is it a place for statements? -/
  statement : Bool
  /-- the block it holds -/
  target : Option String
  deriving DecidableEq

/-- Where a block is plugged in: the block that holds it, and the input there. The other end is the
target of that input. -/
structure Plug where
  block : String
  input : String
  deriving DecidableEq

/-- A field of a block: a variable picker, whose value is the id of a variable, or a dropdown. -/
structure Field where
  /-- the id of a variable, or the value of a dropdown -/
  value : String
  /-- the entries of a dropdown -/
  choices : List Choice
  deriving DecidableEq

/-- A block on a canvas. It does not know its own id, which is the key that the canvas has it
under. -/
structure Block where
  type : String
  hasOutput : Bool
  /-- the tag texts its output offers, any if there are none given -/
  outputCheck : Option (List String)
  /-- where it is plugged in -/
  parent : Option Plug
  inputs : Table String Input
  fields : Table String Field
  position : Float × Float

/-- The tag of a block's output. -/
def Block.tag (b : Block) : Tag := Tag.ofCheck b.outputCheck

/-- Sets what an input holds. A block without such an input is left as it is. -/
def Block.setTarget (b : Block) (input : String) (target : Option String) : Block :=
  { b with inputs := b.inputs.modify input fun i => { i with target } }

/-- Blocks and variables, and the number of ids drawn so far. Blocks, variables and listeners all
draw theirs from one supply. -/
structure Canvas where
  blocks : Table String Block
  /-- in the order of their creation -/
  vars : List Variable
  /-- how many ids have been drawn -/
  drawn : Nat

namespace Canvas

/-- The empty canvas. -/
def empty : Canvas := { blocks := .empty, vars := [], drawn := 0 }

/-- Draws an id, so that the next draw gives the one behind it. -/
def draw (ids : IdSupply) (c : Canvas) : String × Canvas :=
  (ids c.drawn, { c with drawn := c.drawn + 1 })

/-! ## Views -/

/-- A block. -/
def block? (c : Canvas) (id : String) : Option Block := c.blocks.get? id

/-- What an input holds; nothing if there is no such block, or it has no such input. -/
def target? (c : Canvas) (block input : String) : Option String := do
  (← (← c.block? block).inputs.get? input).target

/-- Where a block is plugged in; nowhere if there is no such block. -/
def plug? (c : Canvas) (block : String) : Option Plug := do (← c.block? block).parent

/-- The block that holds a block, in whichever of its inputs. -/
def holder? (c : Canvas) (block : String) : Option String := (c.plug? block).map (·.block)

/-- A field of a block. -/
def field? (c : Canvas) (block field : String) : Option Field := do
  (← c.block? block).fields.get? field

/-- The first variable with an id. Ids of variables that a host gave may coincide. -/
def findVariable (c : Canvas) (id : String) : Option Variable := c.vars.find? (·.id = id)

/-- The tag of the output of a block, unknown if there is no such block. -/
def tag (c : Canvas) (block : String) : Tag :=
  match c.block? block with
  | some b => b.tag
  | none => .unknown

/-! ## Connections -/

/-- Changes a block. Without a block of that id nothing changes. -/
def modify (c : Canvas) (id : String) (change : Block → Block) : Canvas :=
  { c with blocks := c.blocks.modify id change }

/-- Sets both ends of a connection. What the input held, and where the block was plugged in, is
overwritten here, so callers clear both first. -/
def plugIn (c : Canvas) (child parent input : String) : Canvas :=
  (c.modify parent (·.setTarget input (some child))).modify child fun b =>
    { b with parent := some { block := parent, input } }

/-- Clears both ends of a connection, and says where the block was. It fails if there is no such
block, or if that is plugged in nowhere. -/
def release (c : Canvas) (child : String) : Except Fault (Plug × Canvas) :=
  match c.block? child with
  | none => .error (.noBlock child)
  | some b =>
    match b.parent with
    | none => .error (.unplugged child)
    | some plug =>
      .ok (plug,
        (c.modify child fun b => { b with parent := none }).modify plug.block
          (·.setTarget plug.input none))

/-- Pulls a block out of the input that holds it. It fails as `release` does. -/
def pullOut (c : Canvas) (block : String) : Except Fault Canvas :=
  (c.release block).map (·.2)

/-- Empties an input by pulling out what it holds. It fails if it holds nothing, or if what it holds
cannot be pulled out. -/
def clearInput (c : Canvas) (block input : String) : Except Fault Canvas :=
  match c.target? block input with
  | none => .error (.vacant block input)
  | some target => c.pullOut target

/-! ## Blocks and fields -/

/-- Gives a block an output of one tag, also if it had none before. It fails if there is no such
block. -/
def setOutputTag (c : Canvas) (block : String) (tag : Tag) : Except Fault Canvas :=
  match c.block? block with
  | none => .error (.noBlock block)
  | some _ =>
    .ok (c.modify block fun b => { b with hasOutput := true, outputCheck := some [tag.text] })

/-- Moves a block by some distance in both directions. It fails if there is no such block. -/
def move (c : Canvas) (block : String) (dx dy : Float) : Except Fault Canvas :=
  match c.block? block with
  | none => .error (.noBlock block)
  | some _ =>
    .ok (c.modify block fun b => { b with position := (b.position.1 + dx, b.position.2 + dy) })

/-- Changes a field. It fails if there is no such block, or if it has no such field. -/
def modifyField (c : Canvas) (block field : String) (change : Field → Field) :
    Except Fault Canvas :=
  match c.block? block with
  | none => .error (.noBlock block)
  | some b =>
    match b.fields.get? field with
    | none => .error (.noField block field)
    | some _ => .ok (c.modify block fun b => { b with fields := b.fields.modify field change })

/-- Sets the value of a field, whether or not a dropdown offers it. -/
def setField (c : Canvas) (block field value : String) : Except Fault Canvas :=
  c.modifyField block field fun f => { f with value }

/-- Sets the entries of a dropdown. Its value stays, also if it is not one of them. -/
def setChoices (c : Canvas) (block field : String) (choices : List Choice) : Except Fault Canvas :=
  c.modifyField block field fun f => { f with choices }

/-! ## Variables -/

/-- Sets the type of the first variable in a list that has an id; later ones of that id keep
theirs. -/
def retype (id type : String) : List Variable → List Variable
  | [] => []
  | v :: rest => if v.id = id then { v with type } :: rest else v :: retype id type rest

/-- Sets the type of a variable, whoever names it. It fails if there is no such variable. -/
def retypeVariable (c : Canvas) (id type : String) : Except Fault Canvas :=
  match c.findVariable id with
  | none => .error (.noVariable id)
  | some _ => .ok { c with vars := retype id type c.vars }

/-- The variable of a name, made if it is new; an id is drawn unless one is given. A variable that
exists keeps its type. -/
def ensureVariable (ids : IdSupply) (c : Canvas) (name type : String) (id : Option String) :
    Variable × Canvas :=
  match c.vars.find? (·.name = name) with
  | some v => (v, c)
  | none =>
    let (id, c) :=
      match id with
      | some id => (id, c)
      | none => c.draw ids
    let v : Variable := { id, name, type }
    (v, { c with vars := c.vars ++ [v] })

/-! ## Tags under amendments -/

/-- A change that keeps what outputs offer keeps every tag. -/
theorem tag_modify (c : Canvas) (id other : String) {change : Block → Block}
    (h : ∀ b, (change b).outputCheck = b.outputCheck) :
    (c.modify id change).tag other = c.tag other := by
  simp only [tag, block?, modify, Table.get?_modify]
  by_cases ho : other = id
  · cases c.blocks.get? other <;> simp [ho, Block.tag, h]
  · simp [ho]

/-- A block that was given an output of one tag has the tag that its text reads as. -/
theorem tag_setOutputTag {c c' : Canvas} {block : String} {tag : Tag}
    (h : c.setOutputTag block tag = .ok c') : c'.tag block = Tag.ofText tag.text := by
  unfold setOutputTag at h
  split at h
  · cases h
  · rename_i b hb
    cases h
    have hb : c.blocks.get? block = some b := hb
    simp [Canvas.tag, block?, modify, hb, Block.tag, Tag.ofCheck]

/-- Pulling a block out keeps every tag. -/
theorem tag_pullOut {c c' : Canvas} {block : String} (h : c.pullOut block = .ok c')
    (other : String) : c'.tag other = c.tag other := by
  unfold pullOut release at h
  split at h
  · cases h
  · split at h
    · cases h
    · cases h
      dsimp only
      rw [tag_modify, tag_modify] <;> exact fun _ => rfl

/-- Moving a block keeps every tag. -/
theorem tag_move {c c' : Canvas} {block : String} {dx dy : Float}
    (h : c.move block dx dy = .ok c') (other : String) : c'.tag other = c.tag other := by
  unfold move at h
  split at h
  · cases h
  · cases h
    exact tag_modify _ _ _ fun _ => rfl

end Canvas

end TypedBlocks
