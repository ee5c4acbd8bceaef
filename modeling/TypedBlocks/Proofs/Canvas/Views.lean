import TypedBlocks.Canvas

/-!
# What amendments do to the views of a canvas

Proofs about canvases go through five views: the frame of a block (what stays as it was made), its
output, its plug, what an input holds, and its fields. An amendment is known by what it does to
each of them, and most leave most views alone:

* `modify` keeps every view that its change keeps;
* `detach` clears one plug and one input, `plugIn` sets one plug and one input, and both keep the
  frame, the output and the fields of every block;
* `release`, `pullOut` and `clearInput` are `detach` or fail.
-/

namespace TypedBlocks

/-! ## Frames -/

/-- What stays of an input, whatever it holds: what it takes, and whether it is for statements. -/
structure Slot where
  /-- the tag texts it takes, any if there are none given -/
  check : Option (List String)
  /-- is it a place for statements? -/
  statement : Bool
  deriving DecidableEq

/-- The lasting part of an input. -/
def Input.slot (i : Input) : Slot := ⟨i.check, i.statement⟩

/-- What stays of a block, whatever is plugged in or written on it: its type and its inputs, as
slots, and no more. -/
structure Frame where
  type : String
  /-- the inputs by name -/
  slot? : String → Option Slot
  /-- is there a field of a name? -/
  hasField : String → Bool

namespace Block

/-- The lasting part of a block. -/
def frame (b : Block) : Frame where
  type := b.type
  slot? input := (b.inputs.get? input).map Input.slot
  hasField field := (b.fields.get? field).isSome

theorem slot?_frame (b : Block) (input : String) :
    b.frame.slot? input = (b.inputs.get? input).map Input.slot := rfl

/-- What an input of a block holds. -/
def target? (b : Block) (input : String) : Option String := (b.inputs.get? input).bind Input.target

/-- What an input of a block holds once an input of it was set: that input holds the new target, if
the block has it at all, and the others hold what they held. -/
theorem target?_setTarget (b : Block) (input other : String) (target : Option String) :
    (b.setTarget input target).target? other =
      if other = input then (b.inputs.get? input).bind fun _ => target else b.target? other := by
  simp only [target?, setTarget, Table.get?_modify]
  by_cases h : other = input
  · subst h
    cases b.inputs.get? other <;> simp
  · simp [h]

@[simp] theorem frame_setTarget (b : Block) (input : String) (target : Option String) :
    (b.setTarget input target).frame = b.frame := by
  simp only [frame, setTarget, Table.get?_modify, Frame.mk.injEq, and_true, true_and]
  funext other
  by_cases h : other = input
  · simp only [h, if_true]
    cases b.inputs.get? input <;> rfl
  · simp [h]

/-- Changing the value of a field takes no field away and adds none. -/
theorem frame_modifyField (b : Block) (field : String) (change : Field → Field) :
    ({ b with fields := b.fields.modify field change } : Block).frame = b.frame := by
  simp only [frame, Table.get?_modify, Frame.mk.injEq, true_and]
  funext other
  by_cases h : other = field <;> simp [h]

end Block

namespace Canvas

variable (c : Canvas)

/-- The frame of a block. -/
def frame? (id : String) : Option Frame := (c.block? id).map Block.frame

/-- Has a block an output, and what does it offer? Of all views of a block this is what rules change
for links. -/
def output? (id : String) : Option (Bool × Option (List String)) :=
  (c.block? id).map fun b => (b.hasOutput, b.outputCheck)

theorem target?_eq_bind (block input : String) :
    c.target? block input = (c.block? block).bind (·.target? input) := rfl

theorem plug?_eq_bind (block : String) : c.plug? block = (c.block? block).bind (·.parent) := rfl

theorem field?_eq_bind (block field : String) :
    c.field? block field = (c.block? block).bind (·.fields.get? field) := rfl

/-- The tag of a block is read off its output. -/
theorem tag_eq_of_output? {c : Canvas} {id : String} {hasOutput : Bool}
    {check : Option (List String)} (h : c.output? id = some (hasOutput, check)) :
    c.tag id = Tag.ofCheck check := by
  obtain ⟨b, hb, hout⟩ := Option.map_eq_some_iff.mp h
  cases hout
  simp only [tag, hb]
  rfl

/-- The tag of a block is read off its output alone, so two canvases that agree about the output
agree about the tag. -/
theorem tag_congr {c c' : Canvas} {id : String} (h : c'.output? id = c.output? id) :
    c'.tag id = c.tag id := by
  cases hb : c.block? id <;> cases hb' : c'.block? id <;>
    simp_all [output?, tag, Block.tag]

/-- A block of which something is known is there. -/
theorem isSome_of_tag {c : Canvas} {id : String} (h : c.tag id ≠ .unknown) :
    (c.block? id).isSome := by
  rw [← Option.ne_none_iff_isSome]
  intro hnone
  rw [tag, hnone] at h
  exact h rfl

/-- A block has a frame just if it is there. -/
theorem frame?_isSome {c : Canvas} {id : String} : (c.frame? id).isSome = (c.block? id).isSome :=
  Option.isSome_map

/-- A block that is there shows its frame: its type, and the kinds of its inputs. -/
theorem frame?_of_block? {c : Canvas} {id : String} {b : Block} (hb : c.block? id = some b) :
    c.frame? id = some b.frame := by
  rw [frame?, hb, Option.map_some]

/-- What has a frame is a block, so existence can be read off either view. -/
theorem isSome_of_frame? {c : Canvas} {id : String} {f : Frame} (hf : c.frame? id = some f) :
    (c.block? id).isSome := by
  rw [← frame?_isSome, hf]
  rfl

theorem isSome_of_output? {c : Canvas} {id : String} {output : Bool × Option (List String)}
    (ho : c.output? id = some output) : (c.block? id).isSome := by
  rw [← Option.isSome_map (f := fun b : Block => (b.hasOutput, b.outputCheck)), ← output?, ho]
  rfl

/-- Blocks neither come nor go where frames stay the same. -/
theorem isSome_congr {c c' : Canvas} {id : String} (h : c'.frame? id = c.frame? id) :
    (c'.block? id).isSome = (c.block? id).isSome := by
  rw [← frame?_isSome, ← frame?_isSome, h]

/-- An input that holds something exists. -/
theorem slot_of_target {c : Canvas} {block input child : String}
    (h : c.target? block input = some child) :
    ∃ f slot, c.frame? block = some f ∧ f.slot? input = some slot := by
  rw [target?_eq_bind] at h
  obtain ⟨b, hb, hi⟩ := Option.bind_eq_some_iff.mp h
  obtain ⟨i, hget, -⟩ := Option.bind_eq_some_iff.mp hi
  refine ⟨b.frame, i.slot, ?_, ?_⟩
  · exact frame?_of_block? hb
  · exact Option.map_eq_some_iff.mpr ⟨i, hget, rfl⟩

/-- Which fields a block has is part of its frame. -/
theorem field?_isSome {c : Canvas} {id : String} {f : Frame} (hf : c.frame? id = some f)
    (field : String) : (c.field? id field).isSome = f.hasField field := by
  obtain ⟨b, hb, rfl⟩ := Option.map_eq_some_iff.mp hf
  rw [field?_eq_bind, hb]
  rfl

/-! ## The same blocks -/

section Blocks

variable {c c' : Canvas} (h : c'.blocks = c.blocks)

include h

theorem block?_of_blocks (id : String) : c'.block? id = c.block? id := by rw [block?, block?, h]

theorem frame?_of_blocks (id : String) : c'.frame? id = c.frame? id := by
  rw [frame?, frame?, block?_of_blocks h]

theorem output?_of_blocks (id : String) : c'.output? id = c.output? id := by
  rw [output?, output?, block?_of_blocks h]

theorem plug?_of_blocks (id : String) : c'.plug? id = c.plug? id := by
  rw [plug?_eq_bind, plug?_eq_bind, block?_of_blocks h]

theorem target?_of_blocks (block input : String) :
    c'.target? block input = c.target? block input := by
  rw [target?_eq_bind, target?_eq_bind, block?_of_blocks h]

theorem field?_of_blocks (block field : String) :
    c'.field? block field = c.field? block field := by
  rw [field?_eq_bind, field?_eq_bind, block?_of_blocks h]

end Blocks

/-! ## Changing one block -/

/-- Changing one block of a canvas is seen under its id and nowhere else; if there is no such block,
nothing changes. -/
theorem block?_modify (id other : String) (change : Block → Block) :
    (c.modify id change).block? other =
      if other = id then (c.block? other).map change else c.block? other :=
  Table.get?_modify ..

variable {c}

theorem block?_modify_ne {id other : String} (h : other ≠ id) (change : Block → Block) :
    (c.modify id change).block? other = c.block? other := by
  rw [block?_modify, if_neg h]

/-- What a change keeps of every block is kept by making the change. Here `view` is what is looked
at, and may be missing, such as where a block is plugged in. -/
theorem bind_block?_modify {γ : Type} {view : Block → Option γ} {change : Block → Block}
    {id other : String} (h : ∀ b, view (change b) = view b) :
    ((c.modify id change).block? other).bind view = (c.block? other).bind view := by
  rw [block?_modify]
  by_cases ho : other = id
  · cases hb : c.block? other <;> simp [ho, h]
  · simp [ho]

/-- The same for what every block has, such as its frame. -/
theorem map_block?_modify {γ : Type} {view : Block → γ} {change : Block → Block}
    {id other : String} (h : ∀ b, view (change b) = view b) :
    ((c.modify id change).block? other).map view = (c.block? other).map view := by
  rw [Option.map_eq_bind, Option.map_eq_bind]
  exact bind_block?_modify fun b => congrArg some (h b)

/-- A change that keeps the frame of whatever block it is applied to shows in no frame. -/
theorem frame?_modify {change : Block → Block} {id other : String}
    (h : ∀ b, (change b).frame = b.frame) : (c.modify id change).frame? other = c.frame? other :=
  map_block?_modify h

/-- A change that keeps whether a block has an output, and what that is for, shows in no output. -/
theorem output?_modify {change : Block → Block} {id other : String}
    (h : ∀ b, (change b).hasOutput = b.hasOutput)
    (h' : ∀ b, (change b).outputCheck = b.outputCheck) :
    (c.modify id change).output? other = c.output? other :=
  map_block?_modify fun b => by rw [h, h']

/-- A change that leaves a block where it is plugged in shows in no plug. -/
theorem plug?_modify {change : Block → Block} {id other : String}
    (h : ∀ b, (change b).parent = b.parent) : (c.modify id change).plug? other = c.plug? other :=
  bind_block?_modify h

theorem target?_modify {change : Block → Block} {id other input : String}
    (h : ∀ b, (change b).inputs = b.inputs) :
    (c.modify id change).target? other input = c.target? other input := by
  rw [target?_eq_bind, target?_eq_bind]
  exact bind_block?_modify fun b => by rw [Block.target?, h, Block.target?]

theorem field?_modify {change : Block → Block} {id other field : String}
    (h : ∀ b, (change b).fields = b.fields) :
    (c.modify id change).field? other field = c.field? other field := by
  rw [field?_eq_bind, field?_eq_bind]
  exact bind_block?_modify fun b => by rw [h]

/-- Setting what an input holds sets that and nothing else that inputs hold. -/
theorem target?_setTarget (block input other otherInput : String) (target : Option String) :
    (c.modify block (·.setTarget input target)).target? other otherInput =
      if other = block ∧ otherInput = input then
        (c.frame? block).bind fun f => (f.slot? input).bind fun _ => target
      else c.target? other otherInput := by
  rw [target?_eq_bind, target?_eq_bind, block?_modify]
  by_cases ho : other = block
  · subst ho
    cases hb : c.block? other with
    | none => simp [frame?, hb]
    | some b =>
      simp only [frame?, hb, Option.map_some, Option.bind_some, Block.target?_setTarget, if_true,
        true_and]
      by_cases hi : otherInput = input
      · subst hi
        cases hs : b.inputs.get? otherInput <;> simp [Block.frame, hs]
      · simp [hi]
  · simp [ho]

/-! ## Connections -/

/-- Clears both ends of a connection. `release` does this for the plug that it finds; here the plug
is given. -/
def detach (c : Canvas) (child : String) (plug : Plug) : Canvas :=
  (c.modify child fun b => { b with parent := none }).modify plug.block
    (·.setTarget plug.input none)

@[simp] theorem frame?_detach (child : String) (plug : Plug) (id : String) :
    (c.detach child plug).frame? id = c.frame? id := by
  rw [detach, frame?_modify fun b => b.frame_setTarget .., frame?_modify]
  exact fun _ => rfl

@[simp] theorem output?_detach (child : String) (plug : Plug) (id : String) :
    (c.detach child plug).output? id = c.output? id := by
  rw [detach, output?_modify, output?_modify] <;> exact fun _ => rfl

@[simp] theorem tag_detach (child : String) (plug : Plug) (id : String) :
    (c.detach child plug).tag id = c.tag id := tag_congr (output?_detach ..)

@[simp] theorem field?_detach (child : String) (plug : Plug) (id field : String) :
    (c.detach child plug).field? id field = c.field? id field := by
  rw [detach, field?_modify, field?_modify] <;> exact fun _ => rfl

/-- Pulling a block out frees its own plug, and no other. -/
theorem plug?_detach (child : String) (plug : Plug) (id : String) :
    (c.detach child plug).plug? id = if id = child then none else c.plug? id := by
  have hplug : (c.detach child plug).plug? id =
      (c.modify child fun b => { b with parent := none }).plug? id := plug?_modify fun _ => rfl
  rw [hplug, plug?_eq_bind, plug?_eq_bind, block?_modify]
  by_cases h : id = child
  · rw [if_pos h, if_pos h]
    cases c.block? id <;> rfl
  · rw [if_neg h, if_neg h]

/-- Pulling a block out empties the input that it was plugged into, as the plug has it, and no
other. -/
theorem target?_detach (child : String) (plug : Plug) (block input : String) :
    (c.detach child plug).target? block input =
      if block = plug.block ∧ input = plug.input then none else c.target? block input := by
  have hkeep : (c.modify child fun b => { b with parent := none }).target? block input =
      c.target? block input := target?_modify fun _ => rfl
  rw [detach, target?_setTarget, hkeep]
  by_cases h : block = plug.block ∧ input = plug.input
  · rw [if_pos h, if_pos h]
    cases Canvas.frame? _ plug.block <;> simp
  · rw [if_neg h, if_neg h]

/-- A block is pulled out just if it is plugged in, from where it is plugged in. -/
theorem release_eq_ok_iff {child : String} {plug : Plug} {c' : Canvas} :
    c.release child = .ok (plug, c') ↔ c.plug? child = some plug ∧ c' = c.detach child plug := by
  rw [plug?_eq_bind]
  rw [release]
  cases hb : c.block? child with
  | none => simp
  | some b =>
    cases hp : b.parent with
    | none => simp [hp]
    | some found =>
      simp only [hp, Except.ok.injEq, Prod.mk.injEq, Option.bind_some, Option.some.injEq]
      constructor
      · rintro ⟨rfl, rfl⟩
        exact ⟨rfl, rfl⟩
      · rintro ⟨rfl, rfl⟩
        exact ⟨rfl, rfl⟩

/-- A block on the canvas that cannot be pulled out is plugged in nowhere, and the fault says so. -/
theorem release_of_plug?_eq_none {child : String} (hb : (c.block? child).isSome)
    (h : c.plug? child = none) : c.release child = .error (.unplugged child) := by
  obtain ⟨b, hb⟩ := Option.isSome_iff_exists.mp hb
  rw [plug?_eq_bind, hb, Option.bind_some] at h
  simp only [release, hb, h]

/-- A block can be pulled out just if it is plugged in somewhere; what is left is the canvas with
both ends of that connection undone. -/
theorem pullOut_eq_ok_iff {child : String} {c' : Canvas} :
    c.pullOut child = .ok c' ↔ ∃ plug, c.plug? child = some plug ∧ c' = c.detach child plug := by
  rw [pullOut]
  constructor
  · intro h
    cases hr : c.release child with
    | error fault => rw [hr] at h; cases h
    | ok r =>
      rw [hr] at h
      cases h
      exact ⟨r.1, release_eq_ok_iff.mp hr⟩
  · rintro ⟨plug, hp⟩
    rw [release_eq_ok_iff.mpr hp]
    rfl

/-- An input can be cleared just if it holds a block that is plugged in. Nothing here says that it
is plugged in there; on a wired canvas it is. -/
theorem clearInput_eq_ok_iff {block input : String} {c' : Canvas} :
    c.clearInput block input = .ok c' ↔
      ∃ child plug, c.target? block input = some child ∧ c.plug? child = some plug ∧
        c' = c.detach child plug := by
  rw [clearInput]
  cases ht : c.target? block input with
  | none => simp
  | some child => simp [pullOut_eq_ok_iff]

@[simp] theorem frame?_plugIn (child parent input id : String) :
    (c.plugIn child parent input).frame? id = c.frame? id := by
  rw [plugIn, frame?_modify, frame?_modify fun b => b.frame_setTarget ..]
  exact fun _ => rfl

@[simp] theorem output?_plugIn (child parent input id : String) :
    (c.plugIn child parent input).output? id = c.output? id := by
  rw [plugIn, output?_modify, output?_modify] <;> exact fun _ => rfl

@[simp] theorem tag_plugIn (child parent input id : String) :
    (c.plugIn child parent input).tag id = c.tag id := tag_congr (output?_plugIn ..)

@[simp] theorem field?_plugIn (child parent input id field : String) :
    (c.plugIn child parent input).field? id field = c.field? id field := by
  rw [plugIn, field?_modify, field?_modify] <;> exact fun _ => rfl

/-- Plugging a block in sets its own plug, and no other. The block has to be there. -/
theorem plug?_plugIn {child : String} (hb : (c.block? child).isSome) (parent input id : String) :
    (c.plugIn child parent input).plug? id =
      if id = child then some ⟨parent, input⟩ else c.plug? id := by
  by_cases h : id = child
  · subst h
    have hframe : (c.modify parent (·.setTarget input (some id))).frame? id = c.frame? id :=
      frame?_modify fun b => b.frame_setTarget ..
    rw [← isSome_congr hframe] at hb
    obtain ⟨b, hb⟩ := Option.isSome_iff_exists.mp hb
    rw [plugIn, plug?_eq_bind, block?_modify, if_pos rfl, if_pos rfl, hb]
    rfl
  · have hkeep : (c.modify parent (·.setTarget input (some child))).plug? id = c.plug? id :=
      plug?_modify fun _ => rfl
    rw [plugIn, plug?_eq_bind, block?_modify, if_neg h, if_neg h, ← plug?_eq_bind, hkeep]

/-- Plugging a block in fills the input that is named, and no other. The parent has to be there, and
has to have the input. -/
theorem target?_plugIn {parent input : String} {f : Frame} {slot : Slot}
    (hf : c.frame? parent = some f) (hs : f.slot? input = some slot)
    (child block other : String) :
    (c.plugIn child parent input).target? block other =
      if block = parent ∧ other = input then some child else c.target? block other := by
  have hkeep : (c.plugIn child parent input).target? block other =
      (c.modify parent (·.setTarget input (some child))).target? block other :=
    target?_modify fun _ => rfl
  rw [hkeep, target?_setTarget, hf, Option.bind_some, hs, Option.bind_some]

end Canvas

end TypedBlocks
