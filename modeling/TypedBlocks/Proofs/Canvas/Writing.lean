import TypedBlocks.Proofs.Canvas.Views

/-!
# What is written on blocks

Amendments that leave the connections alone write on one block: its output (`emit`), its position
(`shift`), or one of its fields (`write`). Each is known by the one view that it changes. Writing
what stands there already changes nothing (`modify_eq_self`), and of two things written in one
place the last counts (`modify_modify`). Writing and connecting do not get in the way of each other
(`emit_plugIn`, `plugIn_comm`).
-/

namespace TypedBlocks

/-! ## Changing twice, or not at all -/

namespace Table

variable {κ β : Type} [DecidableEq κ]

theorem modify_modify (t : Table κ β) (key : κ) (first second : β → β) :
    (t.modify key first).modify key second = t.modify key fun v => second (first v) := by
  refine ext_get? (by simp) fun other => ?_
  simp only [get?_modify]
  split
  · simp [Function.comp_def]
  · rfl

/-- Changes can be made in either order, if they are of different keys or do not interfere. -/
theorem modify_comm (t : Table κ β) {key other : κ} {first second : β → β}
    (h : key = other → ∀ v, second (first v) = first (second v)) :
    (t.modify key first).modify other second = (t.modify other second).modify key first := by
  refine ext_get? (by simp) fun k => ?_
  simp only [get?_modify]
  by_cases hk : k = key
  · by_cases ho : k = other
    · simp only [if_pos hk, if_pos ho, Option.map_map]
      exact congrArg (Option.map · (t.get? k)) (funext (h (hk.symm.trans ho)))
    · simp [ho]
  · simp [hk]

/-- A change that changes nothing of the value that is there is no change. -/
theorem modify_eq_self {t : Table κ β} {key : κ} {change : β → β}
    (h : ∀ v, t.get? key = some v → change v = v) : t.modify key change = t := by
  refine ext_get? (by simp) fun other => ?_
  rw [get?_modify]
  split
  · rename_i he
    rw [he]
    cases hv : t.get? key with
    | none => rfl
    | some v => rw [Option.map_some, h v hv]
  · rfl

end Table

namespace Canvas

variable {c c' : Canvas}

theorem modify_modify (c : Canvas) (id : String) (first second : Block → Block) :
    (c.modify id first).modify id second = c.modify id fun b => second (first b) := by
  simp only [modify, Table.modify_modify]

/-- Changes to two blocks commute, and so do changes to one if they commute as functions. -/
theorem modify_comm (c : Canvas) (id other : String) {first second : Block → Block}
    (h : id = other → ∀ b, second (first b) = first (second b)) :
    (c.modify id first).modify other second = (c.modify other second).modify id first := by
  simp only [modify, Table.modify_comm c.blocks h]

/-- A change that leaves the block as it is leaves the canvas as it is. -/
theorem modify_eq_self {id : String} {change : Block → Block}
    (h : ∀ b, c.block? id = some b → change b = b) : c.modify id change = c := by
  rw [modify, Table.modify_eq_self h]

/-! ## Writing -/

/-- Gives a block an output of one tag: what `setOutputTag` does where it succeeds. -/
def emit (c : Canvas) (block : String) (tag : Tag) : Canvas :=
  c.modify block fun b => { b with hasOutput := true, outputCheck := some [tag.text] }

/-- Moves a block: what `move` does where it succeeds. -/
def shift (c : Canvas) (block : String) (dx dy : Float) : Canvas :=
  c.modify block fun b => { b with position := (b.position.1 + dx, b.position.2 + dy) }

/-- Sets a field that a block has, value and entries at once. The rules set one after the other. -/
def write (c : Canvas) (block field : String) (f : Field) : Canvas :=
  c.modify block fun b => { b with fields := b.fields.modify field fun _ => f }

/-- Giving a block an output succeeds just if the block is there, and does what `emit` does. -/
theorem setOutputTag_eq_ok_iff {block : String} {tag : Tag} :
    c.setOutputTag block tag = .ok c' ↔ (c.block? block).isSome ∧ c' = c.emit block tag := by
  rw [setOutputTag, emit]
  cases c.block? block <;> simp [eq_comm]

theorem setOutputTag_eq_ok {block : String} (hb : (c.block? block).isSome) (tag : Tag) :
    c.setOutputTag block tag = .ok (c.emit block tag) := setOutputTag_eq_ok_iff.mpr ⟨hb, rfl⟩

/-- Moving a block succeeds just if the block is there, and does what `shift` does. -/
theorem move_eq_ok_iff {block : String} {dx dy : Float} :
    c.move block dx dy = .ok c' ↔ (c.block? block).isSome ∧ c' = c.shift block dx dy := by
  rw [move, shift]
  cases c.block? block <;> simp [eq_comm]

/-- Changing a field succeeds just if there is such a block, and it has such a field. -/
theorem modifyField_eq_ok_iff {block field : String} {change : Field → Field} :
    c.modifyField block field change = .ok c' ↔ (c.field? block field).isSome ∧
      c' = c.modify block fun b => { b with fields := b.fields.modify field change } := by
  rw [field?_eq_bind]
  rw [modifyField]
  cases hb : c.block? block with
  | none => simp
  | some b => cases hf : b.fields.get? field <;> simp [hf, eq_comm]

/-- Writing what stands in a field already changes nothing, and where there is no such field,
nothing is written. -/
theorem write_eq_self {block field : String} {f : Field}
    (h : ∀ g, c.field? block field = some g → f = g) : c.write block field f = c := by
  refine modify_eq_self fun b hb => ?_
  rw [Table.modify_eq_self fun g hg => ?_]
  refine h g ?_
  rw [field?_eq_bind, hb]
  exact hg

/-- Giving a block the output that it has changes nothing. -/
theorem emit_eq_self {block : String} {tag : Tag}
    (h : c.output? block = some (true, some [tag.text])) : c.emit block tag = c := by
  refine modify_eq_self fun b hb => ?_
  rw [output?, hb, Option.map_some, Option.some.injEq, Prod.mk.injEq] at h
  rw [← h.1, ← h.2]

/-- Setting the entries of a dropdown and then its value sets all of the field. Where there is no
such field, neither can be done. -/
theorem setChoices_setField (c : Canvas) (block field : String) (choices : List Choice)
    (value : String) :
    ((c.field? block field).isSome ∧ ∃ c', c.setChoices block field choices = .ok c' ∧
        c'.setField block field value = .ok (c.write block field ⟨value, choices⟩)) ∨
    (c.field? block field = none ∧ c.write block field ⟨value, choices⟩ = c ∧
      ∃ fault, c.setChoices block field choices = .error fault) := by
  cases hf : c.field? block field with
  | some f =>
    -- the second amendment finds the field as well, and overwrites what the first left of it
    refine .inl ⟨rfl, _, modifyField_eq_ok_iff.mpr ⟨by rw [hf]; rfl, rfl⟩, ?_⟩
    refine modifyField_eq_ok_iff.mpr ⟨?_, ?_⟩
    · obtain ⟨b, hb, hget⟩ := Option.bind_eq_some_iff.mp hf
      rw [field?_eq_bind, block?_modify, if_pos rfl]
      have hb : c.block? block = some b := hb
      simp [hb, hget]
    · rw [modify_modify, write]
      simp only [Table.modify_modify]
  | none =>
    refine .inr ⟨rfl, write_eq_self fun g hg => ?_, ?_⟩
    · rw [hf] at hg
      cases hg
    · cases hset : c.setChoices block field choices with
      | error fault => exact ⟨fault, rfl⟩
      | ok c' =>
        have hsome := (modifyField_eq_ok_iff.mp hset).1
        rw [hf] at hsome
        cases hsome

/-! ## Order -/

/-- Two connections can be made in either order, if neither end is shared. -/
theorem plugIn_comm (c : Canvas) {child parent input child' parent' input' : String}
    (hchild : child ≠ child') (hparent : parent ≠ parent') :
    (c.plugIn child parent input).plugIn child' parent' input' =
      (c.plugIn child' parent' input').plugIn child parent input := by
  simp only [plugIn]
  -- the second connection goes past the plug of the first, and then past its input
  rw [modify_comm (c.modify parent _) child parent', modify_comm c parent parent',
    modify_comm _ child child', modify_comm (c.modify parent' _) parent child']
  · exact fun _ _ => rfl
  · exact fun he => absurd he hchild
  · exact fun he => absurd he hparent
  · exact fun _ _ => rfl

/-- Giving a block an output and plugging a block in can be done in either order. -/
theorem emit_plugIn (c : Canvas) (block : String) (tag : Tag) (child parent input : String) :
    (c.emit block tag).plugIn child parent input =
      (c.plugIn child parent input).emit block tag := by
  simp only [plugIn, emit]
  rw [modify_comm c block parent, modify_comm _ block child] <;> exact fun _ _ => rfl

/-! ## Views of what is written -/

section Views

variable (c) (block other name field : String) (tag : Tag) (dx dy : Float) (f : Field)

@[simp] theorem frame?_emit : (c.emit block tag).frame? other = c.frame? other :=
  frame?_modify fun _ => rfl

@[simp] theorem plug?_emit : (c.emit block tag).plug? other = c.plug? other :=
  plug?_modify fun _ => rfl

@[simp] theorem target?_emit : (c.emit block tag).target? other name = c.target? other name :=
  target?_modify fun _ => rfl

@[simp] theorem field?_emit : (c.emit block tag).field? other name = c.field? other name :=
  field?_modify fun _ => rfl

/-- A block that was given an output has that one, for the text of the tag; others have theirs. -/
theorem output?_emit :
    (c.emit block tag).output? other =
      if other = block then (c.output? other).map fun _ => (true, some [tag.text])
      else c.output? other := by
  rw [output?, emit, block?_modify]
  split
  · simp [output?, Function.comp_def]
  · rfl

@[simp] theorem frame?_shift : (c.shift block dx dy).frame? other = c.frame? other :=
  frame?_modify fun _ => rfl

@[simp] theorem plug?_shift : (c.shift block dx dy).plug? other = c.plug? other :=
  plug?_modify fun _ => rfl

@[simp] theorem target?_shift : (c.shift block dx dy).target? other name = c.target? other name :=
  target?_modify fun _ => rfl

@[simp] theorem field?_shift : (c.shift block dx dy).field? other name = c.field? other name :=
  field?_modify fun _ => rfl

@[simp] theorem output?_shift : (c.shift block dx dy).output? other = c.output? other :=
  output?_modify (fun _ => rfl) fun _ => rfl

@[simp] theorem tag_shift : (c.shift block dx dy).tag other = c.tag other :=
  tag_congr (output?_shift ..)

@[simp] theorem frame?_write : (c.write block field f).frame? other = c.frame? other :=
  frame?_modify fun b => b.frame_modifyField ..

@[simp] theorem plug?_write : (c.write block field f).plug? other = c.plug? other :=
  plug?_modify fun _ => rfl

@[simp] theorem target?_write : (c.write block field f).target? other name = c.target? other name :=
  target?_modify fun _ => rfl

@[simp] theorem output?_write : (c.write block field f).output? other = c.output? other :=
  output?_modify (fun _ => rfl) fun _ => rfl

@[simp] theorem tag_write : (c.write block field f).tag other = c.tag other :=
  tag_congr (output?_write ..)

/-- A field that was written is as it was written, if the block has it; other fields are as
before. -/
theorem field?_write :
    (c.write block field f).field? other name =
      if other = block ∧ name = field then (c.field? other name).map fun _ => f
      else c.field? other name := by
  rw [field?_eq_bind, field?_eq_bind, write, block?_modify]
  by_cases ho : other = block
  · cases hb : c.block? other with
    | none => simp [ho]
    | some b =>
      simp only [ho, if_true, Option.map_some, Option.bind_some, Table.get?_modify, true_and]
  · simp [ho]

end Views

/-- A block that was given an output has it. -/
theorem output?_emit_self {block : String} (hb : (c.block? block).isSome) (tag : Tag) :
    (c.emit block tag).output? block = some (true, some [tag.text]) := by
  obtain ⟨b, hb⟩ := Option.isSome_iff_exists.mp hb
  rw [output?_emit, if_pos rfl, output?, hb]
  rfl

/-- The tag of a block is read back from the text of the tag that it was given, so it is that tag if
it is canonical. -/
theorem tag_emit_self {block : String} (hb : (c.block? block).isSome) (tag : Tag) :
    (c.emit block tag).tag block = Tag.ofText tag.text :=
  tag_eq_of_output? (output?_emit_self hb tag)

theorem tag_emit_ne {block other : String} (h : other ≠ block) (tag : Tag) :
    (c.emit block tag).tag other = c.tag other := by
  refine tag_congr ?_
  rw [output?_emit, if_neg h]

end Canvas

end TypedBlocks
