import TypedBlocks.Proofs.Canvas.Writing

/-!
# Undoing connections

Making a connection and undoing it are inverse to each other, where the ends are free or plugged
into each other to begin with (`detach_plugIn`, `plugIn_detach`). What is written on blocks
meanwhile stays written: writing goes past either of them, and so does one connection past the other
(`detach_plugIn_comm`). Of two outputs, or two fields, written in one place the last counts.
-/

namespace TypedBlocks

/-! ## Ends -/

namespace Block

theorem setTarget_setTarget (b : Block) (input : String) (first second : Option String) :
    (b.setTarget input first).setTarget input second = b.setTarget input second := by
  simp only [setTarget, Table.modify_modify]

/-- Setting an input to what it holds changes nothing. -/
theorem setTarget_eq_self {b : Block} {input : String} {target : Option String}
    (h : b.target? input = target) : b.setTarget input target = b := by
  rw [setTarget, Table.modify_eq_self fun i hi => ?_]
  rw [← h, target?, hi, Option.bind_some]

end Block

namespace Canvas

variable {c : Canvas} {block child parent input : String}

theorem setTarget_eq_self {target : Option String} (h : c.target? block input = target) :
    c.modify block (·.setTarget input target) = c := by
  refine modify_eq_self fun b hb => Block.setTarget_eq_self ?_
  rw [← h, target?_eq_bind, hb, Option.bind_some]

theorem setPlug_eq_self {plug : Option Plug} (h : c.plug? block = plug) :
    (c.modify block fun b => { b with parent := plug }) = c := by
  refine modify_eq_self fun b hb => ?_
  rw [← h, plug?_eq_bind, hb, Option.bind_some]

/-- Where a block is plugged in can be set before or after what an input holds. -/
theorem setPlug_setTarget (c : Canvas) (child parent input : String) (plug : Option Plug)
    (target : Option String) :
    (c.modify child fun b => { b with parent := plug }).modify parent (·.setTarget input target) =
      (c.modify parent (·.setTarget input target)).modify child
        fun b => { b with parent := plug } :=
  modify_comm c child parent fun _ _ => rfl

/-- A connection concerns the inputs of its parent alone. -/
theorem target?_plugIn_ne (h : block ≠ parent) (child other : String) :
    (c.plugIn child parent input).target? block other = c.target? block other := by
  have hkeep : (c.plugIn child parent input).target? block other =
      (c.modify parent (·.setTarget input (some child))).target? block other :=
    target?_modify fun _ => rfl
  rw [hkeep, target?_setTarget, if_neg fun hand => h hand.1]

/-! ## There and back -/

/-- **A connection between free ends can be undone**, and all is as before. The ends have to be free
because making it overwrites what is there. -/
theorem detach_plugIn (hplug : c.plug? child = none) (hfree : c.target? parent input = none) :
    (c.plugIn child parent input).detach child ⟨parent, input⟩ = c := by
  simp only [plugIn, detach, modify_modify]
  rw [setPlug_setTarget, modify_modify]
  simp only [Block.setTarget_setTarget]
  rw [setTarget_eq_self hfree, setPlug_eq_self hplug]

/-- **A connection that was undone can be made again**, and all is as before. Its two ends have to
have agreed. -/
theorem plugIn_detach (hplug : c.plug? child = some ⟨parent, input⟩)
    (hheld : c.target? parent input = some child) :
    (c.detach child ⟨parent, input⟩).plugIn child parent input = c := by
  simp only [plugIn, detach, modify_modify, Block.setTarget_setTarget]
  rw [setPlug_setTarget, modify_modify, setTarget_eq_self hheld, setPlug_eq_self hplug]

/-! ## Writing in between -/

/-- Of two outputs given to a block the last counts. -/
theorem emit_emit (c : Canvas) (block : String) (first second : Tag) :
    (c.emit block first).emit block second = c.emit block second := modify_modify ..

/-- Of two contents written to a field the last counts. -/
theorem write_write (c : Canvas) (block field : String) (first second : Field) :
    (c.write block field first).write block field second = c.write block field second := by
  simp only [write, modify_modify, Table.modify_modify]

/-- A change that leaves the ends of connections alone can be made before or after a connection. -/
theorem modify_plugIn {change : Block → Block}
    (hplug : ∀ b plug, change { b with parent := plug } = { change b with parent := plug })
    (htarget : ∀ b input target, change (b.setTarget input target) =
      (change b).setTarget input target) (c : Canvas) (block child parent input : String) :
    (c.modify block change).plugIn child parent input =
      (c.plugIn child parent input).modify block change := by
  simp only [plugIn]
  rw [modify_comm c block parent fun _ b => (htarget b _ _).symm,
    modify_comm _ block child fun _ b => (hplug b _).symm]

/-- A change that leaves the ends of connections alone can be made before or after one is undone. -/
theorem modify_detach {change : Block → Block}
    (hplug : ∀ b plug, change { b with parent := plug } = { change b with parent := plug })
    (htarget : ∀ b input target, change (b.setTarget input target) =
      (change b).setTarget input target) (c : Canvas) (block child : String) (plug : Plug) :
    (c.modify block change).detach child plug = (c.detach child plug).modify block change := by
  simp only [detach]
  rw [modify_comm c block child fun _ b => (hplug b _).symm,
    modify_comm _ block plug.block fun _ b => (htarget b _ _).symm]

theorem write_plugIn (c : Canvas) (block field : String) (f : Field) (child parent input : String) :
    (c.write block field f).plugIn child parent input =
      (c.plugIn child parent input).write block field f :=
  modify_plugIn (fun _ _ => rfl) (fun _ _ _ => rfl) ..

theorem shift_plugIn (c : Canvas) (block : String) (dx dy : Float) (child parent input : String) :
    (c.shift block dx dy).plugIn child parent input =
      (c.plugIn child parent input).shift block dx dy :=
  modify_plugIn (fun _ _ => rfl) (fun _ _ _ => rfl) ..

theorem emit_detach (c : Canvas) (block : String) (tag : Tag) (child : String) (plug : Plug) :
    (c.emit block tag).detach child plug = (c.detach child plug).emit block tag :=
  modify_detach (fun _ _ => rfl) (fun _ _ _ => rfl) ..

theorem write_detach (c : Canvas) (block field : String) (f : Field) (child : String)
    (plug : Plug) :
    (c.write block field f).detach child plug = (c.detach child plug).write block field f :=
  modify_detach (fun _ _ => rfl) (fun _ _ _ => rfl) ..

theorem emit_shift (c : Canvas) (block other : String) (tag : Tag) (dx dy : Float) :
    (c.emit block tag).shift other dx dy = (c.shift other dx dy).emit block tag :=
  modify_comm c block other fun _ _ => rfl

theorem emit_write (c : Canvas) (block other field : String) (tag : Tag) (f : Field) :
    (c.emit block tag).write other field f = (c.write other field f).emit block tag :=
  modify_comm c block other fun _ _ => rfl

/-- One connection can be made before or after another is undone, if neither end is shared. -/
theorem detach_plugIn_comm (c : Canvas) {child parent input other : String} {plug : Plug}
    (hchild : other ≠ child) (hparent : plug.block ≠ parent) :
    (c.detach other plug).plugIn child parent input =
      (c.plugIn child parent input).detach other plug := by
  simp only [plugIn, detach]
  -- the new connection goes past the input that is emptied, and then past the plug that is cleared
  rw [modify_comm (c.modify other _) plug.block parent, modify_comm c other parent,
    modify_comm _ plug.block child, modify_comm (c.modify parent _) other child]
  · exact fun he => absurd he hchild
  · exact fun _ _ => rfl
  · exact fun _ _ => rfl
  · exact fun he => absurd he hparent

end Canvas

end TypedBlocks
