import TypedBlocks.Canvas.Amendment
import TypedBlocks.Proofs.Canvas.Writing

/-!
# Amended canvases

Whatever happens on a canvas while listeners run happens by amendments, one after the other, and by
drawing ids: this is `Amended`. Two things follow for all of it at once.

* `Amendment.apply_cases` says all that one amendment can do to the blocks: leave them alone, change
  one of them in what is neither its frame nor its wiring, or undo one connection.
* `Pruned` is what remains of that over any number of amendments: no block comes, goes or changes
  its frame, and no connection is made, so every plug and every input is as it was or empty.
-/

namespace TypedBlocks

/-- A change of a block that touches neither its frame nor its wiring. -/
structure Block.Cosmetic (change : Block → Block) : Prop where
  frame : ∀ b, (change b).frame = b.frame
  parent : ∀ b, (change b).parent = b.parent
  inputs : ∀ b, (change b).inputs = b.inputs

namespace Canvas

variable {ids : IdSupply} {c c' : Canvas}

/-! ## What one amendment does -/

theorem retypeVariable_blocks {id type : String} (h : c.retypeVariable id type = .ok c') :
    c'.blocks = c.blocks ∧ c'.drawn = c.drawn := by
  rw [retypeVariable] at h
  split at h
  · cases h
  · cases h
    exact ⟨rfl, rfl⟩

/-- Making sure that a variable is there touches no block, and takes back no id that was drawn. -/
theorem ensureVariable_blocks (name type : String) (id : Option String) :
    (c.ensureVariable ids name type id).2.blocks = c.blocks ∧
      c.drawn ≤ (c.ensureVariable ids name type id).2.drawn := by
  unfold ensureVariable
  split
  · exact ⟨rfl, Nat.le_refl _⟩
  · cases id with
    | none => exact ⟨rfl, Nat.le_succ _⟩
    | some id => exact ⟨rfl, Nat.le_refl _⟩

end Canvas

/-- **All that an amendment can do to the blocks**: nothing, a change of one block that touches
neither frame nor wiring, or undoing one connection. -/
theorem Amendment.apply_cases {ids : IdSupply} {c c' : Canvas} {a : Amendment}
    (h : a.apply ids c = .ok c') :
    (c'.blocks = c.blocks ∧ c.drawn ≤ c'.drawn) ∨
    (∃ id change, Block.Cosmetic change ∧ c' = c.modify id change) ∨
    (∃ child plug, c.plug? child = some plug ∧ c' = c.detach child plug) := by
  cases a with
  | ensureVariable name type id =>
    cases h
    exact .inl (Canvas.ensureVariable_blocks name type id)
  | retypeVariable id type =>
    obtain ⟨hblocks, hdrawn⟩ := Canvas.retypeVariable_blocks h
    exact .inl ⟨hblocks, Nat.le_of_eq hdrawn.symm⟩
  | setOutputTag block tag =>
    obtain ⟨-, rfl⟩ := Canvas.setOutputTag_eq_ok_iff.mp h
    refine .inr (.inl ⟨block, _, ?_, rfl⟩)
    exact ⟨fun _ => rfl, fun _ => rfl, fun _ => rfl⟩
  | pullOut block =>
    obtain ⟨plug, hplug, rfl⟩ := Canvas.pullOut_eq_ok_iff.mp h
    exact .inr (.inr ⟨block, plug, hplug, rfl⟩)
  | clearInput block input =>
    obtain ⟨child, plug, -, hplug, rfl⟩ := Canvas.clearInput_eq_ok_iff.mp h
    exact .inr (.inr ⟨child, plug, hplug, rfl⟩)
  | move block dx dy =>
    obtain ⟨-, rfl⟩ := Canvas.move_eq_ok_iff.mp h
    refine .inr (.inl ⟨block, _, ?_, rfl⟩)
    exact ⟨fun _ => rfl, fun _ => rfl, fun _ => rfl⟩
  | setField block field value =>
    obtain ⟨-, rfl⟩ := Canvas.modifyField_eq_ok_iff.mp h
    refine .inr (.inl ⟨block, _, ?_, rfl⟩)
    exact ⟨fun b => b.frame_modifyField .., fun _ => rfl, fun _ => rfl⟩
  | setChoices block field choices =>
    obtain ⟨-, rfl⟩ := Canvas.modifyField_eq_ok_iff.mp h
    refine .inr (.inl ⟨block, _, ?_, rfl⟩)
    exact ⟨fun b => b.frame_modifyField .., fun _ => rfl, fun _ => rfl⟩

namespace Canvas

variable {ids : IdSupply} {c c' c'' : Canvas}

/-! ## Any number of amendments -/

/-- `c'` comes from `c` by amendments and by drawing ids, in any order and number. What rules and
listeners do to a canvas is of this kind. -/
inductive Amended (ids : IdSupply) (c : Canvas) : Canvas → Prop where
  /-- nothing has happened -/
  | refl : Amended ids c c
  /-- an amendment was made -/
  | amend {c' c'' : Canvas} (a : Amendment) (h : Amended ids c c')
      (happly : a.apply ids c' = .ok c'') : Amended ids c c''
  /-- an id was drawn -/
  | draw {c' : Canvas} (h : Amended ids c c') : Amended ids c (c'.draw ids).2

theorem Amended.trans (h : Amended ids c c') (h' : Amended ids c' c'') : Amended ids c c'' := by
  induction h' with
  | refl => exact h
  | amend a _ happly ih => exact ih.amend a happly
  | draw _ ih => exact ih.draw

/-- One amendment that succeeds is an amendment of any number. -/
theorem Amended.of_apply {a : Amendment} (h : a.apply ids c = .ok c') : Amended ids c c' :=
  Amended.refl.amend a h

/-! ## Pruning -/

/-- No block has come or gone or changed its frame, and no connection was made. Those that there
were may have been undone, at either end for itself. -/
structure Pruned (c c' : Canvas) : Prop where
  frame : ∀ id, c'.frame? id = c.frame? id
  plug : ∀ id, c'.plug? id = c.plug? id ∨ c'.plug? id = none
  target : ∀ block input,
    c'.target? block input = c.target? block input ∨ c'.target? block input = none
  drawn : c.drawn ≤ c'.drawn

namespace Pruned

/-- Canvases with the same blocks have the same views. -/
theorem of_blocks (h : c'.blocks = c.blocks) (hdrawn : c.drawn ≤ c'.drawn) : Pruned c c' where
  frame := frame?_of_blocks h
  plug id := .inl (plug?_of_blocks h id)
  target block input := .inl (target?_of_blocks h block input)
  drawn := hdrawn

theorem refl (c : Canvas) : Pruned c c := of_blocks rfl (Nat.le_refl _)

theorem trans (h : Pruned c c') (h' : Pruned c' c'') : Pruned c c'' where
  frame id := (h'.frame id).trans (h.frame id)
  plug id := by
    rcases h'.plug id with he | he
    · rw [he]
      exact h.plug id
    · exact .inr he
  target block input := by
    rcases h'.target block input with he | he
    · rw [he]
      exact h.target block input
    · exact .inr he
  drawn := Nat.le_trans h.drawn h'.drawn

/-- A cosmetic change of one block only prunes: the frame stays, and nothing is plugged in or held
that was not. -/
theorem of_cosmetic (id : String) {change : Block → Block} (h : Block.Cosmetic change) :
    Pruned c (c.modify id change) where
  frame _ := frame?_modify h.frame
  plug _ := .inl (plug?_modify h.parent)
  target _ _ := .inl (target?_modify h.inputs)
  drawn := Nat.le_refl _

/-- To pull a block out is to prune: one plug and one input become free. -/
theorem of_detach (child : String) (plug : Plug) : Pruned c (c.detach child plug) where
  frame _ := frame?_detach ..
  plug id := by
    rw [plug?_detach]
    split
    · exact .inr rfl
    · exact .inl rfl
  target block input := by
    rw [target?_detach]
    split
    · exact .inr rfl
    · exact .inl rfl
  drawn := Nat.le_refl _

/-- **Every amendment only prunes.** It makes no block and no connection, whatever it is and
whatever it is about. -/
theorem of_apply {a : Amendment} (h : a.apply ids c = .ok c') : Pruned c c' := by
  rcases a.apply_cases h with ⟨hb, hd⟩ | ⟨id, change, hc, rfl⟩ | ⟨child, plug, -, rfl⟩
  · exact of_blocks hb hd
  · exact of_cosmetic id hc
  · exact of_detach child plug

/-- A plug that is left is the plug that was there. -/
theorem plug_some (h : Pruned c c') {id : String} {plug : Plug} (hp : c'.plug? id = some plug) :
    c.plug? id = some plug := by
  rcases h.plug id with he | he
  · rw [← he, hp]
  · rw [he] at hp
    cases hp

theorem plug_none (h : Pruned c c') {id : String} (hp : c.plug? id = none) :
    c'.plug? id = none := by
  rcases h.plug id with he | he
  · rw [he, hp]
  · exact he

theorem target_none (h : Pruned c c') {block input : String} (ht : c.target? block input = none) :
    c'.target? block input = none := by
  rcases h.target block input with he | he
  · rw [he, ht]
  · exact he

/-- Pruning makes no block and removes none. -/
theorem block_isSome (h : Pruned c c') (id : String) :
    (c'.block? id).isSome = (c.block? id).isSome := isSome_congr (h.frame id)

end Pruned

/-- Amendments only prune. -/
theorem Amended.pruned (h : Amended ids c c') : Pruned c c' := by
  induction h with
  | refl => exact .refl c
  | amend a _ happly ih => exact ih.trans (.of_apply happly)
  | draw _ ih => exact ih.trans (.of_blocks rfl (Nat.le_succ _))

end Canvas

end TypedBlocks
