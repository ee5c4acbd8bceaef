import TypedBlocks.Canvas.Create
import TypedBlocks.Proofs.Canvas.Views

/-!
# New blocks

A block that was just made is *blank*: it is plugged in nowhere and holds nothing. Putting it on a
canvas under an id that no block has changes no plug and no input, so all that new blocks do to a
canvas is said by `frame?_add` and its kin. `create_eq_ok` reduces making a block of a type to
that: the id is the next one drawn, and what the pickers draw behind it touches no block.
-/

namespace TypedBlocks

/-- A block that is plugged in nowhere and holds nothing, as every new block is. -/
structure Block.Blank (b : Block) : Prop where
  parent : b.parent = none
  target : ∀ input, b.target? input = none

namespace Canvas

variable {ids : IdSupply} {c : Canvas}

/-! ## Building -/

/-- What binding a picker keeps, making a block keeps: no other part of a message touches the
canvas. -/
theorem build_keeps {P : Canvas → Prop}
    (hpick : ∀ c preset type, P c → P (pickVariable ids c preset type).2) (h : P c)
    (d : Definition) (preset : Option String) : P (c.build ids d preset).2 := by
  suffices hgo : ∀ (parts : List Definition.Part) (draft : Draft), P draft.canvas →
      P (parts.foldl (Draft.addPart ids preset) draft).canvas from hgo d.parts { canvas := c } h
  intro parts
  induction parts with
  | nil => exact fun _ h => h
  | cons part parts ih =>
    intro draft h
    refine ih _ ?_
    cases part with
    | picker name types default => exact hpick _ _ _ h
    | _ => exact h

/-- Binding a picker touches no block of the canvas, it may only draw an id. -/
theorem pickVariable_canvas (ids : IdSupply) (c : Canvas) (preset : Option String) (type : String) :
    (c.pickVariable ids preset type).2.blocks = c.blocks ∧
      c.drawn ≤ (c.pickVariable ids preset type).2.drawn := by
  rw [pickVariable]
  split
  · exact ⟨rfl, Nat.le_refl _⟩
  · split
    · exact ⟨rfl, Nat.le_refl _⟩
    · unfold ensureVariable
      split
      · exact ⟨rfl, Nat.le_refl _⟩
      · exact ⟨rfl, Nat.le_succ _⟩

theorem build_canvas (ids : IdSupply) (c : Canvas) (d : Definition) (preset : Option String) :
    (c.build ids d preset).2.blocks = c.blocks ∧ c.drawn ≤ (c.build ids d preset).2.drawn := by
  refine build_keeps (P := fun c' => c'.blocks = c.blocks ∧ c.drawn ≤ c'.drawn) ?_
    ⟨rfl, Nat.le_refl _⟩ d preset
  intro c' preset type h
  obtain ⟨hblocks, hdrawn⟩ := pickVariable_canvas ids c' preset type
  exact ⟨hblocks.trans h.1, Nat.le_trans h.2 hdrawn⟩

/-- No input of a draft holds anything. -/
def Draft.Vacant (draft : Draft) : Prop :=
  ∀ input, (draft.inputs.get? input).bind Input.target = none

theorem Draft.Vacant.addPart {draft : Draft} (h : draft.Vacant) (preset : Option String)
    (part : Definition.Part) : (draft.addPart ids preset part).Vacant := by
  intro input
  cases part with
  | input name check =>
    simp only [Draft.addPart, Table.get?_put]
    split
    · rfl
    · exact h input
  | statements name =>
    simp only [Draft.addPart, Table.get?_put]
    split
    · rfl
    · exact h input
  | _ => exact h input

theorem build_blank (d : Definition) (preset : Option String) :
    (c.build ids d preset).1.Blank where
  parent := rfl
  target := by
    suffices h : ∀ (parts : List Definition.Part) (draft : Draft), draft.Vacant →
        (parts.foldl (Draft.addPart ids preset) draft).Vacant from
      h d.parts { canvas := c } fun _ => rfl
    intro parts
    induction parts with
    | nil => exact fun _ h => h
    | cons part parts ih => exact fun draft h => ih _ (h.addPart preset part)

/-! ## Adding -/

/-- Puts a block on a canvas, under an id that callers know to be free. -/
def add (c : Canvas) (id : String) (b : Block) : Canvas := { c with blocks := c.blocks.put id b }

theorem block?_add (id : String) (b : Block) (other : String) :
    (c.add id b).block? other = if other = id then some b else c.block? other :=
  Table.get?_put ..

theorem frame?_add (id : String) (b : Block) (other : String) :
    (c.add id b).frame? other = if other = id then some b.frame else c.frame? other := by
  simp only [frame?, block?_add]
  split <;> rfl

theorem output?_add (id : String) (b : Block) (other : String) :
    (c.add id b).output? other =
      if other = id then some (b.hasOutput, b.outputCheck) else c.output? other := by
  simp only [output?, block?_add]
  split <;> rfl

theorem field?_add (id : String) (b : Block) (other field : String) :
    (c.add id b).field? other field =
      if other = id then b.fields.get? field else c.field? other field := by
  simp only [field?_eq_bind, block?_add]
  split <;> rfl

/-- A blank block under a new id is plugged in nowhere, as no block was before. -/
theorem plug?_add {id : String} {b : Block} (hnew : c.block? id = none) (hb : b.Blank)
    (other : String) : (c.add id b).plug? other = c.plug? other := by
  rw [plug?_eq_bind, plug?_eq_bind, block?_add]
  by_cases h : other = id
  · rw [if_pos h, h, hnew, Option.bind_some, hb.parent]
    rfl
  · rw [if_neg h]

/-- A blank block under a new id holds nothing, as no block did before. -/
theorem target?_add {id : String} {b : Block} (hnew : c.block? id = none) (hb : b.Blank)
    (block input : String) : (c.add id b).target? block input = c.target? block input := by
  rw [target?_eq_bind, target?_eq_bind, block?_add]
  by_cases h : block = id
  · rw [if_pos h, h, hnew, Option.bind_some, hb.target]
    rfl
  · rw [if_neg h]

/-! ## Making a block of a type -/

/-- **What making a block comes to**: the catalog has a definition of the type, and the block built
from it is added under the id drawn before anything else. -/
theorem create_eq_ok {catalog : Catalog} {blockType id : String} {preset : Option String}
    {c' : Canvas} (h : c.create ids catalog blockType preset = .ok (id, c')) :
    ∃ d, catalog.definition? blockType = some d ∧ id = ids c.drawn ∧
      c' = ((c.draw ids).2.build ids d preset).2.add id
        ((c.draw ids).2.build ids d preset).1 := by
  rw [create, Catalog.shared] at h
  cases hp : catalog.poisoned with
  | true => simp [hp, bind, Except.bind] at h
  | false =>
    cases hd : catalog.definition? blockType with
    | none => simp [hp, hd, bind, Except.bind, throw, throwThe, MonadExceptOf.throw] at h
    | some d =>
      simp only [hp, hd, bind, Except.bind, pure, Except.pure, Bool.false_eq_true, if_false,
        Except.ok.injEq, Prod.mk.injEq] at h
      obtain ⟨rfl, rfl⟩ := h
      exact ⟨d, rfl, rfl, rfl⟩

end Canvas

end TypedBlocks
