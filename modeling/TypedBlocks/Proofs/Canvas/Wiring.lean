import TypedBlocks.Proofs.Canvas.Amended
import TypedBlocks.Proofs.Canvas.Making

/-!
# Wiring

A connection is written down twice, at the block that is plugged in and at the input that holds it.
`Wired` says that the two always agree, that no block holds itself, and that places for statements
stay empty. Every operation on canvases keeps it:

* amendments, because they undo connections at both ends (`Wired.amended`);
* making a block, because a new block has no connections (`Wired.add`);
* plugging a block in, provided that neither end is taken (`Wired.plugIn`).

`Numbered` goes with it: every block has an id that was drawn, so the next id that is drawn is new
as long as the supply never repeats itself.
-/

namespace TypedBlocks.Canvas

variable {ids : IdSupply} {c c' : Canvas}

/-- The two ends of every connection agree, no block holds itself, and no statement is held. This is
what the representation leaves open: each connection is kept at both of its ends. -/
structure Wired (c : Canvas) : Prop where
  /-- a block is plugged into an input just if the input holds the block -/
  plug_iff : ∀ {child parent input},
    c.plug? child = some ⟨parent, input⟩ ↔ c.target? parent input = some child
  /-- no block is held by an input of its own -/
  apart : ∀ block input, c.target? block input ≠ some block
  /-- places for statements hold nothing -/
  body : ∀ {block input f slot}, c.frame? block = some f → f.slot? input = some slot →
    slot.statement = true → c.target? block input = none

/-- All block ids were drawn from the supply, so an id that was not drawn yet is that of no
block. -/
def Numbered (ids : IdSupply) (c : Canvas) : Prop :=
  ∀ id, (c.block? id).isSome → ∃ n, n < c.drawn ∧ ids n = id

/-! ## What follows at once -/

namespace Wired

/-- A block that an input holds is there. -/
theorem block_of_target (h : Wired c) {parent input child : String}
    (ht : c.target? parent input = some child) : (c.block? child).isSome := by
  have hp := h.plug_iff.mpr ht
  rw [plug?_eq_bind] at hp
  cases hb : c.block? child with
  | none =>
    rw [hb] at hp
    cases hp
  | some b => rfl

/-- Two inputs that hold the same block are one. -/
theorem target_unique (h : Wired c) {child parent input parent' input' : String}
    (ht : c.target? parent input = some child) (ht' : c.target? parent' input' = some child) :
    parent = parent' ∧ input = input' := by
  have he := (h.plug_iff.mpr ht).symm.trans (h.plug_iff.mpr ht')
  cases he
  exact ⟨rfl, rfl⟩

/-- A block that is plugged in is held by another one. -/
theorem ne_of_plug (h : Wired c) {child : String} {plug : Plug} (hp : c.plug? child = some plug) :
    child ≠ plug.block := by
  obtain ⟨block, input⟩ := plug
  rintro rfl
  exact h.apart child input (h.plug_iff.mp hp)

/-! ## What keeps it -/

/-- Wiring shows in three views. -/
theorem congr (h : Wired c) (hframe : ∀ id, c'.frame? id = c.frame? id)
    (hplug : ∀ id, c'.plug? id = c.plug? id)
    (htarget : ∀ block input, c'.target? block input = c.target? block input) : Wired c' where
  plug_iff := by
    intro child parent input
    rw [hplug, htarget]
    exact h.plug_iff
  apart block input := by
    rw [htarget]
    exact h.apart block input
  body := by
    intro block input f slot hf hs hst
    rw [hframe] at hf
    rw [htarget]
    exact h.body hf hs hst

theorem of_blocks (h : Wired c) (hblocks : c'.blocks = c.blocks) : Wired c' :=
  h.congr (frame?_of_blocks hblocks) (plug?_of_blocks hblocks) (target?_of_blocks hblocks)

/-- Undoing a connection at the plug of a block undoes it at the input that holds the block. -/
theorem detach (h : Wired c) {child : String} {plug : Plug} (hp : c.plug? child = some plug) :
    Wired (c.detach child plug) where
  plug_iff := by
    intro other parent input
    rw [plug?_detach, target?_detach]
    by_cases ho : other = child
    · -- the child is plugged in nowhere any more, and nothing else holds it
      rw [if_pos ho]
      constructor
      · intro hn
        cases hn
      · intro ht
        split at ht
        · cases ht
        · rename_i hne
          rw [ho] at ht
          have he := hp.symm.trans (h.plug_iff.mpr ht)
          cases he
          exact absurd ⟨rfl, rfl⟩ hne
    · rw [if_neg ho]
      constructor
      · intro hpo
        have ht := h.plug_iff.mp hpo
        rw [if_neg ?_]
        · exact ht
        · rintro ⟨rfl, rfl⟩
          exact ho (Option.some.inj (ht.symm.trans (h.plug_iff.mp hp)))
      · intro ht
        split at ht
        · cases ht
        · exact h.plug_iff.mpr ht
  apart block input := by
    rw [target?_detach]
    split
    · simp
    · exact h.apart block input
  body := by
    intro block input f slot hf hs hst
    rw [frame?_detach] at hf
    rw [target?_detach]
    split
    · rfl
    · exact h.body hf hs hst

/-- Making a connection between two free ends keeps all others. -/
theorem plugIn (h : Wired c) {child parent input : String} {f : Frame} {slot : Slot}
    (hb : (c.block? child).isSome) (hf : c.frame? parent = some f)
    (hs : f.slot? input = some slot) (hstatement : slot.statement = false)
    (hne : child ≠ parent) (hplug : c.plug? child = none)
    (htarget : c.target? parent input = none) : Wired (c.plugIn child parent input) where
  plug_iff := by
    intro other block name
    rw [plug?_plugIn hb, target?_plugIn hf hs]
    by_cases ho : other = child
    · rw [if_pos ho, ho]
      constructor
      · intro he
        cases he
        rw [if_pos ⟨rfl, rfl⟩]
      · intro ht
        split at ht
        · rename_i he
          rw [he.1, he.2]
        · have := h.plug_iff.mpr ht
          rw [hplug] at this
          cases this
    · rw [if_neg ho]
      constructor
      · intro hp
        have ht := h.plug_iff.mp hp
        rw [if_neg ?_]
        · exact ht
        · rintro ⟨rfl, rfl⟩
          rw [htarget] at ht
          cases ht
      · intro ht
        split at ht
        · exact absurd (Option.some.inj ht).symm ho
        · exact h.plug_iff.mpr ht
  apart block name := by
    rw [target?_plugIn hf hs]
    split
    · rename_i he
      rw [he.1]
      exact fun heq => hne (Option.some.inj heq)
    · exact h.apart block name
  body := by
    intro block name f' slot' hf' hs' hst
    rw [frame?_plugIn] at hf'
    rw [target?_plugIn hf hs]
    split
    · rename_i he
      rw [he.1, hf] at hf'
      cases hf'
      rw [he.2, hs] at hs'
      cases hs'
      rw [hstatement] at hst
      cases hst
    · exact h.body hf' hs' hst

/-- A new block changes no connection. -/
theorem add (h : Wired c) {id : String} {b : Block} (hnew : c.block? id = none) (hb : b.Blank) :
    Wired (c.add id b) where
  plug_iff := by
    intro child parent input
    rw [plug?_add hnew hb, target?_add hnew hb]
    exact h.plug_iff
  apart block input := by
    rw [target?_add hnew hb]
    exact h.apart block input
  body := by
    intro block input f slot hf hs hst
    rw [target?_add hnew hb]
    rw [frame?_add] at hf
    split at hf
    · rename_i he
      rw [he, target?_eq_bind, hnew]
      rfl
    · exact h.body hf hs hst

/-- **No amendment puts the wiring out of order**, whatever it is about: it undoes a connection at
both ends, or touches none. -/
theorem amend (h : Wired c) {a : Amendment} (ha : a.apply ids c = .ok c') : Wired c' := by
  rcases a.apply_cases ha with ⟨hblocks, -⟩ | ⟨id, change, hc, rfl⟩ | ⟨child, plug, hp, rfl⟩
  · exact h.of_blocks hblocks
  · exact h.congr (fun _ => frame?_modify hc.frame) (fun _ => plug?_modify hc.parent)
      (fun _ _ => target?_modify hc.inputs)
  · exact h.detach hp

/-- So does any number of amendments. -/
theorem amended (h : Wired c) (ha : Amended ids c c') : Wired c' := by
  induction ha with
  | refl => exact h
  | amend a _ happly ih => exact ih.amend happly
  | draw _ ih => exact ih.of_blocks rfl

end Wired

/-- On an empty canvas there is nothing to be wired. -/
theorem wired_empty : Wired empty where
  plug_iff := by
    intro child parent input
    constructor <;> intro h <;> cases h
  apart _ _ h := by cases h
  body _ _ _ := rfl

/-! ## Numbers -/

theorem numbered_empty : Numbered ids empty := fun _ h => by cases h

namespace Numbered

/-- Pruning makes no block, so the numbers of those that are there are still drawn. -/
theorem pruned (h : Numbered ids c) (hp : Pruned c c') : Numbered ids c' := by
  intro id hid
  rw [hp.block_isSome] at hid
  obtain ⟨n, hn, he⟩ := h id hid
  exact ⟨n, Nat.lt_of_lt_of_le hn hp.drawn, he⟩

/-- The next id is new. -/
theorem block?_next (h : Numbered ids c) (hids : Function.Injective ids) :
    c.block? (ids c.drawn) = none := by
  rw [← Option.not_isSome_iff_eq_none]
  intro hid
  obtain ⟨n, hn, he⟩ := h _ hid
  have := hids he
  omega

/-- A block that is added under an id that was drawn is numbered, as are the others. -/
theorem add (h : Numbered ids c) {id : String} (hid : ∃ n, n < c.drawn ∧ ids n = id) (b : Block) :
    Numbered ids (c.add id b) := by
  intro other hother
  rw [block?_add] at hother
  split at hother
  · rename_i he
    exact he ▸ hid
  · exact h other hother

end Numbered

/-! ## Both together -/

/-- A canvas that is wired, under ids that were drawn. -/
structure Coherent (ids : IdSupply) (c : Canvas) : Prop where
  wired : Wired c
  numbered : Numbered ids c

namespace Coherent

theorem empty : Coherent ids empty := ⟨wired_empty, numbered_empty⟩

/-- It shows in the three views that the wiring shows in. -/
theorem congr (h : Coherent ids c) (hframe : ∀ id, c'.frame? id = c.frame? id)
    (hplug : ∀ id, c'.plug? id = c.plug? id)
    (htarget : ∀ block input, c'.target? block input = c.target? block input)
    (hdrawn : c.drawn ≤ c'.drawn) : Coherent ids c' :=
  ⟨h.wired.congr hframe hplug htarget,
    h.numbered.pruned ⟨hframe, fun id => .inl (hplug id), fun _ _ => .inl (htarget ..), hdrawn⟩⟩

theorem of_blocks (h : Coherent ids c) (hblocks : c'.blocks = c.blocks)
    (hdrawn : c.drawn ≤ c'.drawn) : Coherent ids c' :=
  ⟨h.wired.of_blocks hblocks, h.numbered.pruned (.of_blocks hblocks hdrawn)⟩

/-- Amendments leave a canvas coherent. -/
theorem amended (h : Coherent ids c) (ha : Amended ids c c') : Coherent ids c' :=
  ⟨h.wired.amended ha, h.numbered.pruned ha.pruned⟩

/-- So does pulling a block out. -/
theorem detach (h : Coherent ids c) {child : String} {plug : Plug}
    (hp : c.plug? child = some plug) : Coherent ids (c.detach child plug) :=
  ⟨h.wired.detach hp, h.numbered.pruned (.of_detach child plug)⟩

/-- Making a connection between two free ends. -/
theorem plugIn (h : Coherent ids c) {child parent input : String} {f : Frame} {slot : Slot}
    (hb : (c.block? child).isSome) (hf : c.frame? parent = some f)
    (hs : f.slot? input = some slot) (hstatement : slot.statement = false)
    (hne : child ≠ parent) (hplug : c.plug? child = none)
    (htarget : c.target? parent input = none) : Coherent ids (c.plugIn child parent input) := by
  refine ⟨h.wired.plugIn hb hf hs hstatement hne hplug htarget, fun id hid => ?_⟩
  rw [isSome_congr (frame?_plugIn ..)] at hid
  exact h.numbered id hid

/-- What making a block adds its block to: the blocks are the same, and the id is still free. -/
theorem build_next (hids : Function.Injective ids) (h : Coherent ids c) (d : Definition)
    (preset : Option String) :
    Coherent ids (build ids (c.draw ids).2 d preset).2 ∧
      (build ids (c.draw ids).2 d preset).2.blocks = c.blocks ∧
      (build ids (c.draw ids).2 d preset).2.block? (ids c.drawn) = none ∧
      c.drawn < (build ids (c.draw ids).2 d preset).2.drawn := by
  obtain ⟨hblocks, hdrawn⟩ := build_canvas ids (c.draw ids).2 d preset
  have hblocks : (build ids (c.draw ids).2 d preset).2.blocks = c.blocks := hblocks
  refine ⟨h.of_blocks hblocks (Nat.le_trans (Nat.le_succ _) hdrawn), hblocks, ?_, hdrawn⟩
  rw [block?, hblocks]
  exact h.numbered.block?_next hids

/-- A block is made under an id that was free. -/
theorem block?_made (hids : Function.Injective ids) (h : Coherent ids c) {catalog : Catalog}
    {blockType id : String} {preset : Option String}
    (hc : c.create ids catalog blockType preset = .ok (id, c')) : c.block? id = none := by
  obtain ⟨d, -, rfl, -⟩ := create_eq_ok hc
  exact h.numbered.block?_next hids

/-- **Making a block keeps the wiring**: the new block has a number of its own. -/
theorem create (hids : Function.Injective ids) (h : Coherent ids c) {catalog : Catalog}
    {blockType id : String} {preset : Option String}
    (hc : c.create ids catalog blockType preset = .ok (id, c')) : Coherent ids c' := by
  obtain ⟨d, -, rfl, rfl⟩ := create_eq_ok hc
  obtain ⟨hbuilt, -, hnew, hdrawn⟩ := h.build_next hids d preset
  exact ⟨hbuilt.wired.add hnew (build_blank d preset),
    hbuilt.numbered.add ⟨c.drawn, hdrawn, rfl⟩ _⟩

end Coherent

end TypedBlocks.Canvas
