import Mathlib.Logic.Relation
import TypedBlocks.Proofs.Canvas.Wiring

/-!
# Nesting

A block is inside another if it is plugged into it, or into a block that is inside it. A canvas is a
forest if no block is inside itself. Being wired is not enough for that: it only says that no block
is plugged into itself, but blocks can still be plugged into each other in a ring.

Pulling blocks out and making new ones keeps a forest (`Forest.pruned`, `Forest.add`). Plugging a
block in keeps it just if the parent is not inside the child: every new ring goes through the new
connection, and all but that connection was there before (`Inside.of_plugIn`).
-/

namespace TypedBlocks.Canvas

variable {c c' : Canvas} {child parent : String}

theorem holder?_eq_some {block holder : String} :
    c.holder? block = some holder ↔ ∃ input, c.plug? block = some ⟨holder, input⟩ := by
  rw [holder?, Option.map_eq_some_iff]
  constructor
  · rintro ⟨plug, hp, rfl⟩
    exact ⟨plug.input, hp⟩
  · rintro ⟨input, hp⟩
    exact ⟨_, hp, rfl⟩

theorem holder?_congr {block : String} (h : c'.plug? block = c.plug? block) :
    c'.holder? block = c.holder? block := by
  rw [holder?, holder?, h]

/-- A block is plugged into another, or into one that is inside the other: the transitive closure of
the one step from a block to its holder. -/
def Inside (c : Canvas) : String → String → Prop :=
  Relation.TransGen fun block holder => c.holder? block = some holder

/-- No block is inside itself, so from every block the holders lead to one that is plugged in
nowhere. -/
def Forest (c : Canvas) : Prop := ∀ block, ¬ c.Inside block block

theorem Inside.mono {a b : String} (h : c'.Inside a b)
    (hkept : ∀ block holder, c'.holder? block = some holder → c.holder? block = some holder) :
    c.Inside a b :=
  Relation.TransGen.mono hkept a b h

/-- A block stays inside another if the connections between the two are kept. -/
theorem Inside.of_between {a b : String} (h : c.Inside a b)
    (hkept : ∀ block, block = a ∨ c.Inside a block → c.Inside block b →
      c'.holder? block = c.holder? block) : c'.Inside a b := by
  -- by induction on the connections between the two, from `a` outwards
  induction h with
  | single hab =>
    exact .single ((hkept a (.inl rfl) (.single hab)).trans hab)
  | @tail m b ham hmb ih =>
    refine (ih fun block hfrom hto => hkept block hfrom (hto.tail hmb)).tail ?_
    exact (hkept m (.inr ham) (.single hmb)).trans hmb

/-- What is inside another block is plugged in. -/
theorem Inside.plug {a b : String} (h : c.Inside a b) : ∃ plug, c.plug? a = some plug := by
  obtain ⟨holder, hfirst, -⟩ := Relation.TransGen.head'_iff.mp h
  obtain ⟨input, hp⟩ := holder?_eq_some.mp hfirst
  exact ⟨_, hp⟩

/-! ## What keeps a forest -/

theorem forest_empty : Forest empty := by
  intro block h
  obtain ⟨plug, hp⟩ := h.plug
  cases hp

theorem Forest.of_blocks (h : Forest c) (hblocks : c'.blocks = c.blocks) : Forest c' :=
  fun block hb => h block (hb.mono fun a holder ha => by
    rw [← ha]
    exact holder?_congr (by rw [plug?_eq_bind, plug?_eq_bind, block?, block?, hblocks]))

theorem Pruned.holder (h : Pruned c c') {block holder : String}
    (hh : c'.holder? block = some holder) : c.holder? block = some holder := by
  obtain ⟨input, hp⟩ := holder?_eq_some.mp hh
  exact holder?_eq_some.mpr ⟨input, h.plug_some hp⟩

/-- Pruning makes no connection. -/
theorem Forest.pruned (h : Forest c) (hp : Pruned c c') : Forest c' :=
  fun block hb => h block (hb.mono fun _ _ => hp.holder)

/-- A new block is in no other, and holds none. -/
theorem Forest.add (h : Forest c) {id : String} {b : Block} (hnew : c.block? id = none)
    (hb : b.Blank) : Forest (c.add id b) :=
  fun block hin => h block (hin.mono fun a holder ha => by
    rw [← ha]
    exact (holder?_congr (plug?_add hnew hb a)).symm)

/-- **Plugging a block into one that is inside it closes a ring.** Neither pulling the block out of
where it was nor freeing the input takes the one out of the other. -/
theorem Forest.ring_of_connected (h : Forest c) (hw : Wired c) (input : String)
    (hin : c.Inside parent child) (hchild : c'.holder? child = some parent)
    (hkept : ∀ block, block ≠ child → c.target? parent input ≠ some block →
      c'.holder? block = c.holder? block) : c'.Inside child child := by
  refine .head hchild (hin.of_between fun block hfrom hto => hkept block ?_ fun ht => ?_)
  · rintro rfl
    exact h block hto
  · have hback : c.Inside block parent :=
      .single (holder?_eq_some.mpr ⟨input, hw.plug_iff.mpr ht⟩)
    rcases hfrom with rfl | hfrom
    · exact h block hback
    · exact h block (hback.trans hfrom)

/-! ## One more connection -/

section PlugIn

variable {input : String}

theorem holder?_plugIn (hb : (c.block? child).isSome) (block : String) :
    (c.plugIn child parent input).holder? block =
      if block = child then some parent else c.holder? block := by
  rw [holder?, plug?_plugIn hb]
  split <;> rfl

/-- **What a new connection nests**: what was in the child or is the child, in what the parent was
in or is. -/
theorem Inside.of_plugIn (hb : (c.block? child).isSome) {a b : String}
    (h : (c.plugIn child parent input).Inside a b) :
    c.Inside a b ∨ (a = child ∨ c.Inside a child) ∧ (b = parent ∨ c.Inside parent b) := by
  -- by induction on the connections between the two, from `a` outwards
  induction h with
  | single hab =>
    rw [holder?_plugIn hb] at hab
    split at hab
    · rename_i ha
      cases hab
      exact .inr ⟨.inl ha, .inl rfl⟩
    · exact .inl (.single hab)
  | @tail m b _ hmb ih =>
    rw [holder?_plugIn hb] at hmb
    split at hmb
    · rename_i hm
      cases hmb
      subst hm
      rcases ih with ham | ⟨ha, -⟩
      · exact .inr ⟨.inr ham, .inl rfl⟩
      · exact .inr ⟨ha, .inl rfl⟩
    · rcases ih with ham | ⟨ha, rfl | hm⟩
      · exact .inl (ham.tail hmb)
      · exact .inr ⟨ha, .inr (.single hmb)⟩
      · exact .inr ⟨ha, .inr (hm.tail hmb)⟩

/-- A connection closes no ring unless the parent is inside the child. -/
theorem Forest.plugIn (h : Forest c) (hb : (c.block? child).isSome) (hne : child ≠ parent)
    (hin : ¬ c.Inside parent child) : Forest (c.plugIn child parent input) := by
  intro block hring
  rcases hring.of_plugIn hb with hold | ⟨rfl | hfrom, rfl | hto⟩
  · exact h block hold
  · exact hne rfl
  · exact hin hto
  · exact hin hfrom
  · exact hin (hto.trans hfrom)

end PlugIn

end TypedBlocks.Canvas
