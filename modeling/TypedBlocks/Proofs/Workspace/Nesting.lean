import TypedBlocks.Proofs.Workspace.Recording

/-!
# Connecting and rings

Connecting refuses to plug a block into itself, but not into a block that is inside it. That is the
only way in which it can leave the forests, whoever listens (`forest_connect`); and where nobody
listens, it always does so (`connect_ring_of_nobody`).
-/

namespace TypedBlocks

open Canvas

variable {ids : IdSupply}

namespace Workspace

variable {w : Workspace} {child parent input : String}

/-- Connecting keeps a forest, unless the parent is inside the child by the time that both ends are
cleared. -/
theorem forest_connect_of_cleared (h : Forest w.canvas)
    (hin : Fits w.canvas child parent input →
      ¬ ((w.vacate ids child).1.evict ids child
        (w.canvas.target? parent input)).1.canvas.Inside parent child) :
    Forest (w.connect ids child parent input).1.canvas := by
  have hpruned := clear_pruned ids w child parent input
  rcases connect_cases ids w child parent input with
    ⟨fault, -, he⟩ | ⟨hfits, ⟨fault, -, he⟩ | ⟨-, he⟩⟩
  · rw [he]
    exact h
  · rw [he]
    exact h.pruned hpruned
  · rw [he]
    refine Forest.pruned ?_ (report_amended _ _).pruned
    refine (h.pruned hpruned).plugIn ?_ hfits.apart (hin hfits)
    rw [hpruned.block_isSome]
    exact hfits.isSome

/-- **Connecting keeps a forest**, unless what fits is plugged into a block that is inside it.
Whoever listens only amends, and no amendment closes a ring. -/
theorem forest_connect (h : Forest w.canvas)
    (hin : Fits w.canvas child parent input → ¬ w.canvas.Inside parent child) :
    Forest (w.connect ids child parent input).1.canvas := by
  refine forest_connect_of_cleared h fun hfits hinside => hin hfits ?_
  exact hinside.mono fun _ _ => (clear_pruned ids w child parent input).holder

/-- **Where nobody listens, what fits is plugged in**, also into a block that is inside it; that
closes a ring. -/
theorem connect_ring_of_nobody (hl : w.listeners = []) (h : Coherent ids w.canvas)
    (hforest : Forest w.canvas) (hfits : Fits w.canvas child parent input)
    (hin : w.canvas.Inside parent child) :
    (w.connect ids child parent input).1.canvas.Inside child child := by
  have hpassive : w.Passive := by simp [Passive, hl]
  obtain ⟨canvas, he, hholder⟩ := connect_of_passive ids hpassive h.wired hfits
  rw [he]
  refine hforest.ring_of_connected h.wired input hin ?_ fun block hne ht => ?_
  · exact (hholder child).trans (if_pos rfl)
  · exact (hholder block).trans (by rw [if_neg hne, if_neg ht])

end Workspace

end TypedBlocks
