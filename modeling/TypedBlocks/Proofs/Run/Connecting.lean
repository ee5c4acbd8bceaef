import TypedBlocks.Proofs.Run.Attended

/-!
# How connecting can end

In session, connecting either is refused and changes nothing, or succeeds, or fails on a snagged
child, after it has pulled that child out. Which of the three happens can be read off the canvas.
A snag takes a document, the link that holds it, and the input that holds the link, as in the loaded
harbour.
-/

namespace TypedBlocks.Editor

open Canvas Definition Workspace

variable {ids : IdSupply} {p : Propagator} {e : Editor}

/-- **The three ways in which connecting can end.**

* What does not fit is refused, for one of four reasons, and nothing has changed.
* What fits is plugged in.
* Unless it is a document in a link, and that link is what the input holds: then the link is gone
  when it is to be pulled out. The edit fails over that, although the document has been pulled out
  by then. -/
theorem connect_outcome (hids : Function.Injective ids) {workspace : String}
    {settings : Settings}
    (h : Reach ids (startWith ids workspace settings p) Act.ByUser e)
    (child parent input : String) :
    (¬ Fits e.workspace.canvas child parent input ∧
      ∃ fault, e.perform ids (.connect child parent input) = (e, .error fault) ∧
        (fault = .noBlock child ∧ e.workspace.canvas.block? child = none ∨
          fault = .noBlock parent ∧ e.workspace.canvas.block? parent = none ∨
          fault = .noInput parent input ∧
            (∃ b, e.workspace.canvas.block? parent = some b ∧ b.inputs.get? input = none) ∨
          fault = .misfit child parent input)) ∨
    (Fits e.workspace.canvas child parent input ∧
      (∀ occupant, ¬ Snagged e.workspace.canvas child parent input occupant) ∧
      (e.perform ids (.connect child parent input)).2 = .ok ()) ∨
    (Fits e.workspace.canvas child parent input ∧
      ∃ occupant, Snagged e.workspace.canvas child parent input occupant ∧
        (e.perform ids (.connect child parent input)).2 = .error (.unplugged occupant) ∧
        e.workspace.canvas.plug? child = some ⟨occupant, linkInput⟩ ∧
        (e.perform ids (.connect child parent input)).1.workspace.canvas.plug? child = none) := by
  have hattended := (h.inOrder hids).attended
  rw [perform_connect]
  rcases connect_cases ids e.workspace child parent input with ⟨fault, ha, he⟩ | ⟨hfits, -⟩
  · refine .inl ⟨fun hfits => ?_, fault, by rw [he], ?_⟩
    · rw [approve_eq_ok_iff.mpr ⟨hfits, rfl⟩] at ha
      cases ha
    · rcases approve_eq_error ha with hchild | hparent | hinput | ⟨hmisfit, -⟩
      · exact .inl hchild
      · exact .inr (.inl hparent)
      · exact .inr (.inr (.inl hinput))
      · exact .inr (.inr (.inr hmisfit))
  · by_cases hsnag : ∃ occupant, Snagged e.workspace.canvas child parent input occupant
    · obtain ⟨occupant, hsnag⟩ := hsnag
      refine .inr (.inr ⟨hfits, occupant, hsnag, ?_, ?_, ?_⟩)
      · rw [hattended.connect_of_snagged hfits hsnag]
      · exact (hattended.plug?_vacate_of_snagged hsnag).1
      · rw [hattended.connect_of_snagged hfits hsnag]
        exact (vacate_ok ids e.workspace child).2
    · have hfree : ∀ occupant, ¬ Snagged e.workspace.canvas child parent input occupant :=
        fun occupant hs => hsnag ⟨occupant, hs⟩
      exact .inr (.inl ⟨hfits, hfree, (hattended.connect_of_fits hfits hfree).1⟩)

/-- Plugging the ship of the loaded harbour into the attribute getter itself fails, and leaves it
plugged in nowhere. -/
theorem connect_outcome_snagged :
    Fits harbourLoaded.workspace.canvas "|||" "|||||" documentInput ∧
    ∃ occupant, Snagged harbourLoaded.workspace.canvas "|||" "|||||" documentInput occupant ∧
      (harbourLoaded.perform strokes (.connect "|||" "|||||" documentInput)).2 =
        .error (.unplugged occupant) ∧
      harbourLoaded.workspace.canvas.plug? "|||" = some ⟨occupant, linkInput⟩ ∧
      (harbourLoaded.perform strokes
        (.connect "|||" "|||||" documentInput)).1.workspace.canvas.plug? "|||" = none := by
  have hfits : Fits harbourLoaded.workspace.canvas "|||" "|||||" documentInput :=
    (approve_eq_ok_iff.mp (by decide +kernel :
      approve harbourLoaded.workspace.canvas "|||" "|||||" documentInput = .ok (some "||||"))).1
  have hfails : (harbourLoaded.perform strokes (.connect "|||" "|||||" documentInput)).2 ≠
      .ok () := by decide +kernel
  rcases connect_outcome strokes_injective reach_harbourLoaded "|||" "|||||" documentInput with
    ⟨hnot, -⟩ | ⟨-, -, hok⟩ | hsnag
  · exact absurd hfits hnot
  · exact absurd hok hfails
  · exact hsnag

end TypedBlocks.Editor
