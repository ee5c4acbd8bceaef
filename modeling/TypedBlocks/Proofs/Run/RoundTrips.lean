import TypedBlocks.Proofs.Run.Events
import TypedBlocks.Proofs.Run.Loops
import TypedBlocks.Proofs.Session.RoundTrips

/-!
# Round trips over runs

Two things that a user can do in vain. A block is plugged into an attribute getter, or into a link
that is plugged in nowhere, and is pulled out again: nothing remains of that
(`Editor.connect_undone`). And a block is plugged in where it is: that succeeds, but it is not
always in vain, and `Editor.connect_in_place` says just when, and what comes of it.
-/

namespace TypedBlocks

open Canvas Definition Workspace

variable {ids : IdSupply} {p : Propagator}

namespace Editor

variable {e : Editor} {child parent input : String}

/-- What users do where a session was attached first is one of the things that happen where
sessions come and go. -/
theorem Reach.inSessions {workspace : String} {settings : Settings}
    (h : Reach ids (startWith ids workspace settings p) Act.ByUser e) :
    Reach ids (Editor.start workspace settings) Act.InSessions e := by
  induction h with
  | start => exact Reach.start.act (.attach p) trivial
  | act a _ ha ih =>
    refine ih.act a ?_
    cases a <;> trivial

/-- **What was just plugged in can be pulled out again, and nothing remains of it.** Let a session
be attached from the start, and let users have done what they like. Let a block be plugged in
nowhere, and go into an empty input of an attribute getter, or of a link that is itself plugged in
nowhere; and let that succeed. Then pulling the block out succeeds as well, and the canvas is what
it was before both: the output of the link, the entries of the dropdown and all positions
included. -/
theorem connect_undone (hids : Function.Injective ids) {workspace : String} {settings : Settings}
    (h : Reach ids (startWith ids workspace settings p) Act.ByUser e) {b : Block}
    (hb : e.workspace.canvas.block? parent = some b)
    (hkind : b.type = getAttributeType ∨
      Tag.isLinkType b.type = true ∧ e.workspace.canvas.plug? parent = none)
    (hplug : e.workspace.canvas.plug? child = none)
    (hfree : e.workspace.canvas.target? parent input = none)
    (hok : (e.perform ids (.connect child parent input)).2 = .ok ()) :
    let made := (e.perform ids (.connect child parent input)).1
    (made.perform ids (.unplug child)).2 = .ok () ∧
      (made.perform ids (.unplug child)).1.workspace.canvas = e.workspace.canvas := by
  have hattended := (h.inOrder hids).attended
  rw [perform_connect] at hok ⊢
  have hfits := (hattended.connect_eq_ok_iff.mp hok).1
  exact hattended.unplug_connect hfits hplug hfree (frame?_of_block? hb) hkind

/-- The ship is plugged into the link of the harbour, and pulled out again. Meanwhile the link led
to ports. -/
theorem connect_undone_harbour :
    let made := ((harbour []).perform strokes (.connect "|||" "||||" linkInput)).1
    made.workspace.canvas.tag "||||" = .documentArray "port" ∧
      (made.perform strokes (.unplug "|||")).2 = .ok () ∧
      (made.perform strokes (.unplug "|||")).1.workspace.canvas =
        (harbour []).workspace.canvas := by
  obtain ⟨b, hb, htype⟩ : ∃ b, (harbour []).workspace.canvas.block? "||||" = some b ∧
      b.type = "port_ship_link" := Option.map_eq_some_iff.mp (by decide +kernel)
  exact ⟨by decide +kernel, connect_undone strokes_injective (reach_harbour []) hb
    (.inr ⟨by rw [htype]; decide +kernel, by decide +kernel⟩) (by decide +kernel)
    (by decide +kernel) (by decide +kernel)⟩

/-- **What plugging a block in where it is comes to.** Let a session be attached from the start, and
let users do what they like until a block is plugged into some input; then let it be plugged in
there once more. That always succeeds. The canvas is as before unless something is stirred up by
pulling the block out first, and then it is what is said there. Ids have to be new each time they
are drawn, and not empty. -/
theorem connect_in_place (hids : Function.Injective ids) (hne : ∀ n, ids n ≠ "")
    {workspace : String} {settings : Settings}
    (h : Reach ids (startWith ids workspace settings p) Act.ByUser e)
    (hplug : e.workspace.canvas.plug? child = some ⟨parent, input⟩) :
    (e.perform ids (.connect child parent input)).2 = .ok () ∧
    ((e.perform ids (.connect child parent input)).1.workspace.canvas ≠ e.workspace.canvas ↔
      ∃ c, Stirred p e.workspace.canvas child parent c) ∧
    ∀ c, Stirred p e.workspace.canvas child parent c →
      (e.perform ids (.connect child parent input)).1.workspace.canvas = c := by
  have hattended := (h.inOrder hids).attended
  have hsettled := hattended.settled
  have hlooped := h.looped hids hne
  have hfits : Fits e.workspace.canvas child parent input :=
    (h.inSessions.believing hids).steady.sturdy.fitting child parent input
      (hsettled.coherent.wired.plug_iff.mp hplug)
  obtain ⟨hok, hcanvas⟩ := hattended.connect_put_back hfits hplug
  rw [perform_connect]
  refine ⟨hok, ⟨fun hchanged => ?_, ?_⟩, fun c hc => ?_⟩
  · rw [hcanvas] at hchanged
    exact ⟨_, (hsettled.putBack_cases hlooped hplug).resolve_left hchanged⟩
  · rintro ⟨c, hc⟩
    obtain ⟨hafter, hdiffers⟩ := hc.putBack hsettled hlooped hplug
    rw [hcanvas, hafter]
    exact hdiffers
  · rw [hcanvas]
    exact (hc.putBack hsettled hlooped hplug).1

/-- In the loaded harbour the ship is plugged into the link once more. It was there, and the link
was in the attribute getter; now the link is out of it, and the getter shows the placeholder. -/
theorem connect_in_place_loaded :
    let again := harbourLoaded.perform strokes (.connect "|||" "||||" linkInput)
    harbourLoaded.workspace.canvas.plug? "||||" = some ⟨"|||||", documentInput⟩ ∧
    again.2 = .ok () ∧
    again.1.workspace.canvas.plug? "||||" = none ∧
    again.1.workspace.canvas.field? "|||||" attributeField = some ⟨notApplicable, placeholder⟩ ∧
    again.1.workspace.canvas ≠ harbourLoaded.workspace.canvas := by
  intro again
  obtain ⟨f, hf, htype⟩ : ∃ f, harbourLoaded.workspace.canvas.frame? "||||" = some f ∧
      f.type = "port_ship_link" := Option.map_eq_some_iff.mp (by decide +kernel)
  have hholder : harbourLoaded.workspace.canvas.plug? "||||" = some ⟨"|||||", documentInput⟩ := by
    decide +kernel
  have hstirred : Stirred .harbour harbourLoaded.workspace.canvas "|||" "||||" _ :=
    .dislodge hf (by rw [htype]; decide +kernel) (by decide +kernel) hholder
  obtain ⟨hok, hiff, -⟩ := connect_in_place strokes_injective strokes_ne_empty reach_harbourLoaded
    (by decide +kernel :
      harbourLoaded.workspace.canvas.plug? "|||" = some ⟨"||||", linkInput⟩)
  exact ⟨hholder, hok, by decide +kernel, by decide +kernel, hiff.mpr ⟨_, hstirred⟩⟩

end Editor

end TypedBlocks
