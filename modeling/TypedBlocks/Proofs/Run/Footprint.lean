import TypedBlocks.Proofs.Propagator.Amending
import TypedBlocks.Proofs.Propagator.Footprint
import TypedBlocks.Proofs.Run.Wiring

/-!
# The footprint of an event, whatever has happened

The wiring is in order after any run, so an event reaches no further than its `Footprint` says: also
when the event is false, when blocks hold each other in a ring, and when a host has amended the
canvas behind the propagator.
-/

namespace TypedBlocks

open Canvas Propagator

variable {ids : IdSupply}

namespace Editor

variable {e : Editor}

/-- **How far an event reaches**, in any state, for any propagator and whatever the event says. The
response leaves a `Footprint`. It ends: the rule for disconnections is applied to itself once at
most, so it makes no difference what comes `next` after that. The nested run, for the holder of a
link that was reset, changes no output, no connection and no position. -/
theorem event_footprint (hids : Function.Injective ids) {workspace : String} {settings : Settings}
    (h : Reach ids (start workspace settings) (fun _ => True) e) (p : Propagator)
    (event : Event) :
    Footprint p event.change e.workspace.canvas (p.handle e.workspace.canvas event).1 ∧
    (∀ next, p.disconnectWith (p.disconnectWith next) = p.afterDisconnect) ∧
    ∀ link,
      (∀ next other, p.releaseLink next e.workspace.canvas link =
        p.releaseLink other e.workspace.canvas link) ∨
      ∃ plug c', e.workspace.canvas.plug? link = some plug ∧
        (∀ next, p.releaseLink next e.workspace.canvas link = next c' link plug.block) ∧
        (∀ next other, p.disconnectWith next c' link plug.block =
          p.disconnectWith other c' link plug.block) ∧
        ∀ next id, let c'' := (p.disconnectWith next c' link plug.block).canvas
          c''.output? id = c'.output? id ∧ c''.plug? id = c'.plug? id ∧
            c''.position? id = c'.position? id := by
  have hw : Wired e.workspace.canvas := (h.coherent hids .empty).wired
  refine ⟨?_, fun next => p.disconnectWith_twice next _, p.releaseLink_hands_on _⟩
  rw [p.handle_canvas]
  exact (respond_effect hw p event).footprint

/-- The ship is plugged into the link and the link into the attribute getter, and the host takes the
ship out again, which it reports. The link leaves the getter and moves aside, and the getter is the
only other block that differs. -/
theorem event_footprint_pulled :
    let e := [.attach .harbour, .edit (.openCategory Toolbox.documentVariablesName),
      .edit (.openCategory Toolbox.linksName),
      .edit (.create "variables_get_ship_document" none), .edit (.create "port_ship_link" none),
      .edit (.create "get_attribute" none), .edit (.connect "|||" "||||" Definition.linkInput),
      .edit (.connect "||||" "|||||" Definition.documentInput),
      .amend (.pullOut "|||")].foldl (act strokes) (start "harbour" {})
    let c := e.workspace.canvas
    let c' := (Propagator.harbour.handle c (.disconnect "harbour" "|||" "||||")).1
    (c.plug? "||||" = some ⟨"|||||", Definition.documentInput⟩ ∧ c'.plug? "||||" = none) ∧
    c'.position? "||||" = (c.position? "||||").map (fun at_ =>
      (at_.1 + Propagator.harbour.snapRadius, at_.2 + Propagator.harbour.snapRadius)) ∧
    (∀ id, id ≠ "||||" → c'.position? id = c.position? id) ∧
    ∀ id, id ≠ "||||" → c'.block? id ≠ c.block? id → id = "|||||" := by
  intro e c c'
  have hplug : c.plug? "||||" = some ⟨"|||||", Definition.documentInput⟩ := by decide +kernel
  have hplug' : c'.plug? "||||" = none := by decide +kernel
  obtain ⟨hfootprint, -⟩ : Propagator.harbour.Footprint (.disconnected "||||") c c' ∧ _ :=
    event_footprint strokes_injective (Reach.run _ fun _ _ => trivial) .harbour
      (.disconnect "harbour" "|||" "||||")
  have hchange : ∀ id, id ≠ "||||" →
      (Event.disconnect "harbour" "|||" "||||").change.parent? ≠ some id :=
    fun id hne he => hne (Option.some.inj he).symm
  refine ⟨⟨hplug, hplug'⟩, ?_, fun id hne => ?_, fun id hne hdiffers => ?_⟩
  · refine (hfootprint.moved "||||").trans (if_pos ⟨rfl, ?_⟩)
    rw [hplug, hplug']
    nofun
  · exact (hfootprint.moved id).trans (if_neg fun hand => hchange id hne hand.1)
  · rcases hfootprint.differs id (hchange id hne) hdiffers with ⟨_, _, hconnected, -⟩ |
      ⟨parent, input, hparent, hp⟩
    · cases hconnected
    · cases hparent
      rw [hplug] at hp
      cases hp
      rfl

end Editor

end TypedBlocks
