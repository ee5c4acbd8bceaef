import TypedBlocks.Proofs.Run.Attended
import TypedBlocks.Proofs.Session.Strays

/-!
# Stray events over runs

Hosts may report events late, twice, or about connections that never were. In session, with
everything in order between the edits of a user, a stray disconnection changes nothing
(`Editor.disconnections_ignored`). A stray connection is not told from a true one by links and
attribute getters; `Editor.connection_misleads` says just when that shows, and how.
-/

namespace TypedBlocks

open Canvas Definition

variable {ids : IdSupply} {p : Propagator}

/-- A workspace in session remains as it is when it is told of a disconnection. What the event would
have settled was settled when the connection was undone, if there ever was one. -/
theorem Workspace.Attended.report_disconnection {w : Workspace} (h : Attended ids p w)
    {event : Event} {parent : String} (hchange : event.change = .disconnected parent) :
    (report ids w event).canvas = w.canvas ∧ Attended ids p (report ids w event) := by
  obtain ⟨hcanvas, hsession⟩ := report_in_session ids h.session event
  have hsame : (report ids w event).canvas = w.canvas := by
    rw [hcanvas, Propagator.respond, hchange]
    exact h.settled.afterDisconnect_eq_self event.block parent
  exact ⟨hsame, hsame ▸ h.settled, hsession⟩

namespace Editor

variable {e : Editor}

/-- **Disconnections that are reported do nothing.** Let a session be attached from the start, and
let users do what they like; then let any number of events be reported, each about some block that
was pulled out of some other, as hosts report what has already been dealt with, or what never
happened. The canvas is as before: what there is to do after a disconnection was done when it
happened. -/
theorem disconnections_ignored (hids : Function.Injective ids) {workspace : String}
    {settings : Settings} (h : Reach ids (startWith ids workspace settings p) Act.ByUser e)
    {events : List Event}
    (hevents : ∀ event ∈ events, ∃ parent, event.change = .disconnected parent) :
    (events.foldl (Workspace.report ids) e.workspace).canvas = e.workspace.canvas := by
  suffices hfold : ∀ w, Workspace.Attended ids p w →
      (events.foldl (Workspace.report ids) w).canvas = w.canvas from
    hfold e.workspace (h.inOrder hids).attended
  -- by induction on the events that are still to be reported, in a workspace that is attended
  induction events with
  | nil => exact fun _ _ => rfl
  | cons event events ih =>
    intro w hw
    rw [List.forall_mem_cons] at hevents
    obtain ⟨⟨parent, hchange⟩, hevents⟩ := hevents
    obtain ⟨hsame, hreported⟩ := hw.report_disconnection hchange
    rw [List.foldl_cons, ih hevents _ hreported, hsame]

/-- The ship is still in the link, and the link in the attribute getter; reports to the contrary,
also of blocks that there are not, go unheeded. -/
theorem disconnections_ignored_loaded :
    ([.disconnect "harbour" "|||" "||||", .disconnect "harbour" "||||" "|||||",
      .disconnect "harbour" "ghost" "phantom", .disconnect "harbour" "|||" "||||"].foldl
        (Workspace.report strokes) harbourLoaded.workspace).canvas =
      harbourLoaded.workspace.canvas := by
  refine disconnections_ignored strokes_injective reach_harbourLoaded fun event hmem => ?_
  simp only [List.mem_cons, List.not_mem_nil, or_false] at hmem
  rcases hmem with rfl | rfl | rfl | rfl
  · exact ⟨"||||", rfl⟩
  · exact ⟨"|||||", rfl⟩
  · exact ⟨"phantom", rfl⟩
  · exact ⟨"||||", rfl⟩

/-- **What a reported connection does that there is not.** Let a session be attached from the start,
and let users do what they like; then let it be reported that a block was plugged into another that
does not hold it. That changes the canvas just if it misleads a link or an attribute getter, and
then it does what is said there. No loop is misled, and no variable is retyped. -/
theorem connection_misleads (hids : Function.Injective ids) {workspace : String}
    {settings : Settings} (h : Reach ids (startWith ids workspace settings p) Act.ByUser e)
    {event : Event} {parent : String} (hchange : event.change = .connected parent)
    (hstray : ∀ input, e.workspace.canvas.target? parent input ≠ some event.block) :
    ((e.act ids (.report event)).workspace.canvas ≠ e.workspace.canvas ↔
      ∃ c, Misled p e.workspace.canvas event.block parent c) ∧
    (∀ c, Misled p e.workspace.canvas event.block parent c →
      (e.act ids (.report event)).workspace.canvas = c) ∧
    (e.act ids (.report event)).workspace.canvas.vars = e.workspace.canvas.vars := by
  have hattended := (h.inOrder hids).attended
  have hw := hattended.settled.coherent.wired
  have hcanvas : (e.act ids (.report event)).workspace.canvas =
      (p.afterConnect e.workspace.canvas event.block parent).canvas := by
    have hreport := (Workspace.report_in_session ids hattended.session event).1
    rw [Propagator.respond, hchange] at hreport
    exact hreport
  rw [hcanvas]
  refine ⟨?_, fun c hmisled => (hmisled.afterConnect hw).1, ?_⟩
  · constructor
    · exact fun hne => ⟨_, (hw.afterConnect_stray hstray).resolve_left hne⟩
    · rintro ⟨c, hmisled⟩
      obtain ⟨hafter, hne⟩ := hmisled.afterConnect hw
      exact hafter ▸ hne
  · rcases hw.afterConnect_stray (p := p) hstray with hsame | hmisled
    · rw [hsame]
    · exact hmisled.vars

/-- The link of the harbour holds nothing. When it is reported to hold the ship, it leads to
ports. -/
theorem connection_misleads_harbour :
    ((harbour []).act strokes (.report (.connect "harbour" "|||" "||||"))).workspace.canvas =
        (harbour []).workspace.canvas.emit "||||" (.documentArray "port") ∧
      ((harbour []).act strokes (.report (.connect "harbour" "|||" "||||"))).workspace.canvas ≠
        (harbour []).workspace.canvas := by
  obtain ⟨f, hf, htype⟩ : ∃ f, (harbour []).workspace.canvas.frame? "||||" = some f ∧
      f.type = "port_ship_link" := Option.map_eq_some_iff.mp (by decide +kernel)
  have hread : Tag.ofText f.type = .link "port" "ship" := by
    rw [htype]
    decide +kernel
  have hmisled : Misled .harbour (harbour []).workspace.canvas "|||" "||||" _ :=
    .orient hf hread (by decide +kernel : _ = Tag.document "ship") (.inr rfl) (by decide +kernel)
  have hfree : ∀ input, (harbour []).workspace.canvas.target? "||||" input ≠ some "|||" := by
    intro input ht
    have hplug : (harbour []).workspace.canvas.plug? "|||" = none := by decide +kernel
    have hwired := ((reach_harbour []).inOrder strokes_injective).attended.settled.coherent.wired
    rw [hwired.plug_iff.mpr ht] at hplug
    cases hplug
  have hchange : (Event.connect "harbour" "|||" "||||").change = .connected "||||" := rfl
  obtain ⟨hiff, hafter, -⟩ :=
    connection_misleads strokes_injective (reach_harbour []) hchange hfree
  exact ⟨hafter _ hmisled, hiff.mpr ⟨_, hmisled⟩⟩

end Editor

end TypedBlocks
