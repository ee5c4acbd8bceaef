import TypedBlocks.Proofs.Propagator.Repeating
import TypedBlocks.Proofs.Run.Steady

/-!
# Sessions in unison

Where all that listen are sessions of one propagator, each of them handles every event. The first to
be told does all that there is to do, since an event that is handled again changes nothing. So it
does not matter how many sessions there are: two workspaces that differ in nothing else stay
`InStep` through every edit, and every edit comes to the same in both (`Editor.InStep.perform`).
`Editor.repetition_idle` puts this together for whole runs.
-/

namespace TypedBlocks

open Canvas

variable {ids : IdSupply} {p : Propagator}

namespace Workspace

variable {w w' : Workspace}

/-- Somebody listens, and whoever does is a session of `p`. How many they are makes no difference,
because responding twice is responding once. -/
structure InUnison (p : Propagator) (w : Workspace) : Prop where
  listening : w.listeners ≠ []
  sessions : ∀ l ∈ w.listeners, l.2 = Session.listenerOf p

/-- Telling sessions of an event that has been responded to changes nothing. By induction on the
sessions: each finds the canvas that the response has left, and responding to that again is idle. -/
theorem foldl_tell_again (ids : IdSupply) (event : Event) {listeners : List (String × Listener)}
    (hl : ∀ l ∈ listeners, l.2 = Session.listenerOf p) {c : Canvas}
    (hw : w.canvas = (p.respond c event).canvas) :
    (listeners.foldl (tell ids event) w).canvas = (p.respond c event).canvas := by
  -- by induction on the sessions that are still to be told
  induction listeners generalizing w with
  | nil => exact hw
  | cons l listeners ih =>
    rw [List.forall_mem_cons] at hl
    refine ih hl.2 ?_
    rw [tell_session ids event w hl.1]
    exact (p.handle_canvas w.canvas event).trans (by rw [hw, p.respond_again])

/-- **Sessions of one propagator respond as one**: the first of them does what there is to do, and
the others find it done. -/
theorem InUnison.report_canvas (h : InUnison p w) (event : Event) :
    (report ids w event).canvas = (p.respond w.canvas event).canvas := by
  obtain ⟨l, listeners, hl⟩ := List.exists_cons_of_ne_nil h.listening
  have hsessions := h.sessions
  rw [hl, List.forall_mem_cons] at hsessions
  simp only [report, hl, List.foldl_cons]
  refine foldl_tell_again ids event hsessions.2 ?_
  rw [tell_session ids event _ hsessions.1]
  exact p.handle_canvas w.canvas event

theorem InUnison.report (h : InUnison p w) (event : Event) :
    InUnison p (Workspace.report ids w event) := by
  have hsame := report_audience ids (fun l hl => ⟨p, h.sessions l hl⟩) event
  exact ⟨hsame.listeners ▸ h.listening, hsame.listeners ▸ h.sessions⟩

/-- Two workspaces that differ in the number of their sessions, and in what they have noted. -/
structure InStep (p : Propagator) (w w' : Workspace) : Prop where
  left : InUnison p w
  right : InUnison p w'
  id : w.id = w'.id
  canvas : w.canvas = w'.canvas
  categories : w.categories = w'.categories

/-- What two workspaces that are in step have come to, and with what result. -/
structure Agree (p : Propagator) (r r' : Workspace × Except Fault Unit) : Prop where
  result : r.2 = r'.2
  inStep : InStep p r.1 r'.1

namespace InStep

theorem of_canvas (h : InStep p w w') (c : Canvas) :
    InStep p { w with canvas := c } { w' with canvas := c } :=
  ⟨⟨h.left.listening, h.left.sessions⟩, ⟨h.right.listening, h.right.sessions⟩, h.id, rfl,
    h.categories⟩

theorem report (h : InStep p w w') {event event' : Event} (he : event = event') :
    InStep p (Workspace.report ids w event) (Workspace.report ids w' event') := by
  subst he
  have hl := report_audience ids (fun l hl => ⟨p, h.left.sessions l hl⟩) event
  have hr := report_audience ids (fun l hl => ⟨p, h.right.sessions l hl⟩) event
  refine ⟨h.left.report event, h.right.report event, ?_, ?_, ?_⟩
  · rw [hl.id, hr.id, h.id]
  · rw [h.left.report_canvas, h.right.report_canvas, h.canvas]
  · rw [hl.categories, hr.categories, h.categories]

theorem unplug (h : InStep p w w') (ids : IdSupply) (child : String) :
    Agree p (w.unplug ids child) (w'.unplug ids child) := by
  rw [Workspace.unplug, Workspace.unplug, ← h.canvas]
  cases w.canvas.release child with
  | error fault => exact ⟨rfl, h⟩
  | ok released =>
    obtain ⟨plug, canvas⟩ := released
    exact ⟨rfl, (h.of_canvas canvas).report (by rw [h.id])⟩

theorem vacate (h : InStep p w w') (ids : IdSupply) (child : String) :
    Agree p (w.vacate ids child) (w'.vacate ids child) := by
  rw [Workspace.vacate, Workspace.vacate, ← h.canvas]
  cases w.canvas.plug? child with
  | none => exact ⟨rfl, h⟩
  | some plug => exact h.unplug ids child

theorem evict (h : InStep p w w') (ids : IdSupply) (child : String) (occupant : Option String) :
    Agree p (w.evict ids child occupant) (w'.evict ids child occupant) := by
  unfold Workspace.evict
  split
  · exact ⟨rfl, h⟩
  · split
    · exact ⟨rfl, h⟩
    · exact h.unplug ids _

theorem connect (h : InStep p w w') (ids : IdSupply) (child parent input : String) :
    Agree p (w.connect ids child parent input) (w'.connect ids child parent input) := by
  rw [Workspace.connect, Workspace.connect, ← h.canvas]
  cases approve w.canvas child parent input with
  | error fault => exact ⟨rfl, h⟩
  | ok occupant =>
    -- the same is done in both, step by step, as long as no step fails
    have hvacated := h.vacate ids child
    generalize w.vacate ids child = r at *
    generalize w'.vacate ids child = r' at *
    obtain ⟨w, result⟩ := r
    obtain ⟨w', result'⟩ := r'
    obtain ⟨rfl : result = result', hvacated : InStep p w w'⟩ := hvacated
    cases result with
    | error fault => exact ⟨rfl, hvacated⟩
    | ok _ =>
      have hevicted := hvacated.evict ids child occupant
      dsimp only
      generalize w.evict ids child occupant = r at *
      generalize w'.evict ids child occupant = r' at *
      obtain ⟨w, result⟩ := r
      obtain ⟨w', result'⟩ := r'
      obtain ⟨rfl : result = result', hevicted : InStep p w w'⟩ := hevicted
      cases result with
      | error fault => exact ⟨rfl, hevicted⟩
      | ok _ =>
        dsimp only
        rw [← hevicted.canvas]
        exact ⟨rfl, (hevicted.of_canvas (w.canvas.plugIn child parent input)).report
          (by rw [hevicted.id])⟩

end InStep

end Workspace

namespace Editor

/-- Two editors that differ in the number of sessions in their workspaces. -/
structure InStep (p : Propagator) (e e' : Editor) : Prop where
  catalog : e.catalog = e'.catalog
  workspace : Workspace.InStep p e.workspace e'.workspace

/-- **An edit comes to the same**, however many sessions there are: it ends in the same way, and the
canvases are the same again. -/
theorem InStep.perform {e e' : Editor} (h : InStep p e e') (edit : Edit) :
    (e.perform ids edit).2 = (e'.perform ids edit).2 ∧
      InStep p (e.perform ids edit).1 (e'.perform ids edit).1 := by
  have hcreate : ∀ blockType preset,
      (e.create ids blockType preset).2 = (e'.create ids blockType preset).2 ∧
        InStep p (e.create ids blockType preset).1 (e'.create ids blockType preset).1 := by
    intro blockType preset
    simp only [create, Workspace.create, ← h.workspace.canvas, ← h.catalog]
    cases e.workspace.canvas.create ids e.catalog blockType preset with
    | error fault => exact ⟨rfl, h⟩
    | ok made => exact ⟨rfl, rfl, h.workspace.of_canvas made.2⟩
  cases edit with
  | create blockType preset =>
    obtain ⟨hresult, hstep⟩ := hcreate blockType preset
    exact ⟨by simp only [Editor.perform, hresult], hstep⟩
  | take item =>
    cases item with
    | separator gap => exact ⟨rfl, h⟩
    | block blockType preset =>
      obtain ⟨hresult, hstep⟩ := hcreate blockType (preset.map (·.id))
      simp only [Editor.perform, take_block, hresult]
      exact ⟨trivial, hstep⟩
  | openCategory name =>
    simp only [Editor.perform, openCategory, Workspace.openCategory, ← h.workspace.categories]
    cases e.workspace.categories.get? name with
    | none => exact ⟨trivial, h⟩
    | some category =>
      dsimp only
      rw [← h.catalog, ← h.workspace.canvas]
      refine ⟨trivial, rfl, ?_⟩
      exact ⟨⟨h.workspace.left.listening, h.workspace.left.sessions⟩,
        ⟨h.workspace.right.listening, h.workspace.right.sessions⟩, h.workspace.id,
        h.workspace.canvas, h.workspace.categories⟩
  | connect child parent input =>
    obtain ⟨hresult, hstep⟩ := h.workspace.connect ids child parent input
    exact ⟨hresult, h.catalog, hstep⟩
  | unplug block =>
    obtain ⟨hresult, hstep⟩ := h.workspace.unplug ids block
    exact ⟨hresult, h.catalog, hstep⟩

/-- The editor after some edits. -/
def performAll (ids : IdSupply) (e : Editor) (edits : List Edit) : Editor :=
  edits.foldl (fun e edit => (e.perform ids edit).1) e

theorem InStep.performAll {e e' : Editor} (h : InStep p e e') (edits : List Edit) :
    InStep p (e.performAll ids edits) (e'.performAll ids edits) := by
  induction edits generalizing e e' with
  | nil => exact h
  | cons edit edits ih => exact ih (h.perform edit).2

/-- The editor as it is if only one of its listeners is there. -/
def heardBy (e : Editor) (l : String × Listener) : Editor :=
  { e with workspace := { e.workspace with listeners := [l] } }

/-- **To handle an event again is to do nothing**, on any canvas, for any propagator and any event.
So several sessions of one propagator are no more than one of them: after the same edits the
canvas is the same, and every edit comes to the same. -/
theorem repetition_idle (ids : IdSupply) (p : Propagator) :
    (∀ c event, (p.handle (p.handle c event).1 event).1 = (p.handle c event).1) ∧
    ∀ e : Editor, (∀ l ∈ e.workspace.listeners, l.2 = Session.listenerOf p) →
      ∀ l ∈ e.workspace.listeners, ∀ edits : List Edit,
        (e.performAll ids edits).workspace.canvas =
          ((e.heardBy l).performAll ids edits).workspace.canvas ∧
        ∀ edit, ((e.performAll ids edits).perform ids edit).2 =
          (((e.heardBy l).performAll ids edits).perform ids edit).2 := by
  constructor
  · intro c event
    rw [p.handle_canvas, p.handle_canvas]
    exact p.respond_again c event
  · intro e hsessions l hl edits
    have hstep : InStep p e (e.heardBy l) := by
      refine ⟨rfl, ⟨List.ne_nil_of_mem hl, hsessions⟩, ⟨List.cons_ne_nil _ _, ?_⟩, rfl, rfl, rfl⟩
      intro other hother
      rw [List.mem_singleton.mp hother]
      exact hsessions l hl
    exact ⟨(hstep.performAll edits).workspace.canvas,
      fun edit => ((hstep.performAll edits).perform edit).1⟩

/-- Two sessions of the harbour. The ship is plugged into the link and pulled out of it again, which
resets the link; that is done once. -/
theorem repetition_idle_two_sessions :
    let e := (startWith strokes "harbour" {} .harbour).act strokes (.attach .harbour)
    let l := (strokes 1, Session.listenerOf .harbour)
    let edits := [.openCategory Toolbox.documentVariablesName, .openCategory Toolbox.linksName,
      .create "variables_get_ship_document" none, .create "port_ship_link" none,
      .create "get_attribute" none, .connect "||||" "|||||" Definition.linkInput,
      .connect "|||||" "||||||" Definition.documentInput, .unplug "||||"]
    (e.workspace.listeners.length = 2 ∧ l ∈ e.workspace.listeners) ∧
    (e.performAll strokes edits).workspace.canvas =
      ((e.heardBy l).performAll strokes edits).workspace.canvas ∧
    (e.performAll strokes edits).workspace.canvas.tag "|||||" = .unknown ∧
    ∀ event, let c := (e.performAll strokes edits).workspace.canvas
      (Propagator.harbour.handle (Propagator.harbour.handle c event).1 event).1 =
        (Propagator.harbour.handle c event).1 := by
  intro e l edits
  have hlisteners : e.workspace.listeners =
      [(strokes 1, Session.listenerOf .harbour), (strokes 2, Session.listenerOf .harbour)] := rfl
  have hl : l ∈ e.workspace.listeners := by simp [hlisteners, l]
  obtain ⟨hagain, hone⟩ := repetition_idle strokes .harbour
  refine ⟨⟨rfl, hl⟩, (hone e ?_ l hl edits).1, by decide +kernel, fun event => hagain _ event⟩
  simp [hlisteners]

end Editor

end TypedBlocks
