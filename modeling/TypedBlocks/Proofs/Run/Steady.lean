import TypedBlocks.Proofs.Run.Sharing
import TypedBlocks.Proofs.Session.Sturdy

/-!
# Workspaces under any events

A workspace is *steady* as long as only sessions listen and its canvas is sturdy. Any event may be
reported there, however little it has to do with the canvas: all that a report does is `Led`, which
is to say that the sessions touch the canvas one after the other, and no event ends in an error.
Unplugging is led as well. Connecting is not, since it makes a connection, but before and after that
it is led, and what fitted at first still fits by then; so `Steady.unplug` and `Steady.connect`
conclude that users keep a workspace steady, too.
-/

namespace TypedBlocks.Workspace

open Canvas

variable {ids : IdSupply} {w w' w'' : Workspace} {child parent input : String}

/-- No event has ended in an error so far. -/
def Unfailed (w : Workspace) : Prop :=
  ∀ event fault, Entry.noted (.failed event fault) ∉ w.journal

/-- Whatever is recorded, as long as it is no such error. -/
theorem Unfailed.record (h : Unfailed w) {entries : List Entry}
    (hentries : ∀ event fault, Entry.noted (.failed event fault) ∉ entries) :
    Unfailed (w.record entries) := by
  intro event fault hmem
  rcases List.mem_append.mp hmem with hmem | hmem
  · exact h event fault hmem
  · exact hentries event fault hmem

/-- Warnings are no errors. -/
theorem Unfailed.note (h : Unfailed w) {notices : List Notice}
    (hnotices : ∀ n ∈ notices, n.isError = false) : Unfailed (w.record (notices.map .noted)) := by
  refine h.record fun event fault hmem => ?_
  obtain ⟨n, hn, he⟩ := List.mem_map.mp hmem
  cases he
  cases hnotices _ hn

/-- Only sessions listen, and the canvas is sturdy: what is left of being attended when events may
be forged and sessions may be several. -/
structure Steady (ids : IdSupply) (w : Workspace) : Prop where
  ofSessions : OfSessions w
  sturdy : Sturdy ids w.canvas

/-- The sessions of a workspace have touched its canvas, and done nothing else. No event has ended
in an error over that, if none had before. -/
structure Led (ids : IdSupply) (w w' : Workspace) : Prop where
  audience : SameAudience w w'
  touched : Touched w.canvas w'.canvas
  unfailed : (∀ n, ids n ≠ "") → Unfailed w → Unfailed w'

namespace Led

theorem refl (w : Workspace) : Led ids w w := ⟨.refl w, .refl, fun _ h => h⟩

theorem trans (h : Led ids w w') (h' : Led ids w' w'') : Led ids w w'' :=
  ⟨h.audience.trans h'.audience, h.touched.trans h'.touched,
    fun hne hw => h'.unfailed hne (h.unfailed hne hw)⟩

/-- A connection is undone. -/
theorem detach {plug : Plug} (hp : w.canvas.plug? child = some plug) :
    Led ids w { w with canvas := w.canvas.detach child plug } :=
  ⟨.of_canvas w _ (Nat.le_refl _), .single (.detach hp), fun _ h => h⟩

end Led

/-- Telling a session of an event is having its propagator handle it. -/
theorem tell_session (ids : IdSupply) (event : Event) (w : Workspace) {l : String × Listener}
    {p : Propagator} (hp : l.2 = Session.listenerOf p) :
    tell ids event w l =
      { w.record [.told l.1 event] with canvas := (p.handle w.canvas event).1 }.record
        ((p.handle w.canvas event).2.map .noted) := by
  rw [tell, hp]
  rfl

namespace Steady

theorem led (h : Steady ids w) (hl : Led ids w w') : Steady ids w' :=
  ⟨h.ofSessions.congr hl.audience, (h.sturdy.touched hl.touched).1⟩

/-- **A report is led**, of whatever event. By induction on the listeners, each a session whose
propagator handles the event. -/
theorem report_led (h : Steady ids w) (event : Event) : Led ids w (report ids w event) := by
  suffices hfold : ∀ (listeners : List (String × Listener)) (w : Workspace),
      (∀ l ∈ listeners, ∃ p, l.2 = Session.listenerOf p) → Sturdy ids w.canvas →
      Touched w.canvas (listeners.foldl (tell ids event) w).canvas ∧
        ((∀ n, ids n ≠ "") → Unfailed w → Unfailed (listeners.foldl (tell ids event) w)) by
    obtain ⟨htouched, hunfailed⟩ :=
      hfold w.listeners { w with listeners := [] } h.ofSessions h.sturdy
    exact ⟨report_audience ids h.ofSessions event, htouched, hunfailed⟩
  -- by induction on the sessions that are still to be told, on a canvas that is sturdy
  intro listeners
  induction listeners with
  | nil => exact fun w _ _ => ⟨.refl, fun _ hw => hw⟩
  | cons l listeners ih =>
    intro w hl hs
    rw [List.forall_mem_cons] at hl
    obtain ⟨⟨p, hp⟩, hl⟩ := hl
    have htouched : Touched w.canvas (p.handle w.canvas event).1 := by
      rw [p.handle_canvas]
      exact p.respond_touched w.canvas event
    obtain ⟨hrest, hunfailed⟩ := ih (tell ids event w l) hl (by
      rw [tell_session ids event w hp]
      exact (hs.touched htouched).1)
    rw [tell_session ids event w hp] at hrest hunfailed
    rw [List.foldl_cons, tell_session ids event w hp]
    refine ⟨htouched.trans hrest, fun hne hw => hunfailed hne ?_⟩
    have htold : Unfailed (w.record [.told l.1 event]) := hw.record fun _ _ hmem => by
      cases List.mem_singleton.mp hmem
    exact Unfailed.note (w := { w.record [.told l.1 event] with canvas := _ }) htold
      (Propagator.handle_notices (hs.equipped hne) event)

/-! ## Unplugging -/

theorem unplug_led (h : Steady ids w) (child : String) : Led ids w (w.unplug ids child).1 := by
  cases hp : w.canvas.plug? child with
  | none =>
    rw [(unplug_of_plug?_eq_none ids hp).1]
    exact .refl w
  | some plug =>
    rw [unplug_eq hp]
    have hdetached : Led ids w { w with canvas := w.canvas.detach child plug } := .detach hp
    exact hdetached.trans ((h.led hdetached).report_led _)

/-- **Unplugging keeps a workspace steady**, whether or not there was something to unplug. -/
theorem unplug (h : Steady ids w) (child : String) : Steady ids (w.unplug ids child).1 :=
  h.led (h.unplug_led child)

/-! ## Connecting -/

/-- Clearing both ends of a connection to be. -/
theorem cleared_led (h : Steady ids w) (child : String) (occupant : Option String) :
    Led ids w ((w.vacate ids child).1.evict ids child occupant).1 := by
  have hunplug : ∀ w' child, Led ids w w' → Led ids w (w'.unplug ids child).1 :=
    fun w' child hl => hl.trans ((h.led hl).unplug_led child)
  exact evict_keeps hunplug (vacate_keeps hunplug (.refl w) child) child occupant

/-- **Connecting keeps a workspace steady**, and no event ends in an error meanwhile. -/
theorem connect (h : Steady ids w) (child parent input : String) :
    Steady ids (w.connect ids child parent input).1 ∧
      ((∀ n, ids n ≠ "") → Unfailed w → Unfailed (w.connect ids child parent input).1) := by
  have hcleared := h.cleared_led child (w.canvas.target? parent input)
  rcases connect_cases ids w child parent input with
    ⟨fault, -, he⟩ | ⟨hfits, ⟨fault, -, he⟩ | ⟨hok, he⟩⟩
  · rw [he]
    exact ⟨h, fun _ hw => hw⟩
  · rw [he]
    exact ⟨h.led hcleared, hcleared.unfailed⟩
  · rw [he]
    have hw := h.sturdy.coherent
    have hvfree := (vacate_ok ids w child).2
    have htarget := evict_free hw.wired (vacate_pruned ids w child)
      (coherent_vacate hw child).wired hvfree hok
    have hplug := (evict_pruned ids (w.vacate ids child).1 child
      (w.canvas.target? parent input)).plug_none hvfree
    obtain ⟨hsturdy, hkept⟩ := h.sturdy.touched hcleared.touched
    generalize (w.vacate ids child).1.evict ids child (w.canvas.target? parent input) = r at *
    have hplugged : Steady ids { r.1 with canvas := r.1.canvas.plugIn child parent input } :=
      ⟨(h.led hcleared).ofSessions, hsturdy.plugIn (hkept hfits) hplug htarget⟩
    have hreport := hplugged.report_led (.connect r.1.id child parent)
    exact ⟨hplugged.led hreport, fun hne hunfailed =>
      hreport.unfailed hne (hcleared.unfailed hne hunfailed)⟩

end Steady

end TypedBlocks.Workspace
