import TypedBlocks.Proofs.Propagator.Touching
import TypedBlocks.Workspace

/-!
# Listeners only amend

A propagator changes a canvas by amendments alone (`handle_amended`): nothing it does is out of the
reach of any other listener. The same then holds of every reaction, and of every report, whoever
listens (`report_amended`). So what amendments keep is kept by all that happens between two edits.
-/

namespace TypedBlocks

open Canvas

variable {ids : IdSupply}

namespace Propagator

theorem handle_canvas (p : Propagator) (c : Canvas) (e : Event) :
    (p.handle c e).1 = (p.respond c e).canvas := by
  unfold handle
  dsimp only
  split <;> rfl

/-- **A propagator only amends**, for a touch is an amendment. -/
theorem handle_amended (p : Propagator) (c : Canvas) (e : Event) :
    Amended ids c (p.handle c e).1 := by
  rw [handle_canvas]
  exact (p.respond_touched c e).amended ids

end Propagator

namespace Workspace

/-- **Whatever a listener does, it only amends**: by induction on its reaction, one step at a
time. -/
theorem react_amended (me : String) (r : Reaction) (w : Workspace) :
    Amended ids w.canvas (react ids me r w).canvas := by
  induction r generalizing w with
  | done => exact .refl
  | propagate p event next ih =>
    simp only [react]
    refine Amended.trans ?_ (ih _)
    exact p.handle_amended w.canvas event
  | amend a next ih =>
    simp only [react]
    split
    · rename_i c ha
      refine Amended.trans ?_ (ih _ _)
      exact .of_apply ha
    · exact ih _ (w.record _)
  | look next ih =>
    simp only [react]
    exact ih _ w
  | listen listener next _ ih =>
    simp only [react]
    refine Amended.trans ?_ (ih _ _)
    exact Amended.refl.draw
  | unlisten id next ih =>
    simp only [react]
    exact ih _ ((w.removeListener id).2.record _)
  | register name category next ih =>
    simp only [react]
    exact ih (w.registerCategory name category)
  | unregister name next ih =>
    simp only [react]
    exact ih _ (w.removeCategory name).2

/-- **A report only amends**, whoever is told of it and whatever they do, by induction on the
listeners that are still to be told. -/
theorem report_amended (w : Workspace) (event : Event) :
    Amended ids w.canvas (report ids w event).canvas := by
  suffices h : ∀ (listeners : List (String × Listener)) (w : Workspace),
      Amended ids w.canvas (listeners.foldl (tell ids event) w).canvas from
    h w.listeners { w with listeners := [] }
  -- by induction on the listeners that are still to be told
  intro listeners
  induction listeners with
  | nil => exact fun _ => .refl
  | cons l listeners ih =>
    exact fun w => (react_amended l.1 (l.2 event) (w.record _)).trans (ih _)

end Workspace

end TypedBlocks
