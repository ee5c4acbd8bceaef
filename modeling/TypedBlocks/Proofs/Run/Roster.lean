import TypedBlocks.Proofs.Run.Wiring
import TypedBlocks.Proofs.Workspace.Roster

/-!
# Listeners who come and go during reports

Whatever happens to an editor, its listeners have ids that were drawn (`Reach.enlisted`). So those
who are added during a report are told apart from those who were there before, and all can be said
about a report that the roster of a workspace has to do with (`Workspace.report_roster`). Who is
added during the report can be removed during it. Who was there before cannot: they are out of the
workspace while they run, a removal does not find them, and they are back afterwards.
-/

namespace TypedBlocks

open Canvas Workspace

variable {ids : IdSupply}

namespace Workspace

variable {w : Workspace}

theorem Enlisted.unplug (h : w.Enlisted ids) (child : String) :
    (w.unplug ids child).1.Enlisted ids :=
  unplug_keeps (fun _ event h => h.report event) (fun _ _ _ h => h) h child

theorem Enlisted.connect (h : w.Enlisted ids) (child parent input : String) :
    (w.connect ids child parent input).1.Enlisted ids :=
  connect_keeps (fun _ event h => h.report event) (fun _ _ _ h => h) (fun _ _ _ _ h => h) h child
    parent input

end Workspace

namespace Editor

variable {e : Editor}

/-- **Every act leaves all listeners enlisted**, those included that are added by it. Reactions may
add listeners and remove them, and are covered as well. -/
theorem enlisted_act (h : e.workspace.Enlisted ids) (a : Act) :
    (e.act ids a).workspace.Enlisted ids := by
  cases a with
  | edit edit =>
    rcases e.perform_cases ids edit with he | ⟨_, preset, _, _, hmade, he⟩ | ⟨_, _, -, he⟩ |
      ⟨child, parent, input, he⟩ | ⟨block, he⟩
    · rw [act, he]
      exact h
    · rw [act, he]
      obtain ⟨d, -, rfl, rfl⟩ := create_eq_ok hmade
      have hdrawn := (build_canvas ids (e.workspace.canvas.draw ids).2 d preset).2
      exact h.mono (List.Subset.refl _) (Nat.le_trans (Nat.le_succ _) hdrawn)
    · rw [act, he]
      exact h
    · rw [act, he]
      exact h.connect child parent input
    · rw [act, he]
      exact h.unplug block
  | attach p =>
    have hdeclared : Enlisted ids { e.workspace with
        canvas := p.domain.documentVariables.foldl (Session.declare ids) e.workspace.canvas } :=
      h.mono (List.Subset.refl _)
        (Session.declare_blocks ids p.domain.documentVariables e.workspace.canvas).2
    exact hdeclared.addListener (Session.listenerOf p)
  | detach s =>
    rw [act, Session.detach]
    split
    · exact h
    · exact h.mono (List.filter_subset_self _) (Nat.le_refl _)
  | report event => exact h.report event
  | amend a =>
    simp only [act, amend]
    split
    · rename_i ha
      exact h.mono (List.Subset.refl _) (Amended.of_apply ha).pruned.drawn
    · exact h
  | listen listener => exact h.addListener listener
  | unlisten id => exact h.mono (List.filter_subset_self _) (Nat.le_refl _)
  | askGetter domain id => exact h
  | askLink domain l => exact h

/-- **All listeners are enlisted**, over runs of any kind. -/
theorem Reach.enlisted {workspace : String} {settings : Settings} {allowed : Act → Prop}
    (h : Reach ids (Editor.start workspace settings) allowed e) : e.workspace.Enlisted ids := by
  induction h with
  | start =>
    intro id hid
    cases hid
  | act a _ _ ih => exact enlisted_act ih a

end Editor

/-- **What a report does to the roster**, whatever the listeners do while they run. A removal finds
just those who were added during this report and are not removed yet. Afterwards the listeners are
all those from before, followed by those who were added and not removed. So removals find just those
who are on the roster, and the roster is the one that additions and removals lead to, under one
condition: nobody from before was to be removed. Whoever was is told of the next event all the same.
-/
theorem Workspace.report_roster {w : Workspace} (hids : Function.Injective ids)
    (h : w.Enlisted ids) (event : Event) :
    ∃ entries recent,
      (report ids w event).journal = w.journal ++ entries ∧
      Honest [] entries ∧
      (report ids w event).listeners = w.listeners ++ recent ∧
      recent.map Prod.fst = entries.foldl enrol [] ∧
      (Honest w.roster entries ↔ w.roster.Disjoint (dismissals entries)) ∧
      ((report ids w event).roster = entries.foldl enrol w.roster ↔
        w.roster.Disjoint (dismissals entries)) ∧
      ∀ l ∈ w.listeners, ∀ next, ∃ entries',
        (report ids (report ids w event) next).journal =
          (report ids w event).journal ++ entries' ∧
        .told l.1 next ∈ entries' := by
  obtain ⟨entries, hr⟩ := report_reported ids w event
  obtain ⟨recent, hlisteners, hrecent⟩ := hr.listeners
  refine ⟨entries, recent, hr.journal, hr.honest, hlisteners, hrecent,
    honest_iff_disjoint hr.honest (hr.newcomers hids h), ?_, fun l hl next => ?_⟩
  · rw [hr.roster]
    exact append_enrolled_iff w.roster entries
  · obtain ⟨entries', hr'⟩ := report_reported ids (report ids w event) next
    refine ⟨entries', hr'.journal, hr'.told l ?_⟩
    rw [hlisteners]
    exact List.mem_append_left _ hl

/-- A listener takes a session out whenever it is told of something. It finds no such listener; the
session stays, and is told of the next event. -/
theorem Workspace.report_roster_session :
    let s := (Session.attach strokes (Editor.start "harbour" {}).workspace .harbour).1
    let w := ([.attach .harbour, .listen fun _ => s.leave].foldl (Editor.act strokes)
      (Editor.start "harbour" {})).workspace
    let event : Event :=
      { block := "", newParent := none, oldParent := none, workspace := "harbour" }
    s.listener ∈ w.roster ∧
    dismissals (report strokes w event).journal = [s.listener] ∧
    ¬ Honest w.roster (report strokes w event).journal ∧
    (report strokes w event).roster = w.roster ∧
    ∃ entries, (report strokes (report strokes w event) event).journal =
      (report strokes w event).journal ++ entries ∧ .told s.listener event ∈ entries := by
  intro s w event
  have hreach : Editor.Reach strokes (Editor.start "harbour" {}) (fun _ => True)
      ([.attach .harbour, .listen fun _ => s.leave].foldl (Editor.act strokes)
        (Editor.start "harbour" {})) := Editor.Reach.run _ fun _ _ => trivial
  have hsession : s.listener ∈ w.roster := by decide +kernel
  have hdismissed : dismissals (report strokes w event).journal = [s.listener] := by
    decide +kernel
  obtain ⟨entries, recent, hjournal, -, -, -, hhonest, -, htold⟩ :=
    report_roster strokes_injective hreach.enlisted event
  obtain rfl : (report strokes w event).journal = entries := hjournal
  obtain ⟨l, hl, hid⟩ := List.mem_map.mp hsession
  rw [← hid] at hsession hdismissed ⊢
  refine ⟨hsession, hdismissed, fun h => ?_, by decide +kernel, htold l hl event⟩
  exact hhonest.mp h hsession (hdismissed ▸ List.mem_singleton_self _)

end TypedBlocks
