import TypedBlocks.Proofs.Canvas.Variables
import TypedBlocks.Proofs.Run.Acts
import TypedBlocks.Proofs.Workspace.Connecting

/-!
# Wiring over runs

Whatever happens to an editor, in whatever order and however it fails, connections stay written
down the same at both ends: `Coherent` is kept by every act. All that is asked for is that the
supply of ids never repeats itself.
-/

namespace TypedBlocks

open Canvas

variable {ids : IdSupply}

/-! ## Editors, act by act -/

/-- What declaring one document variable keeps, declaring any number of them keeps. -/
theorem Session.declare_keeps {P : Canvas → Prop} (hdeclare : ∀ c v, P c → P (declare ids c v))
    {c : Canvas} (h : P c) (vars : List DocumentVariable) : P (vars.foldl (declare ids) c) := by
  induction vars generalizing c with
  | nil => exact h
  | cons v vars ih => exact ih (hdeclare c v h)

/-- Declaring variables touches no block, it may only draw ids. -/
theorem Session.declare_blocks (ids : IdSupply) (vars : List DocumentVariable) (c : Canvas) :
    (vars.foldl (declare ids) c).blocks = c.blocks ∧
      c.drawn ≤ (vars.foldl (declare ids) c).drawn := by
  refine declare_keeps (P := fun c' => c'.blocks = c.blocks ∧ c.drawn ≤ c'.drawn) ?_
    ⟨rfl, Nat.le_refl _⟩ vars
  intro c' v h
  obtain ⟨hblocks, hdrawn⟩ : (declare ids c' v).blocks = c'.blocks ∧
      c'.drawn ≤ (declare ids c' v).drawn := ensureVariable_blocks ..
  exact ⟨hblocks.trans h.1, Nat.le_trans h.2 hdrawn⟩

theorem Session.attach_blocks (ids : IdSupply) (w : Workspace) (p : Propagator) :
    (attach ids w p).2.canvas.blocks = w.canvas.blocks ∧
      w.canvas.drawn ≤ (attach ids w p).2.canvas.drawn := by
  obtain ⟨hblocks, hdrawn⟩ := declare_blocks ids p.domain.documentVariables w.canvas
  exact ⟨hblocks, Nat.le_trans hdrawn (Nat.le_succ _)⟩

/-- All that attaching a session does to the canvas is to declare variables. -/
theorem Session.attach_declared (ids : IdSupply) (w : Workspace) (p : Propagator) :
    Declared ids w.canvas (attach ids w p).2.canvas := by
  have hdeclared := declare_keeps (P := Declared ids w.canvas)
    (fun _ _ h => h.trans (ensureVariable_declared ..)) (.of_vars rfl) p.domain.documentVariables
  exact hdeclared.trans (.of_vars rfl)

/-- Taking a session out leaves the canvas alone. -/
theorem Session.detach_canvas (s : Session) (w : Workspace) : (s.detach w).canvas = w.canvas := by
  rw [detach]
  split <;> rfl

namespace Editor

variable {e : Editor}

/-- **Every edit keeps the wiring**, whether or not it succeeds: plugs and inputs go on pointing at
each other. -/
theorem coherent_perform (hids : Function.Injective ids) (h : Coherent ids e.workspace.canvas)
    (edit : Edit) : Coherent ids (e.perform ids edit).1.workspace.canvas := by
  rcases e.perform_cases ids edit with he | ⟨_, _, _, _, hc, he⟩ | ⟨_, _, -, he⟩ |
    ⟨child, parent, input, he⟩ | ⟨block, he⟩
  · rw [he]
    exact h
  · rw [he]
    exact h.create hids hc
  · rw [he]
    exact h
  · rw [he]
    exact Workspace.coherent_connect h child parent input
  · rw [he]
    exact Workspace.coherent_unplug h block

/-- **Every act keeps the wiring.** -/
theorem coherent_act (hids : Function.Injective ids) (h : Coherent ids e.workspace.canvas)
    (a : Act) : Coherent ids (e.act ids a).workspace.canvas := by
  cases a with
  | edit edit => exact coherent_perform hids h edit
  | attach p =>
    obtain ⟨hblocks, hdrawn⟩ := Session.attach_blocks ids e.workspace p
    exact h.of_blocks hblocks hdrawn
  | detach s =>
    rw [act, Session.detach_canvas]
    exact h
  | report event => exact h.amended (Workspace.report_amended e.workspace event)
  | amend a =>
    simp only [act, amend]
    split
    · rename_i ha
      exact h.amended (.of_apply ha)
    · exact h
  | listen listener => exact h.amended Amended.refl.draw
  | unlisten id => exact h
  | askGetter domain id => exact h
  | askLink domain l => exact h

/-- The wiring is kept over runs of any kind, from any editor in which it is right. By induction on
the run. -/
theorem Reach.coherent {start : Editor} {allowed : Act → Prop} (hids : Function.Injective ids)
    (hstart : Coherent ids start.workspace.canvas) (h : Reach ids start allowed e) :
    Coherent ids e.workspace.canvas := by
  induction h with
  | start => exact hstart
  | act a _ _ ih => exact coherent_act hids ih a

/-! ## Both ends of every connection -/

/-- **The two ends of every connection agree, always.** Let ids be new each time they are drawn, and
let anything happen to an editor that starts out empty: edits that succeed or fail, sessions that
come and go, events that never took place, amendments by the host. Then a block is plugged into an
input just if that input holds it. So a block is in one input at most, what inputs hold exists, no
block holds itself, and places for statements hold nothing. -/
theorem ends_agree (hids : Function.Injective ids) {workspace : String} {settings : Settings}
    (h : Reach ids (start workspace settings) (fun _ => True) e) :
    (∀ child parent input, e.workspace.canvas.plug? child = some ⟨parent, input⟩ ↔
      e.workspace.canvas.target? parent input = some child) ∧
    (∀ child parent input parent' input',
      e.workspace.canvas.target? parent input = some child →
      e.workspace.canvas.target? parent' input' = some child →
        parent = parent' ∧ input = input') ∧
    (∀ child parent input, e.workspace.canvas.target? parent input = some child →
      (e.workspace.canvas.block? child).isSome) ∧
    (∀ block input, e.workspace.canvas.target? block input ≠ some block) ∧
    (∀ block b input i, e.workspace.canvas.block? block = some b → b.inputs.get? input = some i →
      i.statement = true → i.target = none) := by
  have hw : Wired e.workspace.canvas := (h.coherent hids .empty).wired
  refine ⟨fun _ _ _ => hw.plug_iff, fun _ _ _ _ _ => hw.target_unique,
    fun _ _ _ => hw.block_of_target, hw.apart, fun block b input i hb hi hst => ?_⟩
  have hslot : b.frame.slot? input = some i.slot := by rw [Block.slot?_frame, hi, Option.map_some]
  have htarget : e.workspace.canvas.target? block input = none :=
    hw.body (frame?_of_block? hb) hslot hst
  rw [target?_eq_bind, hb, Option.bind_some, Block.target?, hi, Option.bind_some] at htarget
  exact htarget

/-- An event that never happened is reported, and the link is plugged into the attribute getter. -/
theorem ends_agree_stray_event :
    let e := [.attach .harbour, .edit (.openCategory Toolbox.linksName),
      .edit (.create "port_ship_link" none), .edit (.create "get_attribute" none),
      .report (.disconnect "harbour" "|||" "||||"),
      .edit (.connect "|||" "||||" Definition.documentInput)].foldl (act strokes)
        (start "harbour" {})
    (e.workspace.canvas.plug? "|||" = some ⟨"||||", Definition.documentInput⟩ ↔
      e.workspace.canvas.target? "||||" Definition.documentInput = some "|||") ∧
    e.workspace.canvas.target? "||||" Definition.documentInput = some "|||" :=
  ⟨(ends_agree strokes_injective (Reach.run _ fun _ _ => trivial)).1 _ _ _, by decide +kernel⟩

end Editor

end TypedBlocks
