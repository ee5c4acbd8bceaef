import TypedBlocks.Proofs.Run.Wiring
import TypedBlocks.Replay

/-!
# Steps that fail

A step of a script that makes a block, or opens a category, passes several points at which it can
fail: the variable to preset, the category, the entry, the definition, and last the alias. All that
it can do is said by `State.making_cases`: nothing that can be seen on the canvas, or one new block,
which is then given its alias. So a step that fails earlier leaves blocks, variables and aliases
alone, and one that fails on its alias does not: the block is there by then, and has the alias
(`State.failed_step`). Over a whole replay an alias is only ever lost in this way, by the step that
ends the replay (`State.run_aliases`).
-/

namespace TypedBlocks

open Canvas

variable {ids : IdSupply}

/-- Opening a category leaves the canvas alone. -/
theorem Editor.openCategory_canvas (e : Editor) (name : String) :
    (e.openCategory name).1.workspace.canvas = e.workspace.canvas := by
  rw [openCategory, Workspace.openCategory]
  cases e.workspace.categories.get? name <;> rfl

/-- **What making a block adds**: one block, which was not there, and maybe a variable behind the
others. -/
theorem Canvas.Coherent.create_adds {c c' : Canvas} (h : Coherent ids c)
    (hids : Function.Injective ids) {catalog : Catalog} {blockType id : String}
    {preset : Option String} (hc : c.create ids catalog blockType preset = .ok (id, c')) :
    c.block? id = none ∧ (c'.block? id).isSome ∧
      (∀ other, other ≠ id → c'.block? other = c.block? other) ∧ c.vars <+: c'.vars := by
  obtain ⟨d, -, rfl, rfl⟩ := create_eq_ok hc
  obtain ⟨-, hblocks, -, -⟩ := h.build_next hids d preset
  obtain ⟨new, hnew, -⟩ : Declared ids (c.draw ids).2 ((c.draw ids).2.build ids d preset).2 :=
    build_declared (c.draw ids).2 d preset
  refine ⟨h.numbered.block?_next hids, ?_, fun other hother => ?_, new, hnew.symm⟩
  · rw [block?_add, if_pos rfl]
    rfl
  · rw [block?_add, if_neg hother, block?_of_blocks hblocks]

namespace Replay

/-- Does a step make a block, or open a category to take one? -/
def Step.Makes : Step → Prop
  | .create _ _ _ => True
  | .category _ _ _ => True
  | _ => False

namespace State

/-! ## All that a making step can do -/

/-- Looking up a variable fails in one way. -/
theorem presetVariable_error {s : State} {preset : Option String} {fault : StepFault}
    (h : s.presetVariable preset = .error fault) : ∃ name, fault = .unknownVariable name := by
  cases preset with
  | none => cases h
  | some name =>
    rw [presetVariable] at h
    split at h
    · cases h
    · cases h
      exact ⟨name, rfl⟩

/-- What the step comes to once an editor has made a block, or has failed to. -/
theorem making_cases (ids : IdSupply) (s : State) {step : Step} (h : step.Makes) :
    (∃ e result, s.step ids step = ({ s with editor := e }, result) ∧
      e.workspace.canvas = s.editor.workspace.canvas ∧
      ∀ label, result ≠ .error (.aliasTaken label)) ∨
    ∃ e catalog blockType preset block,
      s.editor.workspace.canvas.create ids catalog blockType preset =
        .ok (block, e.workspace.canvas) ∧
      (s.step ids step = ({ s with editor := e }, .ok ()) ∨
        ∃ label, s.step ids step = name { s with editor := e } label block) := by
  cases step with
  | create label blockType preset =>
    rw [step]
    cases hpreset : s.presetVariable preset with
    | error fault =>
      obtain ⟨name, rfl⟩ := presetVariable_error hpreset
      exact .inl ⟨s.editor, _, rfl, rfl, nofun⟩
    | ok preset =>
      dsimp only
      rcases s.editor.create_outcome ids blockType preset with ⟨fault, he⟩ | ⟨block, canvas, hc, he⟩
      · rw [he]
        exact .inl ⟨s.editor, _, rfl, rfl, nofun⟩
      · rw [he]
        exact .inr ⟨_, _, _, _, _, hc, .inr ⟨label, rfl⟩⟩
  | category category index label =>
    rw [step]
    have hcanvas := s.editor.openCategory_canvas category
    generalize s.editor.openCategory category = opened at hcanvas ⊢
    obtain ⟨e, items⟩ := opened
    cases items with
    | none => exact .inl ⟨e, _, rfl, hcanvas, nofun⟩
    | some items =>
      cases index with
      | none => exact .inl ⟨e, _, rfl, hcanvas, nofun⟩
      | some index =>
        dsimp only [takeEntry]
        cases items[index]? with
        | none => exact .inl ⟨e, _, rfl, hcanvas, nofun⟩
        | some item =>
          cases item with
          | separator gap => exact .inl ⟨e, _, rfl, hcanvas, nofun⟩
          | block blockType preset =>
            dsimp only
            rw [Editor.take_block]
            rcases e.create_outcome ids blockType (preset.map (·.id)) with
              ⟨fault, he⟩ | ⟨block, canvas, hc, he⟩
            · rw [he]
              exact .inl ⟨e, _, rfl, hcanvas, nofun⟩
            · rw [he]
              rw [show e.workspace.canvas = s.editor.workspace.canvas from hcanvas] at hc
              cases label with
              | none => exact .inr ⟨_, _, _, _, _, hc, .inl rfl⟩
              | some label => exact .inr ⟨_, _, _, _, _, hc, .inr ⟨label, rfl⟩⟩
  | _ => cases h

/-! ## Aliases -/

/-- Giving a block an alias leaves the other aliases alone. -/
theorem get?_name (s : State) (label block other : String) :
    (s.name label block).1.aliases.get? other =
      if other = label then some block else s.aliases.get? other :=
  Table.get?_put ..

/-- Edits of the wiring leave the aliases alone. -/
theorem wiring_aliases (ids : IdSupply) (s : State) {step : Step} (h : ¬ step.Makes) :
    (s.step ids step).1.aliases = s.aliases := by
  cases step with
  | connect child parent input =>
    rw [step]
    cases s.blockOf child with
    | error fault => rfl
    | ok child => cases s.blockOf parent <;> rfl
  | unplug block =>
    rw [step]
    cases s.blockOf block <;> rfl
  | _ => exact absurd trivial h

/-- **A step leaves every alias with its block**, unless it gives the alias to another one, and then
it fails. -/
theorem step_aliases (ids : IdSupply) {s : State} {label block : String}
    (h : s.aliases.get? label = some block) (step : Step) :
    (s.step ids step).1.aliases.get? label = some block ∨
      (s.step ids step).2 = .error (.aliasTaken label) := by
  by_cases hmakes : step.Makes
  · rcases s.making_cases ids hmakes with ⟨e, result, he, -⟩ |
      ⟨e, _, _, _, made, -, he | ⟨given, he⟩⟩
    · rw [he]
      exact .inl h
    · rw [he]
      exact .inl h
    · rw [he, get?_name]
      by_cases hgiven : label = given
      · subst hgiven
        right
        simp [name, h]
      · rw [if_neg hgiven]
        exact .inl h
  · rw [wiring_aliases ids s hmakes]
    exact .inl h

/-- **A replay leaves every alias with its block**, unless it ends because the alias is used
again. -/
theorem run_aliases (ids : IdSupply) {s : State} {label block : String}
    (h : s.aliases.get? label = some block) (number : Nat) (steps : List Step) :
    (s.run ids number steps).1.aliases.get? label = some block ∨
      ∃ n, (s.run ids number steps).2 = .error { step := n, cause := .aliasTaken label } := by
  induction steps generalizing s number with
  | nil => exact .inl h
  | cons step rest ih =>
    have hstep := step_aliases ids h step
    rw [run]
    generalize s.step ids step = r at hstep ⊢
    obtain ⟨after, result⟩ := r
    cases result with
    | error cause =>
      rcases hstep with hkept | htaken
      · exact .inl hkept
      · obtain rfl := Except.error.inj htaken
        exact .inr ⟨number, rfl⟩
    | ok =>
      rcases hstep with hkept | htaken
      · exact ih hkept (number + 1)
      · cases htaken

/-! ## Replays are runs of edits -/

section Reach

variable {start : Editor} {allowed : Act → Prop} (hedit : ∀ edit, allowed (.edit edit))

include hedit

/-- What a step does to the editor, a user could do. -/
theorem reach_step {s : State} (h : Editor.Reach ids start allowed s.editor) (step : Step) :
    Editor.Reach ids start allowed (s.step ids step).1.editor := by
  have hperform : ∀ {e}, Editor.Reach ids start allowed e → ∀ edit,
      Editor.Reach ids start allowed (e.perform ids edit).1 := fun he edit =>
    he.act (.edit edit) (hedit edit)
  cases step with
  | create label blockType preset =>
    rw [step]
    cases s.presetVariable preset with
    | error fault => exact h
    | ok preset =>
      have hmade := hperform h (.create blockType preset)
      rw [Editor.perform] at hmade
      dsimp only at hmade ⊢
      generalize s.editor.create ids blockType preset = r at hmade ⊢
      obtain ⟨e, result⟩ := r
      cases result <;> exact hmade
  | connect child parent input =>
    rw [step]
    cases s.blockOf child with
    | error fault => exact h
    | ok child =>
      cases s.blockOf parent with
      | error fault => exact h
      | ok parent => exact hperform h (.connect child parent input)
  | unplug block =>
    rw [step]
    cases s.blockOf block with
    | error fault => exact h
    | ok block => exact hperform h (.unplug block)
  | category category index label =>
    have hopened := hperform h (.openCategory category)
    rw [step]
    rw [Editor.perform] at hopened
    generalize s.editor.openCategory category = opened at hopened ⊢
    obtain ⟨e, items⟩ := opened
    cases items with
    | none => exact hopened
    | some items =>
      cases index with
      | none => exact hopened
      | some index =>
        dsimp only [takeEntry]
        cases items[index]? with
        | none => exact hopened
        | some item =>
          have htaken := hperform hopened (.take item)
          rw [Editor.perform] at htaken
          dsimp only at htaken ⊢
          generalize e.take ids item = r at htaken ⊢
          obtain ⟨e', result⟩ := r
          rcases result with fault | (_ | block)
          · exact htaken
          · exact htaken
          · cases label <;> exact htaken

/-- What a replay does to the editor, a user could do. -/
theorem reach_run {s : State} (h : Editor.Reach ids start allowed s.editor) (number : Nat)
    (steps : List Step) : Editor.Reach ids start allowed (s.run ids number steps).1.editor := by
  induction steps generalizing s number with
  | nil => exact h
  | cons step rest ih =>
    have hstep := reach_step hedit h step
    rw [run]
    generalize s.step ids step = r at hstep ⊢
    obtain ⟨after, result⟩ := r
    cases result with
    | error cause => exact hstep
    | ok => exact ih hstep (number + 1)

end Reach

/-! ## Failures -/

/-- **What a making step leaves behind when it fails.** If it fails on anything but its alias,
blocks, variables and aliases are as before. If it fails on its alias, which had a block already,
there is a new block, which has the alias from then on, and maybe a new variable. In a replay no
alias is lost in any other way. -/
theorem failed_step (hids : Function.Injective ids) {workspace : String} {settings : Settings}
    {s : State}
    (h : Editor.Reach ids (Editor.start workspace settings) (fun _ => True) s.editor) :
    (∀ step after fault, step.Makes → s.step ids step = (after, .error fault) →
      ((∀ label, fault ≠ .aliasTaken label) →
        after.editor.workspace.canvas = s.editor.workspace.canvas ∧ after.aliases = s.aliases) ∧
      ∀ label, fault = .aliasTaken label → ∃ old new,
        s.aliases.get? label = some old ∧ after.aliases = s.aliases.put label new ∧
        s.editor.workspace.canvas.block? new = none ∧
        (after.editor.workspace.canvas.block? new).isSome ∧
        (∀ other, other ≠ new → after.editor.workspace.canvas.block? other =
          s.editor.workspace.canvas.block? other) ∧
        s.editor.workspace.canvas.vars <+: after.editor.workspace.canvas.vars) ∧
    ∀ number steps label block, s.aliases.get? label = some block →
      (s.run ids number steps).1.aliases.get? label = some block ∨
        ∃ n, (s.run ids number steps).2 = .error { step := n, cause := .aliasTaken label } := by
  refine ⟨fun step after fault hmakes hfail => ?_, fun number steps label block hlabel =>
    run_aliases ids hlabel number steps⟩
  rcases s.making_cases ids hmakes with ⟨e, result, he, hcanvas, hresult⟩ |
    ⟨e, catalog, blockType, preset, made, hmade, he | ⟨given, he⟩⟩
  · obtain ⟨rfl, rfl⟩ := Prod.mk.inj (he.symm.trans hfail)
    exact ⟨fun _ => ⟨hcanvas, rfl⟩, fun label hfault => absurd (congrArg _ hfault) (hresult label)⟩
  · cases he.symm.trans hfail
  · obtain ⟨rfl, hresult⟩ := Prod.mk.inj (he.symm.trans hfail)
    dsimp only at hresult
    split at hresult
    · rename_i htaken
      obtain rfl := Except.error.inj hresult
      refine ⟨fun hother => absurd rfl (hother given), fun label hfault => ?_⟩
      obtain rfl := StepFault.aliasTaken.inj hfault
      obtain ⟨old, hold⟩ := Option.isSome_iff_exists.mp htaken
      exact ⟨old, made, hold, rfl, (h.coherent hids .empty).create_adds hids hmade⟩
    · cases hresult

/-- The alias of an attribute getter is given to a loop as well. The loop is made, with a variable
of its own, and has the alias when the step fails. -/
theorem failed_step_alias :
    let s := ((start (Editor.startWith strokes "harbour" {} .harbour)).run strokes 0
      [.create "a" Definition.getAttributeType none]).1
    let after := (s.step strokes (.create "a" Definition.foreachType none)).1
    s.step strokes (.create "a" Definition.foreachType none) =
      (after, .error (.aliasTaken "a")) ∧
    s.aliases.get? "a" = some "|||" ∧
    (∃ new, after.aliases = s.aliases.put "a" new ∧
      s.editor.workspace.canvas.block? new = none ∧
      (after.editor.workspace.canvas.block? new).isSome) ∧
    after.aliases.get? "a" = some "||||" ∧
    after.editor.workspace.canvas.vars.length = s.editor.workspace.canvas.vars.length + 1 := by
  intro s after
  have hreach : Editor.Reach strokes (Editor.start "harbour" {}) (fun _ => True) s.editor :=
    reach_run (fun _ => trivial) (Editor.Reach.start.act (.attach .harbour) trivial) 0 _
  have hresult : (s.step strokes (.create "a" Definition.foreachType none)).2 =
      .error (.aliasTaken "a") := by decide +kernel
  have hfail : s.step strokes (.create "a" Definition.foreachType none) =
      (after, .error (.aliasTaken "a")) := Prod.ext rfl hresult
  obtain ⟨_, new, -, haliases, hnew, hmade, -⟩ :=
    ((failed_step strokes_injective hreach).1 (.create "a" Definition.foreachType none) after _
      trivial hfail).2 "a" rfl
  exact ⟨hfail, by decide +kernel, ⟨new, haliases, hnew, hmade⟩, by decide +kernel,
    by decide +kernel⟩

end State

end Replay

end TypedBlocks
