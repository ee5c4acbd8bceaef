import TypedBlocks.Proofs.Canvas.Pickers
import TypedBlocks.Proofs.Run.Wiring

/-!
# Variables over runs

No act of any kind loses a variable, renames one or puts them in another order, and none gives two
of them one name (`Reach.retains`). So wherever a run has led, a block can be made without choosing
a variable for it, and the picker of a loop is bound to one that no earlier loop was given
(`pickers_bound`).
-/

namespace TypedBlocks

open Canvas Definition

variable {ids : IdSupply}

/-! ## Workspaces -/

namespace Workspace

/-- Reporting an event loses no variable. -/
theorem retains_report (w : Workspace) (event : Event) :
    Retains w.canvas (report ids w event).canvas := .of_amended (report_amended w event)

theorem retains_unplug (w : Workspace) (child : String) :
    Retains w.canvas (w.unplug ids child).1.canvas :=
  unplug_keeps (P := fun w' => Retains w.canvas w'.canvas)
    (fun w' event h => h.trans (w'.retains_report event)) (fun _ _ _ h => h.trans (.of_vars rfl))
    (.refl _) child

theorem retains_connect (w : Workspace) (child parent input : String) :
    Retains w.canvas (w.connect ids child parent input).1.canvas :=
  connect_keeps (P := fun w' => Retains w.canvas w'.canvas)
    (fun w' event h => h.trans (w'.retains_report event)) (fun _ _ _ h => h.trans (.of_vars rfl))
    (fun _ _ _ _ h => h.trans (.of_vars rfl)) (.refl _) child parent input

end Workspace

namespace Editor

variable {e : Editor}

/-! ## Acts -/

theorem retains_perform (e : Editor) (edit : Edit) :
    Retains e.workspace.canvas (e.perform ids edit).1.workspace.canvas := by
  rcases e.perform_cases ids edit with he | ⟨_, _, _, _, hmade, he⟩ | ⟨_, _, -, he⟩ |
    ⟨child, parent, input, he⟩ | ⟨block, he⟩
  · rw [he]
    exact .refl _
  · rw [he]
    exact .create hmade
  · rw [he]
    exact .refl _
  · rw [he]
    exact e.workspace.retains_connect child parent input
  · rw [he]
    exact e.workspace.retains_unplug block

/-- **No act loses a variable.** Variables are declared, found again and retyped; none is removed,
and none changes its id or its name. -/
theorem retains_act (e : Editor) (a : Act) :
    Retains e.workspace.canvas (e.act ids a).workspace.canvas := by
  cases a with
  | edit edit => exact e.retains_perform edit
  | attach p =>
    have hdeclared : Retains e.workspace.canvas
        (p.domain.documentVariables.foldl (Session.declare ids) e.workspace.canvas) :=
      Session.declare_keeps (P := Retains e.workspace.canvas)
        (fun _ _ h => h.trans (.ensureVariable ..)) (.refl _) _
    exact hdeclared.trans (.of_vars rfl)
  | detach s =>
    rw [act, Session.detach_canvas]
    exact .refl _
  | report event => exact e.workspace.retains_report event
  | amend a =>
    simp only [act, amend]
    split
    · rename_i ha
      exact .of_apply ha
    · exact .refl _
  | listen listener => exact .of_vars rfl
  | unlisten id => exact .refl _
  | askGetter domain id => exact .refl _
  | askLink domain l => exact .refl _

/-- **No run loses a variable**, whatever it is allowed to do. By induction on the run: the step is
that of a single act. -/
theorem Reach.retains {start : Editor} {allowed : Act → Prop} (h : Reach ids start allowed e) :
    Retains start.workspace.canvas e.workspace.canvas := by
  induction h with
  | start => exact .refl _
  | @act e a _ _ ih => exact ih.trans (e.retains_act a)

/-! ## Blocks that are made without choosing a variable -/

/-- **What pickers are bound to if nobody chooses**, wherever a run of any acts has led. Names of
variables are apart, and what comes later leaves them in their places. A new name is the first of
the candidates that no variable has, and found among one more of them than there are variables. A
block of every type that a catalog has can be made; its picker is bound to a variable that is there
then: for a getter the first of its type, or a new one if there is none, for a loop always a new
one. So two loops that are made, whatever happens in between, name two variables, if the id of the
second is new by then. -/
theorem pickers_bound {workspace : String} {settings : Settings}
    (h : Reach ids (start workspace settings) (fun _ => True) e) :
    let c := e.workspace.canvas
    let names := c.vars.map (·.name)
    (names.Nodup ∧ ∀ later, Reach ids e (fun _ => True) later →
      c.roll <+: later.workspace.canvas.roll) ∧
    (∃ n ≤ c.vars.length, freshName names = candidateName n ∧ candidateName n ∉ names ∧
      ∀ m < n, candidateName m ∈ names) ∧
    (∀ (shade : Float) (requests : List Request) (blockType : String) (d : Definition)
        (preset : Option String),
      let catalog := requests.foldl Catalog.serve (Catalog.initial shade)
      catalog.definition? blockType = some d → preset.bind c.findVariable = none →
      ∃ b made, c.create ids catalog blockType preset = .ok (ids c.drawn, made) ∧
        made.block? (ids c.drawn) = some b ∧ c.Picks ids blockType b made ∧
        ∀ field, b.fields.get? variableField = some field →
          ∃ v ∈ made.vars, v.id = field.value) ∧
    ∀ b made, c.MakesUnset ids foreachType b made →
      ∀ after later : Editor, after.workspace = { e.workspace with canvas := made } →
      Reach ids after (fun _ => True) later →
      (∀ v ∈ later.workspace.canvas.vars, v.id ≠ ids (later.workspace.canvas.drawn + 1)) →
      ∀ b' made', later.workspace.canvas.MakesUnset ids foreachType b' made' →
        b'.fields.get? variableField ≠ b.fields.get? variableField := by
  intro c names
  refine ⟨⟨?_, fun later hlater => hlater.retains.stay⟩, ?_, ?_, ?_⟩
  · exact h.retains.apart List.nodup_nil
  · obtain ⟨n, hn, hname, hfree, hbefore⟩ := freshName_first names
    rw [List.length_map] at hn
    exact ⟨n, hn, hname, hfree, hbefore⟩
  · intro shade requests blockType d preset catalog hd hpreset
    obtain ⟨b, made, hmade, hb, hpicks⟩ := create_unset ids
      ((Catalog.Usable.initial shade).foldl_serve requests) hd hpreset
    exact ⟨b, made, hmade, hb, hpicks, fun field => hpicks.bound⟩
  · intro b made hmade after later hafter hlater hfresh b' made' hmade'
    have hkept : Retains made later.workspace.canvas := by
      have hretains := hlater.retains
      rwa [hafter] at hretains
    exact hmade.picks.loops_apart hkept hfresh hmade'.picks

/-- The host has called a variable `item`, and a loop is made for one that there is not: it names
`item2`, and the next loop names another. -/
theorem pickers_bound_taken :
    let e := [.attach .harbour, .amend (.ensureVariable "item" "" (some "mine"))].foldl
      (act strokes) (start "harbour" {})
    ∃ b made, e.workspace.canvas.create strokes (Catalog.initial 0) foreachType (some "nobody") =
        .ok ("|||", made) ∧
      made.block? "|||" = some b ∧ b.fields.get? variableField = some ⟨"||||", []⟩ ∧
      made.vars = e.workspace.canvas.vars ++ [⟨"||||", "item2", ""⟩] ∧
      ∀ b' made', made.MakesUnset strokes foreachType b' made' →
        b'.fields.get? variableField ≠ some ⟨"||||", []⟩ := by
  intro e
  obtain ⟨-, -, hmake, hloops⟩ := pickers_bound (e := e) (Reach.run _ fun _ _ => trivial)
  have hdrawn : e.workspace.canvas.drawn = 2 := by decide +kernel
  have hnobody : (some "nobody").bind e.workspace.canvas.findVariable = none := by decide +kernel
  have hnew : e.workspace.canvas.newVariable strokes "" = ⟨"||||", "item2", ""⟩ := by
    decide +kernel
  obtain ⟨b, made, hmade, hb, hpicks, -⟩ := hmake 0 [] foreachType foreachLoop _ rfl hnobody
  obtain ⟨hfield, hvars⟩ := hpicks.loop rfl
  have hfresh : ∀ v ∈ made.vars, v.id ≠ strokes (made.drawn + 1) := by
    have hcounted : (e.workspace.canvas.create strokes (Catalog.initial 0) foreachType
        (some "nobody")).toOption.map (fun r => r.2.drawn) = some 4 := by decide +kernel
    rw [show Catalog.initial 0 = [].foldl Catalog.serve (Catalog.initial 0) from rfl, hmade,
      Except.toOption, Option.map_some, Option.some.injEq] at hcounted
    rw [hvars, hnew, hcounted]
    decide +kernel
  have hapart := hloops b made ⟨0, [], _, hnobody, hmade, hb⟩
    { e with workspace := { e.workspace with canvas := made } } _ rfl .start hfresh
  rw [hdrawn] at hmade hb
  rw [hnew] at hfield hvars
  rw [hfield] at hapart
  exact ⟨b, made, hmade, hb, hfield, hvars, hapart⟩

end Editor

end TypedBlocks
