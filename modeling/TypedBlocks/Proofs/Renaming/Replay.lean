import TypedBlocks.Proofs.Renaming.Session
import TypedBlocks.Proofs.Renaming.Supplies
import TypedBlocks.Replay

/-!
# Replays with other ids

Scripts call blocks by aliases and variables by their names, so a script has no ids in it. Two
replays of one script are *alike* when their editors are, and each alias stands for blocks that
correspond; a step keeps them so, and fails on both sides or on neither (`State.Alike.step`).

That compares two supplies of which one is the renamed other. For any two supplies, both replays are
compared with the replay with strokes (`State.run_strokes`), and from there with each other
(`State.run_renamed`, `replay_renamed`).
-/

namespace TypedBlocks.Replay

/-- The fault of a step about other blocks. -/
def StepFault.rename (ρ : String → String) : StepFault → StepFault
  | .edit fault => .edit (fault.rename ρ)
  | fault => fault

/-- A failure about other blocks, of the same step. -/
def Failure.rename (ρ : String → String) (f : Failure) : Failure :=
  { f with cause := f.cause.rename ρ }

theorem Failure.rename_rename (σ ρ : String → String) (f : Failure) :
    (f.rename ρ).rename σ = f.rename (σ ∘ ρ) := by
  obtain ⟨step, cause⟩ := f
  cases cause with
  | edit fault => simp only [rename, StepFault.rename, Fault.rename_rename]
  | _ => rfl

theorem Failure.rename_id (f : Failure) : f.rename id = f := by
  obtain ⟨step, cause⟩ := f
  cases cause with
  | edit fault => simp only [rename, StepFault.rename, Fault.rename_id]
  | _ => rfl

namespace State

variable {ρ : Renaming} {p : Propagator}

/-- Two replays in editors that are alike, whose aliases stand for blocks that correspond. -/
structure Alike (ρ : Renaming) (p : Propagator) (s s' : State) : Prop where
  editor : Editor.Alike ρ p s.editor s'.editor
  aliases : s'.aliases = s.aliases.mapValues fun _ => ρ

namespace Alike

variable {s s' : State}

theorem withEditor (h : Alike ρ p s s') {e e' : Editor} (he : Editor.Alike ρ p e e') :
    Alike ρ p { s with editor := e } { s' with editor := e' } := ⟨he, h.aliases⟩

/-- Giving a block a name fails in both replays or in neither, because the names are the same in
both. -/
theorem name (h : Alike ρ p s s') (label block : String) :
    Corresponds (Alike ρ p) (fun _ => ()) (StepFault.rename ρ) (s.name label block)
      (s'.name label (ρ block)) := by
  refine ⟨⟨h.editor, ?_⟩, ?_⟩
  · simp only [State.name, h.aliases, Table.mapValues_put]
  · simp only [State.name, h.aliases, Table.get?_mapValues, Option.isSome_map]
    split <;> rfl

/-- A name is looked up to the same block in both, but for its id. -/
theorem blockOf (h : Alike ρ p s s') (label : String) :
    s'.blockOf label = ((s.blockOf label).map ρ).mapError (StepFault.rename ρ) := by
  rw [State.blockOf, State.blockOf, h.aliases, Table.get?_mapValues]
  cases s.aliases.get? label <;> rfl

theorem presetVariable (h : Alike ρ p s s') (preset : Option String) :
    s'.presetVariable preset =
      ((s.presetVariable preset).map (Option.map ρ)).mapError (StepFault.rename ρ) := by
  cases preset with
  | none => rfl
  | some name =>
    have hfind : s'.editor.workspace.canvas.vars.find? (·.name = name) =
        (s.editor.workspace.canvas.vars.find? (·.name = name)).map (Variable.rename ρ) := by
      rw [h.editor.workspace.canvas]
      exact List.find?_map ..
    rw [State.presetVariable, State.presetVariable, hfind]
    cases s.editor.workspace.canvas.vars.find? (·.name = name) <;> rfl

/-- A step that makes a block keeps two replays alike, also where it fails on the name, which comes
after the block. -/
theorem create (h : Alike ρ p s s') (ids : IdSupply) (label blockType : String)
    (preset : Option String) :
    Corresponds (Alike ρ p) (fun _ => ()) (StepFault.rename ρ)
      (s.step ids (.create label blockType preset))
      (s'.step (ρ.supply ids) (.create label blockType preset)) := by
  rw [State.step, State.step, h.presetVariable]
  cases s.presetVariable preset with
  | error fault => exact ⟨h, rfl⟩
  | ok preset =>
    dsimp only [Except.map, Except.mapError]
    refine (h.editor.create ids blockType preset).elim (fun _ _ fault he => ?_)
      fun _ _ block he => ?_
    · exact ⟨h.withEditor he, rfl⟩
    · exact (h.withEditor he).name label block

/-- So does one that takes an entry of a category, by its index in a list that is the same in
both. -/
theorem takeEntry (h : Alike ρ p s s') (ids : IdSupply) (category : String)
    (items : List Toolbox.Item) (index : Nat) (label : Option String) :
    Corresponds (Alike ρ p) (fun _ => ()) (StepFault.rename ρ)
      (s.takeEntry ids category items index label)
      (s'.takeEntry (ρ.supply ids) category (items.map (.rename ρ)) index label) := by
  rw [State.takeEntry, State.takeEntry, List.getElem?_map]
  cases items[index]? with
  | none => exact ⟨h, rfl⟩
  | some item =>
    dsimp only [Option.map_some]
    refine (h.editor.take ids item).elim (fun _ _ fault he => ?_) fun _ _ block he => ?_
    · exact ⟨h.withEditor he, rfl⟩
    · cases block with
      | none => exact ⟨h.withEditor he, rfl⟩
      | some block =>
        cases label with
        | none => exact ⟨h.withEditor he, rfl⟩
        | some label => exact (h.withEditor he).name label block

/-- **A step** keeps replays alike, and fails on both sides or on neither. -/
theorem step (h : Alike ρ p s s') (ids : IdSupply) (step : Step) :
    Corresponds (Alike ρ p) (fun _ => ()) (StepFault.rename ρ) (s.step ids step)
      (s'.step (ρ.supply ids) step) := by
  cases step with
  | create label blockType preset => exact h.create ids label blockType preset
  | connect child parent input =>
    rw [State.step, State.step, h.blockOf, h.blockOf]
    cases s.blockOf child with
    | error fault => exact ⟨h, rfl⟩
    | ok child =>
      cases s.blockOf parent with
      | error fault => exact ⟨h, rfl⟩
      | ok parent =>
        dsimp only [Except.map, Except.mapError]
        exact (h.editor.connect ids child parent input).elim
          (fun _ _ fault he => ⟨h.withEditor he, rfl⟩) fun _ _ _ he => ⟨h.withEditor he, rfl⟩
  | unplug block =>
    rw [State.step, State.step, h.blockOf]
    cases s.blockOf block with
    | error fault => exact ⟨h, rfl⟩
    | ok block =>
      dsimp only [Except.map, Except.mapError]
      exact (h.editor.unplug ids block).elim
        (fun _ _ fault he => ⟨h.withEditor he, rfl⟩) fun _ _ _ he => ⟨h.withEditor he, rfl⟩
  | category name index label =>
    obtain ⟨hopen, hresult⟩ := h.editor.openCategory name
    rw [State.step, State.step]
    generalize s.editor.openCategory name = r at hopen hresult ⊢
    generalize s'.editor.openCategory name = r' at hopen hresult ⊢
    obtain ⟨editor, items⟩ := r
    obtain ⟨editor', items'⟩ := r'
    obtain rfl : items' = _ := hresult
    cases items with
    | none => exact ⟨h.withEditor hopen, rfl⟩
    | some items =>
      cases index with
      | none => exact ⟨h.withEditor hopen, rfl⟩
      | some index => exact (h.withEditor hopen).takeEntry ids name items index label

/-- **Running steps** keeps replays alike, and fails at the same step on both sides or on neither.
-/
theorem run (h : Alike ρ p s s') (ids : IdSupply) (number : Nat) (steps : List Step) :
    Corresponds (Alike ρ p) (fun _ => ()) (Failure.rename ρ) (s.run ids number steps)
      (s'.run (ρ.supply ids) number steps) := by
  induction steps generalizing s s' number with
  | nil => exact ⟨h, rfl⟩
  | cons step rest ih =>
    rw [State.run, State.run]
    exact (h.step ids step).elim (fun _ _ cause ht => ⟨ht, rfl⟩) fun _ _ _ ht => ih ht (number + 1)

end Alike

/-! ## Any two supplies -/

/-- What the second replay came to is what the first came to, with other ids: as many blocks, each
plugged in where the first has it, holding what it holds there and naming the variable that it names
there, the same variables in the same order, and the same failure at the same step, if any. -/
structure Renamed (ρ : String → String) (r r' : State × Except Failure Unit) : Prop where
  /-- in the order in which they were made, with all that is on them -/
  blocks : r'.1.editor.workspace.canvas.blocks.entries =
    r.1.editor.workspace.canvas.blocks.entries.map fun e => (ρ e.1, e.2.rename ρ)
  vars : r'.1.editor.workspace.canvas.vars =
    r.1.editor.workspace.canvas.vars.map (Variable.rename ρ)
  drawn : r'.1.editor.workspace.canvas.drawn = r.1.editor.workspace.canvas.drawn
  aliases : r'.1.aliases.entries = r.1.aliases.entries.map fun e => (e.1, ρ e.2)
  catalog : r'.1.editor.catalog = r.1.editor.catalog
  result : r'.2 = r.2.mapError (Failure.rename ρ)

/-- If two lists are renamed to one, each by a renaming of its own, and these can be undone, then
one list is renamed to the other. -/
theorem map_across {α : Type} {xs ys : List α} {f f₁ f₂ g : α → α} (h : ys.map f₂ = xs.map f₁)
    (h₂ : ∀ x, g (f₂ x) = x) (h₁ : ∀ x, g (f₁ x) = f x) : ys = xs.map f := by
  have hmap := congrArg (List.map g) h
  simp only [List.map_map, Function.comp_def, h₂, h₁, List.map_id'] at hmap
  exact hmap

theorem mapError_across {α ε : Type} {x y : Except ε α} {f f₁ f₂ g : ε → ε}
    (h : y.mapError f₂ = x.mapError f₁) (h₂ : ∀ a, g (f₂ a) = a) (h₁ : ∀ a, g (f₁ a) = f a) :
    y = x.mapError f := by
  cases x with
  | ok a =>
    cases y with
    | ok b => exact congrArg _ (Except.ok.inj h)
    | error b => cases h
  | error a =>
    cases y with
    | ok b => cases h
    | error b => rw [← h₂ b, Except.error.inj h, h₁]; rfl

/-- What is the same after two exchanges of ids corresponds before them. -/
theorem Renamed.across {ρ₁ ρ₂ σ ρ : String → String} {r r' t : State × Except Failure Unit}
    (h₁ : Renamed ρ₁ r t) (h₂ : Renamed ρ₂ r' t) (hσ₂ : σ ∘ ρ₂ = id) (hσ₁ : σ ∘ ρ₁ = ρ) :
    Renamed ρ r r' where
  blocks := by
    refine map_across (h₂.blocks.symm.trans h₁.blocks)
      (g := fun e => (σ e.1, e.2.rename σ)) (fun e => ?_) fun e => ?_
    · rw [Block.rename_rename, hσ₂, Block.rename_id]
      exact Prod.ext (congrFun hσ₂ e.1) rfl
    · rw [Block.rename_rename, hσ₁]
      exact Prod.ext (congrFun hσ₁ e.1) rfl
  vars := by
    refine map_across (h₂.vars.symm.trans h₁.vars) (g := Variable.rename σ) (fun v => ?_)
      fun v => ?_
    · rw [Variable.rename_rename, hσ₂]
      rfl
    · rw [Variable.rename_rename, hσ₁]
  drawn := h₂.drawn.symm.trans h₁.drawn
  aliases := map_across (h₂.aliases.symm.trans h₁.aliases) (g := fun e => (e.1, σ e.2))
    (fun e => Prod.ext rfl (congrFun hσ₂ e.2)) fun e => Prod.ext rfl (congrFun hσ₁ e.2)
  catalog := h₂.catalog.symm.trans h₁.catalog
  result := by
    refine mapError_across (h₂.result.symm.trans h₁.result) (g := Failure.rename σ) (fun f => ?_)
      fun f => ?_
    · rw [Failure.rename_rename, hσ₂, Failure.rename_id]
    · rw [Failure.rename_rename, hσ₁]

/-- The replay of steps with any supply corresponds to that with strokes. -/
theorem run_strokes {ids : IdSupply} (hids : Function.Injective ids) (hne : ∀ n, ids n ≠ "")
    {mark : Char} (hmark : mark ≠ '|') (workspace workspace' : String) (settings : Settings)
    (p : Propagator) (steps : List Step) :
    Renamed (Renaming.stroke ids mark)
      ((start (Editor.startWith ids workspace settings p)).run ids 0 steps)
      ((start (Editor.startWith strokes workspace' settings p)).run strokes 0 steps) := by
  -- the workspaces' own ids are of no account, so they need not correspond
  have hstart : Alike (.toStrokes hids hne mark hmark) p
      (start (Editor.startWith ids workspace settings p))
      (start (Editor.startWith _ workspace' settings p)) :=
    ⟨.startWith _ ids workspace workspace' settings p, rfl⟩
  obtain ⟨h, hresult⟩ := hstart.run ids 0 steps
  have hunit : ∀ result : Except Failure Unit, result.map (fun _ => ()) = result := fun result => by
    cases result <;> rfl
  rw [Renaming.supply_toStrokes] at h hresult
  rw [hunit] at hresult
  have hcanvas := h.editor.workspace.canvas
  refine ⟨?_, ?_, ?_, ?_, h.editor.catalog, hresult⟩
  · rw [hcanvas]
    exact List.map_map ..
  · rw [hcanvas]
    rfl
  · rw [hcanvas]
    rfl
  · rw [h.aliases]
    rfl

/-- What corresponds to the same replay with strokes corresponds to each other. -/
theorem renamed_of_strokes {ids ids' : IdSupply} (hids : Function.Injective ids)
    (hne : ∀ n, ids n ≠ "") (hids' : Function.Injective ids') (hne' : ∀ n, ids' n ≠ "")
    {ρ : String → String} (hρ : ∀ n, ρ (ids n) = ids' n) (hempty : ρ "" = "")
    {r r' t : State × Except Failure Unit} (h : Renamed (Renaming.stroke ids 'x') r t)
    (h' : Renamed (Renaming.stroke ids' 'y') r' t) : Renamed ρ r r' := by
  obtain ⟨σ, hσ', hσ⟩ := Renaming.exists_exchange (a := 'x') (b := 'y') hids hids' hne hne'
    (by decide) (by decide) (by decide) hρ hempty
  exact h.across h' hσ' hσ

/-- **Replays do not depend on the ids that are drawn.** Let two supplies draw ids that are new each
time and never empty, and let one be renamed to the other. Two replays of the same steps, with a
session over the same domain, come to the same but for the ids, and fail at the same step over the
same thing if they fail: the id that one drew at some point stands where the other has the id that
it drew there. -/
theorem run_renamed {ids ids' : IdSupply} (hids : Function.Injective ids) (hne : ∀ n, ids n ≠ "")
    (hids' : Function.Injective ids') (hne' : ∀ n, ids' n ≠ "") {ρ : String → String}
    (hρ : ∀ n, ρ (ids n) = ids' n) (hempty : ρ "" = "") (workspace workspace' : String)
    (settings : Settings) (p : Propagator) (steps : List Step) :
    Renamed ρ ((start (Editor.startWith ids workspace settings p)).run ids 0 steps)
      ((start (Editor.startWith ids' workspace' settings p)).run ids' 0 steps) :=
  renamed_of_strokes hids hne hids' hne' hρ hempty
    (run_strokes hids hne (by decide) workspace "" settings p steps)
    (run_strokes hids' hne' (by decide) workspace' "" settings p steps)

/-- Every character becomes a dot. -/
def dotted (s : String) : String := String.ofList (s.toList.map fun _ => '.')

/-- A ship is plugged into a link, and then the link into the ship, which has no input: with dots
for strokes, that fails as well, and the message is about the block with three dots. -/
theorem run_renamed_dotted :
    let dots : IdSupply := fun n => dotted (strokes n)
    let steps : List Step :=
      [.category Toolbox.documentVariablesName (some 0) (some "ship"),
        .category Toolbox.linksName (some 0) (some "link"),
        .connect "ship" "link" Definition.linkInput, .connect "link" "ship" Definition.linkInput]
    let r := (start (Editor.startWith strokes "harbour" {} .harbour)).run strokes 0 steps
    let r' := (start (Editor.startWith dots "port" {} .harbour)).run dots 0 steps
    Renamed dotted r r' ∧
      r'.2 = .error { step := 3, cause := .edit (.noInput "..." Definition.linkInput) } := by
  intro dots steps r r'
  have hlength : ∀ n, (dots n).toList.length = n + 1 := fun n => by simp [dots, dotted, strokes]
  have hdots : Function.Injective dots := fun m n h => by
    have hsame := hlength m
    rw [h, hlength n] at hsame
    exact (Nat.succ_injective hsame).symm
  have hne : ∀ n, dots n ≠ "" := fun n h => by
    have hempty := hlength n
    rw [h] at hempty
    cases hempty
  have hrenamed : Renamed dotted r r' :=
    run_renamed strokes_injective strokes_ne_empty hdots hne (fun _ => rfl) (by decide) "harbour"
      "port" {} .harbour steps
  have hresult : r.2 =
      .error { step := 3, cause := .edit (.noInput "|||" Definition.linkInput) } := by
    decide +kernel
  refine ⟨hrenamed, ?_⟩
  rw [hrenamed.result, hresult]
  decide

/-- Taking sessions out of their workspaces afterwards makes no difference. -/
theorem Renamed.detach {ρ : String → String} {s s' : State} {result result' : Except Failure Unit}
    (h : Renamed ρ (s, result) (s', result')) (session session' : Session) :
    Renamed ρ
      ({ s with editor := { s.editor with workspace := session.detach s.editor.workspace } },
        result)
      ({ s' with editor := { s'.editor with workspace := session'.detach s'.editor.workspace } },
        result') := by
  obtain ⟨hblocks, hvars, hdrawn, haliases, hcatalog, hresult⟩ := h
  constructor
  · simpa only [Session.detach_canvas] using hblocks
  · simpa only [Session.detach_canvas] using hvars
  · simpa only [Session.detach_canvas] using hdrawn
  · exact haliases
  · exact hcatalog
  · exact hresult

end State

/-- **Whole replays** do not depend on the ids either: the session is attached before the script,
and taken out again after it. -/
theorem replay_renamed {ids ids' : IdSupply} (hids : Function.Injective ids)
    (hne : ∀ n, ids n ≠ "") (hids' : Function.Injective ids') (hne' : ∀ n, ids' n ≠ "")
    {ρ : String → String} (hρ : ∀ n, ρ (ids n) = ids' n) (hempty : ρ "" = "")
    (workspace workspace' : String) (settings : Settings) (domain : Domain) (script : Script) :
    State.Renamed ρ (replay ids workspace settings domain script)
      (replay ids' workspace' settings domain script) := by
  let p : Propagator := { domain, snapRadius := settings.snapRadius }
  have hrun := State.renamed_of_strokes hids hne hids' hne' hρ hempty
    (State.run_strokes hids hne (by decide) workspace "" settings p script.steps)
    (State.run_strokes hids' hne' (by decide) workspace' "" settings p script.steps)
  generalize hr : (State.start (Editor.startWith ids workspace settings p)).run ids 0 script.steps =
    r at hrun
  generalize hr' :
    (State.start (Editor.startWith ids' workspace' settings p)).run ids' 0 script.steps = r' at hrun
  simp only [Editor.startWith, Editor.act, p] at hr hr'
  simp only [replay, hr, hr']
  obtain ⟨s, result⟩ := r
  obtain ⟨s', result'⟩ := r'
  obtain rfl : result' = _ := hrun.result
  cases result with
  | error failure => exact hrun
  | ok => exact hrun.detach _ _

end TypedBlocks.Replay
