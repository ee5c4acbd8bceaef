import Mathlib.Data.List.Induction
import Mathlib.Data.List.Infix
import TypedBlocks.Proofs.Definition.Keys
import TypedBlocks.Proofs.Run.Loops
import TypedBlocks.Proofs.Session.Getters

/-!
# Getters over runs

In session, every document getter names a variable that there is. It puts out what that variable
stands for, unless one of two things has happened to it: it was made with its picker preset to a
variable of another type (`Mispresets`), or a loop whose picker has the same value was given a list
of documents of another collection (`Retypes`). The loop gives the variable its own type then, and
does not ask who else names it.

Both are said of one getter and of one edit that succeeds, and each edit is judged exactly: a new
getter agrees with its variable just if it was not made in the first way (`agrees_new_iff`), and a
getter that agrees goes on doing so just if the edit is none of the second kind
(`agrees_perform_iff`). `Parted` says that there was such an edit in a run and that the two have not
agreed since, so a getter agrees just if they have not parted (`getters_agree_until`).
-/

namespace TypedBlocks

open Canvas Definition

variable {ids : IdSupply} {p : Propagator}

/-! ## Getters on a canvas -/

section

variable {c : Canvas} {getter id : String}

/-- A getter agrees with its variable: its picker names one that is there, and the type of that is
all that the getter puts out. -/
def Canvas.GetterAgrees (c : Canvas) (getter : String) : Prop :=
  ∃ b field v, c.block? getter = some b ∧ b.fields.get? variableField = some field ∧
    c.findVariable field.value = some v ∧ b.outputCheck = some [v.type]

theorem Canvas.isGetter_iff :
    c.IsGetter getter id ↔ ∃ b, c.block? getter = some b ∧ b.type = getterType id := by
  constructor
  · rintro ⟨f, hf, ht⟩
    obtain ⟨b, hb, rfl⟩ := Option.map_eq_some_iff.mp hf
    exact ⟨b, hb, ht⟩
  · rintro ⟨b, hb, ht⟩
    exact ⟨b.frame, frame?_of_block? hb, ht⟩

theorem Canvas.IsGetter.block?_ne_none (h : c.IsGetter getter id) : c.block? getter ≠ none := by
  obtain ⟨b, hb, -⟩ := isGetter_iff.mp h
  rw [hb]
  exact Option.some_ne_none b

/-- What getters put out is known from their types: a document of the collection that the type
names. -/
theorem Canvas.Formed.outputCheck_of_getterType (h : Formed c) {b : Block}
    (hb : c.block? getter = some b) (ht : b.type = getterType id) :
    b.outputCheck = some [(Tag.document id).text] := by
  have hout := h.output?_of_getterType (frame?_of_block? hb) ht
  rw [output?, hb, Option.map_some, Option.some.injEq, Prod.mk.injEq] at hout
  exact hout.2

/-- So whether a getter agrees with its variable shows in the variable alone. -/
theorem Canvas.Formed.getterAgrees_iff (h : Formed c) (hgetter : c.IsGetter getter id) :
    c.GetterAgrees getter ↔ c.Agrees getter id := by
  obtain ⟨b, hb, ht⟩ := isGetter_iff.mp hgetter
  have hout := h.outputCheck_of_getterType hb ht
  constructor
  · rintro ⟨b', field, v, hb', hfield, hv, hout'⟩
    obtain rfl := Option.some.inj (hb.symm.trans hb')
    rw [hout, Option.some.injEq, List.singleton_inj] at hout'
    rw [Agrees, loopVariable?, field?_eq_bind, hb, Option.bind_some, hfield, Option.bind_some, hv,
      Option.map_some, hout']
  · intro hagrees
    obtain ⟨v, hv, htype⟩ := Option.map_eq_some_iff.mp hagrees
    obtain ⟨field, hfield, hv⟩ := Option.bind_eq_some_iff.mp hv
    rw [field?_eq_bind, hb, Option.bind_some] at hfield
    exact ⟨b, field, v, hb, hfield, hv, by rw [hout, htype]⟩

end

/-! ## Connections -/

namespace Workspace

variable {w : Workspace}

/-- Connecting blocks changes no frame. -/
theorem frame?_connect (ids : IdSupply) (w : Workspace) (child parent input block : String) :
    (w.connect ids child parent input).1.canvas.frame? block = w.canvas.frame? block :=
  connect_keeps (P := fun w' => w'.canvas.frame? block = w.canvas.frame? block)
    (fun w' event h => ((report_amended w' event).pruned.frame block).trans h)
    (fun _ _ _ h => (frame?_detach ..).trans h) (fun _ _ _ _ h => (frame?_plugIn ..).trans h) rfl
    child parent input

/-- **A block is connected.** A getter goes on agreeing with its variable, unless that succeeds and
gives a loop whose picker has the same value a list of documents of another collection. -/
theorem Attended.agrees_connect_iff (hids : Function.Injective ids) (hne : ∀ n, ids n ≠ "")
    (h : Attended ids p w) (hl : Looped w.canvas) {getter collection : String}
    (hagrees : w.canvas.Agrees getter collection) (child parent input : String) :
    (w.connect ids child parent input).1.canvas.Agrees getter collection ↔
      ((w.connect ids child parent input).2 = .ok () →
        ∀ f other, w.canvas.frame? parent = some f → f.type = foreachType →
          w.canvas.tag child = .documentArray other → w.canvas.Shares getter parent →
            other = collection) := by
  rcases connect_cases ids w child parent input with ⟨fault, -, he⟩ | ⟨hfits, -⟩
  · rw [he]
    exact iff_of_true hagrees nofun
  · by_cases hsnag : ∃ occupant, Snagged w.canvas child parent input occupant
    · obtain ⟨occupant, hsnag⟩ := hsnag
      rw [h.connect_of_snagged hfits hsnag]
      exact iff_of_true (((h.vacate_pulls child).agrees_iff getter collection).mpr hagrees) nofun
    · obtain ⟨hok, c, -, hc, hfitsc, hplug, htarget, hpulls, hout, hcanvas, -⟩ :=
        h.connect_of_fits hfits fun occupant hs => hsnag ⟨occupant, hs⟩
      have hlooped : Looped c := hl.steps hids hne hpulls.steps
      have hagreesc := (hpulls.agrees_iff getter collection).mpr hagrees
      -- the blocks that are pulled out first show in none of what decides
      have hshares : c.Shares getter parent ↔ w.canvas.Shares getter parent := by
        simp only [Shares, hpulls.field? _ (show variableField ≠ attributeField by decide)]
      rw [hcanvas, hagreesc.plugged_iff hc hlooped hfitsc hplug htarget]
      simp only [hok, hpulls.pruned.frame, tag_congr hout, hshares, forall_const]

end Workspace

/-! ## Edits -/

/-- What an edit makes if it succeeds: a block of which type, and preset to which variable. -/
def Edit.making? : Edit → Option (String × Option String)
  | .create blockType preset => some (blockType, preset)
  | .take (.block blockType listed) => some (blockType, listed.map (·.id))
  | _ => none

namespace Editor

variable {e : Editor} {getter id : String} {edit : Edit}

/-- Does an edit make this getter of a collection, with its picker preset to a variable of another
type? -/
def Mispresets (ids : IdSupply) (e : Editor) (edit : Edit) (getter id : String) : Prop :=
  (e.perform ids edit).2 = .ok () ∧
    e.workspace.canvas.block? getter = none ∧
    ((e.perform ids edit).1.workspace.canvas.block? getter).isSome ∧
    ∃ preset v, edit.making? = some (getterType id, some preset) ∧
      e.workspace.canvas.findVariable preset = some v ∧ v.type ≠ (Tag.document id).text

/-- Does an edit give a loop a list of documents of another collection than that of this getter,
where the loop and the getter name the same? -/
def Retypes (ids : IdSupply) (e : Editor) (edit : Edit) (getter id : String) : Prop :=
  (e.perform ids edit).2 = .ok () ∧
    ∃ child loop input b other, edit = .connect child loop input ∧
      e.workspace.canvas.block? loop = some b ∧ b.type = foreachType ∧
      e.workspace.canvas.tag child = .documentArray other ∧
      e.workspace.canvas.Shares getter loop ∧ other ≠ id

/-- An edit that makes a block of a type is a creation of that type. -/
theorem perform_of_making? {blockType : String} {preset : Option String}
    (h : edit.making? = some (blockType, preset)) :
    e.perform ids edit =
      ((e.create ids blockType preset).1, (e.create ids blockType preset).2.map fun _ => ()) := by
  cases edit with
  | create =>
    cases h
    rfl
  | take item =>
    cases item with
    | separator => cases h
    | block blockType' listed =>
      cases h
      rw [perform_take]
      rfl
  | _ => cases h

/-- An edit that makes no block changes no frame. -/
theorem frame?_perform (h : InOrder ids p e) (hedit : edit.making? = none) (block : String) :
    (e.perform ids edit).1.workspace.canvas.frame? block = e.workspace.canvas.frame? block := by
  cases edit with
  | create => cases hedit
  | take item =>
    cases item with
    | separator => rfl
    | block => cases hedit
  | openCategory name =>
    simp only [perform, openCategory, Workspace.openCategory]
    cases e.workspace.categories.get? name <;> rfl
  | connect child parent input =>
    exact Workspace.frame?_connect ids e.workspace child parent input block
  | unplug child => exact (h.attended.unplug_pulls child).pruned.frame block

/-- **What is a getter after an edit** was one before, or was made by the edit, from the definition
that the catalog has for it. -/
theorem isGetter_perform (h : InOrder ids p e)
    (hafter : (e.perform ids edit).1.workspace.canvas.IsGetter getter id) :
    e.workspace.canvas.IsGetter getter id ∨
    ∃ preset canvas made colour, edit.making? = some (getterType id, preset) ∧
      e.workspace.canvas.create ids e.catalog (getterType id) preset = .ok (getter, canvas) ∧
      e.perform ids edit = ({ e with workspace := { e.workspace with canvas } }, .ok ()) ∧
      made.id = id ∧ e.catalog.definition? (getterType id) = some (documentGetter made colour) := by
  cases hmaking : edit.making? with
  | none =>
    obtain ⟨f, hf, ht⟩ := hafter
    exact .inl ⟨f, (frame?_perform h hmaking getter).symm.trans hf, ht⟩
  | some making =>
    obtain ⟨blockType, preset⟩ := making
    have hperform : e.perform ids edit = _ := perform_of_making? hmaking
    rcases e.create_outcome ids blockType preset with ⟨_, hfault⟩ | ⟨new, canvas, hmade, hcreate⟩
    · rw [hperform, hfault] at hafter
      exact .inl hafter
    · rw [hperform, hcreate] at hafter
      rcases isGetter_create h.sound hmade hafter with ⟨-, hbefore⟩ | ⟨rfl, made, colour, rfl, hd⟩
      · exact .inl hbefore
      · -- the catalog has the definition under the key that the type is read as
        obtain ⟨key, hread, hget⟩ := Option.bind_eq_some_iff.mp hd
        have htype : (documentGetter made colour).blockType = getterType made.id := rfl
        obtain ⟨rfl, -⟩ := (h.sound key _ hget).of_getterType htype
        obtain rfl := Key.eq_getterType_of_ofBlockType? hread
        exact .inr ⟨preset, canvas, made, colour, rfl, hmade, by rw [hperform, hcreate]; rfl, rfl,
          hd⟩

/-- Blocks that are made make no difference to the getters that were there: a new variable is added
behind the others, and none is retyped. -/
theorem agrees_create (hids : Function.Injective ids) (h : InOrder ids p e)
    (hgetter : e.workspace.canvas.IsGetter getter id)
    (hagrees : e.workspace.canvas.Agrees getter id) (blockType : String)
    (preset : Option String) :
    (e.create ids blockType preset).1.workspace.canvas.Agrees getter id := by
  rcases e.create_cases ids blockType preset with hsame | ⟨new, canvas, hmade, hcanvas⟩
  · rw [hsame]
    exact hagrees
  · rw [hcanvas]
    refine hagrees.create hmade ?_
    rintro rfl
    exact hgetter.block?_ne_none (h.attended.settled.coherent.block?_made hids hmade)

/-- Only connections retype. -/
theorem not_retypes (hedit : ∀ child loop input, edit ≠ .connect child loop input) :
    ¬ e.Retypes ids edit getter id := by
  rintro ⟨-, child, loop, input, -, -, rfl, -⟩
  exact hedit child loop input rfl

/-- **A getter that was there** goes on agreeing with its variable, just if the edit does not retype
that to something else. -/
theorem agrees_perform_iff (hids : Function.Injective ids) (hne : ∀ n, ids n ≠ "")
    (h : InOrder ids p e) (hl : Looped e.workspace.canvas)
    (hgetter : e.workspace.canvas.IsGetter getter id)
    (hagrees : e.workspace.canvas.Agrees getter id) (edit : Edit) :
    (e.perform ids edit).1.workspace.canvas.Agrees getter id ↔ ¬ e.Retypes ids edit getter id := by
  cases edit with
  | create blockType preset =>
    exact iff_of_true (agrees_create hids h hgetter hagrees blockType preset)
      (not_retypes (by simp))
  | take item =>
    refine iff_of_true ?_ (not_retypes (by simp))
    cases item with
    | separator => exact hagrees
    | block blockType listed =>
      rw [perform_of_making? rfl]
      exact agrees_create hids h hgetter hagrees blockType _
  | openCategory name =>
    refine iff_of_true ?_ (not_retypes (by simp))
    simp only [perform, openCategory, Workspace.openCategory]
    cases e.workspace.categories.get? name <;> exact hagrees
  | connect child parent input =>
    refine (h.attended.agrees_connect_iff hids hne hl hagrees child parent input).trans ?_
    constructor
    · rintro hkept ⟨hok, _, _, _, b, other, hedit, hb, ht, htag, hshares, hother⟩
      cases hedit
      exact hother (hkept hok b.frame other (frame?_of_block? hb) ht htag hshares)
    · intro hnot hok f other hf ht htag hshares
      obtain ⟨b, hb, rfl⟩ := Option.map_eq_some_iff.mp hf
      by_contra hother
      exact hnot ⟨hok, child, parent, input, b, other, rfl, hb, ht, htag, hshares, hother⟩
  | unplug block =>
    exact iff_of_true (((h.attended.unplug_pulls block).agrees_iff getter id).mpr hagrees)
      (not_retypes (by simp))

/-- **A getter that is new** agrees with its variable, just if it was not preset to one of another
type. -/
theorem agrees_new_iff (hids : Function.Injective ids) (h : InOrder ids p e)
    (he : Enrolled ids e.workspace.canvas) (hnew : e.workspace.canvas.block? getter = none)
    (hgetter : (e.perform ids edit).1.workspace.canvas.IsGetter getter id) :
    (e.perform ids edit).1.workspace.canvas.Agrees getter id ↔
      ¬ e.Mispresets ids edit getter id := by
  have hexists : ((e.perform ids edit).1.workspace.canvas.block? getter).isSome :=
    Option.isSome_iff_ne_none.mpr hgetter.block?_ne_none
  obtain ⟨preset, canvas, made, colour, hmaking, hmade, hperform, rfl, hd⟩ :=
    (isGetter_perform h hgetter).resolve_left fun hold => hold.block?_ne_none hnew
  rw [show (e.perform ids edit).1.workspace.canvas = canvas by rw [hperform],
    agrees_made_iff hids he hmade hd]
  constructor
  · rintro hpreset ⟨-, -, -, preset', v, hmaking', hv, htype⟩
    rw [hmaking, Option.some.injEq, Prod.mk.injEq] at hmaking'
    exact htype (hpreset v (by rw [hmaking'.2]; exact hv))
  · intro hnot v hv
    by_contra htype
    obtain ⟨preset, rfl, hv⟩ := Option.bind_eq_some_iff.mp hv
    exact hnot ⟨by rw [hperform], hnew, hexists, preset, v, hmaking, hv, htype⟩

/-! ## From the start -/

/-- Attaching a session enrolls the variables that it declares. -/
theorem enrolled_startWith (hids : Function.Injective ids) (workspace : String)
    (settings : Settings) (p : Propagator) :
    Enrolled ids (startWith ids workspace settings p).workspace.canvas := by
  have hempty : Enrolled ids Canvas.empty := .empty
  have hdeclared := Session.declare_keeps (fun _ v h => h.ensureVariable hids v.name _) hempty
    p.domain.documentVariables
  -- the listener draws an id as well
  exact hdeclared.congr rfl (Nat.le_succ _)

/-- On the canvas that a session starts out with there is no getter. -/
theorem not_isGetter_startWith (ids : IdSupply) (workspace : String) (settings : Settings)
    (p : Propagator) (getter id : String) :
    ¬ (startWith ids workspace settings p).workspace.canvas.IsGetter getter id := by
  rintro ⟨f, hf, -⟩
  have hblocks := (Session.attach_blocks ids (Workspace.empty workspace) p).1
  rw [show (startWith ids workspace settings p).workspace.canvas.frame? getter = _ from
    frame?_of_blocks hblocks getter] at hf
  cases hf

/-- Users find the variables enrolled, and every getter with a variable to name. -/
theorem Reach.named (hids : Function.Injective ids) {workspace : String} {settings : Settings}
    (h : Reach ids (startWith ids workspace settings p) Act.ByUser e) :
    Enrolled ids e.workspace.canvas ∧ Named e.workspace.canvas := by
  refine Named.steps hids (enrolled_startWith hids workspace settings p) ?_ (h.steps hids)
  exact fun getter id hgetter =>
    absurd hgetter (not_isGetter_startWith ids workspace settings p getter id)

/-! ## One act -/

/-- On a canvas in order, whether a getter agrees with its variable shows in the variable. -/
theorem InOrder.getterAgrees_iff (h : InOrder ids p e)
    (hgetter : e.workspace.canvas.IsGetter getter id) :
    e.workspace.canvas.GetterAgrees getter ↔ e.workspace.canvas.Agrees getter id :=
  h.attended.settled.formed.getterAgrees_iff hgetter

/-- **What an act does to a getter.** After it the getter agrees with its variable, or it was there
before and did not agree then, or the act is an edit that made it with another preset, or one that
retyped what it agreed with. -/
theorem agrees_act (hids : Function.Injective ids) (hne : ∀ n, ids n ≠ "") {workspace : String}
    {settings : Settings} (h : Reach ids (startWith ids workspace settings p) Act.ByUser e)
    {a : Act} (ha : a.ByUser) (hgetter : (e.act ids a).workspace.canvas.IsGetter getter id) :
    (e.act ids a).workspace.canvas.GetterAgrees getter ∨
      e.workspace.canvas.IsGetter getter id ∧ ¬ e.workspace.canvas.GetterAgrees getter ∨
      ∃ edit, a = .edit edit ∧ (e.Mispresets ids edit getter id ∨
        e.workspace.canvas.GetterAgrees getter ∧ e.Retypes ids edit getter id) := by
  have horder := h.inOrder hids
  cases a with
  | edit edit =>
    rw [act] at hgetter ⊢
    rw [(horder.perform hids edit).getterAgrees_iff hgetter]
    rcases isGetter_perform horder hgetter with hold | ⟨_, _, _, _, -, hmade, -⟩
    · rw [horder.getterAgrees_iff hold]
      by_cases hagrees : e.workspace.canvas.Agrees getter id
      · rw [agrees_perform_iff hids hne horder (h.looped hids hne) hold hagrees]
        by_cases hretype : e.Retypes ids edit getter id
        · exact .inr (.inr ⟨edit, rfl, .inr ⟨hagrees, hretype⟩⟩)
        · exact .inl hretype
      · exact .inr (.inl ⟨hold, hagrees⟩)
    · have hnew := horder.attended.settled.coherent.block?_made hids hmade
      rw [agrees_new_iff hids horder (h.named hids).1 hnew hgetter]
      by_cases hpreset : e.Mispresets ids edit getter id
      · exact .inr (.inr ⟨edit, rfl, .inl hpreset⟩)
      · exact .inl hpreset
  | askGetter domain collection =>
    exact or_iff_not_imp_left.mpr fun hnow => .inl ⟨hgetter, hnow⟩
  | askLink domain l => exact or_iff_not_imp_left.mpr fun hnow => .inl ⟨hgetter, hnow⟩
  | _ => cases ha

/-! ## Runs -/

/-- In the course of a run a getter has parted from its variable: an edit made it with its picker
preset to a variable of another type, or retyped the variable that it had agreed with until then.
After that edit, whatever followed, the two have not agreed again. -/
def Parted (ids : IdSupply) (start : Editor) (acts : List Act) (getter id : String) : Prop :=
  ∃ earlier edit later, acts = earlier ++ .edit edit :: later ∧
    ((start.after ids earlier).Mispresets ids edit getter id ∨
      (start.after ids earlier).workspace.canvas.GetterAgrees getter ∧
        (start.after ids earlier).Retypes ids edit getter id) ∧
    ∀ between, between <+: later →
      ¬ (start.after ids (earlier ++ .edit edit :: between)).workspace.canvas.GetterAgrees getter

namespace Parted

variable {start : Editor} {acts : List Act}

/-- Now they do not agree. -/
theorem not_agrees (h : Parted ids start acts getter id) :
    ¬ (start.after ids acts).workspace.canvas.GetterAgrees getter := by
  obtain ⟨earlier, edit, later, rfl, -, hsince⟩ := h
  exact hsince later List.prefix_rfl

/-- One more act goes by, and they still do not agree. -/
theorem concat (h : Parted ids start acts getter id) {a : Act}
    (hnow : ¬ (start.after ids (acts ++ [a])).workspace.canvas.GetterAgrees getter) :
    Parted ids start (acts ++ [a]) getter id := by
  obtain ⟨earlier, edit, later, rfl, hedit, hsince⟩ := h
  refine ⟨earlier, edit, later ++ [a], by simp, hedit, fun between hbetween => ?_⟩
  rcases List.prefix_concat_iff.mp hbetween with rfl | hbetween
  · simpa using hnow
  · exact hsince between hbetween

/-- The last edit is the one that they parted over. -/
theorem last {edit : Edit}
    (hedit : (start.after ids acts).Mispresets ids edit getter id ∨
      (start.after ids acts).workspace.canvas.GetterAgrees getter ∧
        (start.after ids acts).Retypes ids edit getter id)
    (hnow : ¬ (start.after ids (acts ++ [.edit edit])).workspace.canvas.GetterAgrees getter) :
    Parted ids start (acts ++ [.edit edit]) getter id := by
  refine ⟨acts, edit, [], rfl, hedit, fun between hbetween => ?_⟩
  rw [List.prefix_nil.mp hbetween]
  exact hnow

end Parted

/-- **Getters that do not agree have parted**, by induction on the run: the step is what the act
that comes last does to the getter. -/
theorem agrees_or_parted (hids : Function.Injective ids) (hne : ∀ n, ids n ≠ "")
    (workspace : String) (settings : Settings) {acts : List Act} (hacts : ∀ a ∈ acts, a.ByUser)
    (hgetter : ((startWith ids workspace settings p).after ids acts).workspace.canvas.IsGetter
      getter id) :
    ((startWith ids workspace settings p).after ids acts).workspace.canvas.GetterAgrees getter ∨
      Parted ids (startWith ids workspace settings p) acts getter id := by
  induction acts using List.reverseRecOn with
  | nil => exact absurd hgetter (not_isGetter_startWith ids workspace settings p getter id)
  | append_singleton acts a ih =>
    have hacts : (∀ a ∈ acts, a.ByUser) ∧ a.ByUser := by simpa [or_imp, forall_and] using hacts
    refine or_iff_not_imp_left.mpr fun hnow => ?_
    rw [after_concat] at hgetter
    rcases agrees_act hids hne (Reach.after hacts.1) hacts.2 hgetter with
      hagrees | ⟨hold, hapart⟩ | ⟨edit, rfl, hedit⟩
    · rw [after_concat] at hnow
      exact absurd hagrees hnow
    · exact ((ih hacts.1 hold).resolve_left hapart).concat hnow
    · exact .last hedit hnow

/-- **Where getters and their variables part.** Let a session be attached from the start, and let
users do what they like. Then every document getter puts out a document of its collection, its
picker has the id of a variable that there is, and that variable has the type which the getter puts
out just if the two have not parted. Edits are judged one by one, too: a getter that an edit makes
agrees with its variable if it was not preset to one of another type, and one that agreed before
goes on doing so just if the edit plugs no list of documents of another collection into a loop that
names the same. The ids that are drawn have to be new each time, and none may be empty. -/
theorem getters_agree_until (hids : Function.Injective ids) (hne : ∀ n, ids n ≠ "")
    (workspace : String) (settings : Settings) {acts : List Act} (hacts : ∀ a ∈ acts, a.ByUser) :
    let e := (startWith ids workspace settings p).after ids acts
    (∀ getter b id, e.workspace.canvas.block? getter = some b → b.type = getterType id →
      b.outputCheck = some [(Tag.document id).text] ∧
      (∃ field v, b.fields.get? variableField = some field ∧
        e.workspace.canvas.findVariable field.value = some v) ∧
      (e.workspace.canvas.GetterAgrees getter ↔
        ¬ Parted ids (startWith ids workspace settings p) acts getter id)) ∧
    ∀ edit getter b id, (e.perform ids edit).1.workspace.canvas.block? getter = some b →
      b.type = getterType id →
      (e.workspace.canvas.block? getter = none → ¬ e.Mispresets ids edit getter id →
        (e.perform ids edit).1.workspace.canvas.GetterAgrees getter) ∧
      (e.workspace.canvas.GetterAgrees getter →
        ((e.perform ids edit).1.workspace.canvas.GetterAgrees getter ↔
          ¬ e.Retypes ids edit getter id)) := by
  intro e
  have hreach : Reach ids (startWith ids workspace settings p) Act.ByUser e := .after hacts
  have horder := hreach.inOrder hids
  refine ⟨fun getter b id hb ht => ⟨?_, ?_, ?_⟩, fun edit getter b id hb ht => ?_⟩
  · exact horder.attended.settled.formed.outputCheck_of_getterType hb ht
  · obtain ⟨v, hv⟩ := Option.isSome_iff_exists.mp
      ((hreach.named hids).2 getter id (isGetter_iff.mpr ⟨b, hb, ht⟩))
    obtain ⟨field, hfield, hv⟩ := Option.bind_eq_some_iff.mp hv
    rw [field?_eq_bind, hb, Option.bind_some] at hfield
    exact ⟨field, v, hfield, hv⟩
  · have hcases := agrees_or_parted hids hne workspace settings hacts
      (isGetter_iff.mpr ⟨b, hb, ht⟩)
    exact ⟨fun hagrees hparted => hparted.not_agrees hagrees, hcases.resolve_right⟩
  · have hgetter := isGetter_iff.mpr ⟨b, hb, ht⟩
    rw [(horder.perform hids edit).getterAgrees_iff hgetter]
    refine ⟨fun hnew => (agrees_new_iff hids horder (hreach.named hids).1 hnew hgetter).mpr, ?_⟩
    intro hagrees
    rcases isGetter_perform horder hgetter with hold | ⟨_, _, _, _, -, hmade, -⟩
    · exact agrees_perform_iff hids hne horder (hreach.looped hids hne) hold
        ((horder.getterAgrees_iff hold).mp hagrees) edit
    · obtain ⟨b', -, -, hb', -⟩ := hagrees
      rw [horder.attended.settled.coherent.block?_made hids hmade] at hb'
      cases hb'

/-! ## Two ways to part -/

/-- A getter of ships, a link that holds it, and a loop whose picker is preset to the variable of
the getter. -/
def sharedActs : List Act :=
  ([.openCategory Toolbox.documentVariablesName, .openCategory Toolbox.linksName,
    .create "variables_get_ship_document" none, .create "port_ship_link" none,
    .create foreachType (some "|"), .connect "|||" "||||" linkInput] : List Edit).map .edit

/-- The link is plugged into the loop, as a list of ports. -/
def sharedPlugging : Edit :=
  .connect "||||" "|||||" listInput

theorem byUser_shared : ∀ a ∈ sharedActs ++ [.edit sharedPlugging], a.ByUser := by
  simp [sharedActs, Act.ByUser]

/-- The getter of ships is still there when all is done. -/
theorem block?_shared :
    ∃ b, ((startWith strokes "harbour" {} .harbour).after strokes
      (sharedActs ++ [.edit sharedPlugging])).workspace.canvas.block? "|||" = some b ∧
        b.type = getterType "ship" :=
  Option.map_eq_some_iff.mp (by decide +kernel)

/-- The loop makes the ship a port, and the getter of ships goes on putting out ships: it agreed
with its variable until then, and has parted from it by the connection. -/
theorem getters_agree_until_shared :
    ((startWith strokes "harbour" {} .harbour).after strokes
        sharedActs).workspace.canvas.GetterAgrees "|||" ∧
      ((startWith strokes "harbour" {} .harbour).after strokes sharedActs).Retypes strokes
        sharedPlugging "|||" "ship" ∧
      Parted strokes (startWith strokes "harbour" {} .harbour)
        (sharedActs ++ [.edit sharedPlugging]) "|||" "ship" := by
  have hacts : ∀ a ∈ sharedActs, a.ByUser := fun a ha => byUser_shared a (List.mem_append_left _ ha)
  have horder := (Reach.after hacts : Reach strokes (startWith strokes "harbour" {} .harbour)
    Act.ByUser _).inOrder strokes_injective
  obtain ⟨b, hb, ht⟩ : ∃ b, ((startWith strokes "harbour" {} .harbour).after strokes
      sharedActs).workspace.canvas.block? "|||" = some b ∧ b.type = getterType "ship" :=
    Option.map_eq_some_iff.mp (by decide +kernel)
  have hagrees := (horder.getterAgrees_iff (isGetter_iff.mpr ⟨b, hb, ht⟩)).mpr
    (show Option.map _ _ = _ by decide +kernel)
  have hretypes : ((startWith strokes "harbour" {} .harbour).after strokes sharedActs).Retypes
      strokes sharedPlugging "|||" "ship" := by
    obtain ⟨b, hb, ht⟩ : ∃ b, ((startWith strokes "harbour" {} .harbour).after strokes
        sharedActs).workspace.canvas.block? "|||||" = some b ∧ b.type = foreachType :=
      Option.map_eq_some_iff.mp (by decide +kernel)
    exact ⟨by decide +kernel, _, _, _, b, "port", rfl, hb, ht, by decide +kernel,
      ⟨"|", by decide +kernel, by decide +kernel⟩, by decide⟩
  refine ⟨hagrees, hretypes, ?_⟩
  obtain ⟨b', hb', ht'⟩ := block?_shared
  obtain ⟨hjudged, -⟩ := getters_agree_until strokes_injective strokes_ne_empty "harbour" {}
    byUser_shared (p := .harbour)
  obtain ⟨-, hafter⟩ := getters_agree_until strokes_injective strokes_ne_empty "harbour" {} hacts
    (p := .harbour)
  have hparted := (hjudged "|||" b' "ship" hb' ht').2.2
  by_contra hnot
  have hkept := hparted.mpr hnot
  rw [after_concat, act] at hkept hb'
  exact ((hafter sharedPlugging "|||" b' "ship" hb' ht').2 hagrees).mp hkept hretypes

/-- A getter whose variable has another type than it puts out does not agree with that. The block,
its picker and the variable are read off one after the other, as `GetterAgrees` asks for them. -/
theorem not_getterAgrees {c : Canvas} {v : Variable} {type : String}
    (hv : c.loopVariable? getter = some v)
    (hout : (c.block? getter).bind Block.outputCheck = some [type]) (hne : v.type ≠ type) :
    ¬ c.GetterAgrees getter := by
  rintro ⟨b, field, v', hb, hfield, hv', hout'⟩
  rw [loopVariable?, field?_eq_bind, hb, Option.bind_some, hfield, Option.bind_some, hv',
    Option.some.injEq] at hv
  rw [hb, Option.bind_some, hout', Option.some.injEq, List.singleton_inj, hv] at hout
  exact hne hout

/-- The propagator of a harbour that has a variable for a port as well, so that a getter of ports
would not need to be preset to the ship. -/
def twoVariables : Propagator where
  domain := { Domain.harbour with documentVariables :=
    [{ name := "the ship", collection := "ship" }, { name := "the port", collection := "port" }] }
  snapRadius := 28

/-- A getter of ports is made, and its picker preset to the variable of the ship. -/
def presetActs : List Act :=
  ([.openCategory Toolbox.documentVariablesName,
    .create "variables_get_port_document" (some "|")] : List Edit).map .edit

/-- **Getters and their variables part** in either way: a loop made the variable of a getter of
ships one of ports, and a getter of ports was preset to a variable of ships. -/
theorem getters_part :
    ((∀ a ∈ sharedActs ++ [.edit sharedPlugging], a.ByUser) ∧
      let c := ((startWith strokes "harbour" {} .harbour).after strokes
        (sharedActs ++ [.edit sharedPlugging])).workspace.canvas
      ∃ b, c.block? "|||" = some b ∧ b.type = getterType "ship" ∧ ¬ c.GetterAgrees "|||") ∧
    (∀ a ∈ presetActs, a.ByUser) ∧
      let c := ((startWith strokes "harbour" {} twoVariables).after strokes
        presetActs).workspace.canvas
      ∃ b, c.block? "||||" = some b ∧ b.type = getterType "port" ∧ ¬ c.GetterAgrees "||||" := by
  refine ⟨⟨byUser_shared, ?_⟩, by simp [presetActs, Act.ByUser], ?_⟩
  · obtain ⟨b, hb, ht⟩ := block?_shared
    refine ⟨b, hb, ht, ?_⟩
    exact not_getterAgrees (v := ⟨"|", "the ship", "port_document"⟩) (by decide +kernel)
      (by decide +kernel : _ = some ["ship_document"]) (by decide)
  · obtain ⟨b, hb, ht⟩ : ∃ b, ((startWith strokes "harbour" {} twoVariables).after
        strokes presetActs).workspace.canvas.block? "||||" = some b ∧
          b.type = getterType "port" := Option.map_eq_some_iff.mp (by decide +kernel)
    refine ⟨b, hb, ht, ?_⟩
    exact not_getterAgrees (v := ⟨"|", "the ship", "ship_document"⟩) (by decide +kernel)
      (by decide +kernel : _ = some ["port_document"]) (by decide)

end Editor

end TypedBlocks
