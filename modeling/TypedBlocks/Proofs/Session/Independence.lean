import TypedBlocks.Proofs.Session.Edits

/-!
# Connections that have nothing to do with each other

What comes of plugging a block into a free input is decided by the two blocks alone, whatever else
is on the canvas: each of them changes, and perhaps a variable is given a type, the one that the
parent names if it is a loop. This is the `Upshot` of the connection (`Attended.exists_upshot`).
Upshots that share neither a block nor a variable can be applied in either order
(`Upshot.apply_comm`), and leave alone what the other was decided by, so the edits themselves can be
made in either order (`Attended.connect_comm`).
-/

namespace TypedBlocks

open Canvas Definition

variable {ids : IdSupply} {p : Propagator} {c : Canvas} {child parent input : String}

/-- What a connection comes to: how the two blocks change, and the type that a variable is given.
Nothing else on the canvas is touched by it. -/
structure Upshot where
  parent : Block → Block
  child : Block → Block
  typed : Option (String × String)

namespace Upshot

/-- What the variables come to. -/
def vars (u : Upshot) (vars : List Variable) : List Variable :=
  match u.typed with
  | none => vars
  | some (id, type) => retype id type vars

/-- What a canvas comes to. -/
def apply (u : Upshot) (child parent : String) (c : Canvas) : Canvas :=
  { (c.modify parent u.parent).modify child u.child with vars := u.vars c.vars }

/-- Nothing changes. -/
def idle : Upshot := { parent := id, child := id, typed := none }

theorem apply_idle (child parent : String) (c : Canvas) : idle.apply child parent c = c := by
  have hparent : c.modify parent id = c := modify_eq_self fun _ _ => rfl
  have hchild : c.modify child id = c := modify_eq_self fun _ _ => rfl
  simp only [apply, idle, vars, hparent, hchild]

/-- Both ends of a connection are set. -/
def plugged (child parent input : String) : Upshot where
  parent b := b.setTarget input (some child)
  child b := { b with parent := some ⟨parent, input⟩ }
  typed := none

theorem apply_plugged (child parent input : String) (c : Canvas) :
    (plugged child parent input).apply child parent c = c.plugIn child parent input := rfl

/-- The parent is changed once more. -/
def andParent (u : Upshot) (change : Block → Block) : Upshot :=
  { u with parent := fun b => change (u.parent b) }

/-- The child is changed once more. -/
def andChild (u : Upshot) (change : Block → Block) : Upshot :=
  { u with child := fun b => change (u.child b) }

theorem apply_andChild (u : Upshot) (change : Block → Block) :
    (u.andChild change).apply child parent c = (u.apply child parent c).modify child change :=
  congrArg (fun d : Canvas => { d with vars := u.vars c.vars })
    (modify_modify (c.modify parent u.parent) child u.child change).symm

theorem apply_andParent (hne : child ≠ parent) (u : Upshot) (change : Block → Block) :
    (u.andParent change).apply child parent c = (u.apply child parent c).modify parent change := by
  have hblocks : (c.modify parent fun b => change (u.parent b)).modify child u.child =
      ((c.modify parent u.parent).modify child u.child).modify parent change := by
    rw [modify_comm _ child parent fun he => absurd he hne, modify_modify]
  exact congrArg (fun d : Canvas => { d with vars := u.vars c.vars }) hblocks

/-! ## Order -/

/-- An upshot concerns its two blocks, and no third. -/
theorem block?_apply (u : Upshot) {id : String} (hchild : id ≠ child) (hparent : id ≠ parent) :
    (u.apply child parent c).block? id = c.block? id := by
  have happly : (u.apply child parent c).block? id =
      ((c.modify parent u.parent).modify child u.child).block? id := rfl
  rw [happly, block?_modify_ne hchild, block?_modify_ne hparent]

variable {u u' : Upshot} {child' parent' : String}

/-- **Upshots with nothing in common can be applied in either order**: they are about different
blocks, and do not both give one variable a type. -/
theorem apply_comm (hchild : child ≠ child') (hparent : parent ≠ parent')
    (hcross : child ≠ parent') (hcross' : child' ≠ parent)
    (htyped : ∀ id type id' type', u.typed = some (id, type) → u'.typed = some (id', type') →
      id ≠ id') (c : Canvas) :
    u'.apply child' parent' (u.apply child parent c) =
      u.apply child parent (u'.apply child' parent' c) := by
  have hblocks : (((c.modify parent u.parent).modify child u.child).modify parent'
      u'.parent).modify child' u'.child =
      (((c.modify parent' u'.parent).modify child' u'.child).modify parent
        u.parent).modify child u.child := by
    -- each change of the second upshot goes past both changes of the first
    rw [modify_comm _ child parent' fun he => absurd he hcross,
      modify_comm _ parent parent' fun he => absurd he hparent,
      modify_comm _ child child' fun he => absurd he hchild,
      modify_comm _ parent child' fun he => absurd he hcross'.symm]
  have hvars : u'.vars (u.vars c.vars) = u.vars (u'.vars c.vars) := by
    simp only [vars]
    cases ht : u.typed with
    | none => rfl
    | some typed =>
      cases ht' : u'.typed with
      | none => rfl
      | some typed' => exact retype_comm (htyped _ _ _ _ ht ht') ..
  exact congrArg₂ (fun (d : Canvas) vars => { d with vars }) hblocks hvars

end Upshot

/-! ## What decides an upshot -/

/-- If a variable is given a type, then the parent is a loop that names it. -/
def Upshot.Typing (u : Upshot) (c : Canvas) (parent : String) : Prop :=
  ∀ id type, u.typed = some (id, type) → ∃ f field, c.frame? parent = some f ∧
    f.type = foreachType ∧ c.field? parent variableField = some field ∧ field.value = id

/-- The two blocks are the same on both canvases. All that is asked of a canvas in deciding on a
connection shows in them, so it is decided in the same way on both. -/
structure SameBlocks (child parent : String) (c c' : Canvas) : Prop where
  child : c'.block? child = c.block? child
  parent : c'.block? parent = c.block? parent

namespace SameBlocks

variable {c' : Canvas} (h : SameBlocks child parent c c')

include h

theorem approve :
    Workspace.approve c' child parent input = Workspace.approve c child parent input := by
  rw [Workspace.approve, Workspace.approve, h.child, h.parent]

theorem frame? : c'.frame? parent = c.frame? parent := by
  rw [Canvas.frame?, Canvas.frame?, h.parent]

theorem fits (hfits : Workspace.Fits c child parent input) :
    Workspace.Fits c' child parent input :=
  hfits.congr (by rw [output?, output?, h.child]) h.frame?

theorem plug? : c'.plug? child = c.plug? child := by rw [plug?_eq_bind, plug?_eq_bind, h.child]

theorem target? : c'.target? parent input = c.target? parent input := by
  rw [target?_eq_bind, target?_eq_bind, h.parent]

theorem isSome_plugIn (hfits : Workspace.Fits c child parent input) :
    ((c'.plugIn child parent input).block? child).isSome := by
  rw [isSome_congr (frame?_plugIn ..)]
  exact (h.fits hfits).isSome

/-- What a propagator looks at when the one is plugged into the other. -/
theorem plugIn (input : String) :
    (c'.plugIn child parent input).frame? parent = c.frame? parent ∧
      (c'.plugIn child parent input).field? parent variableField =
        c.field? parent variableField ∧
      (c'.plugIn child parent input).tag child = c.tag child := by
  rw [frame?_plugIn, field?_plugIn, tag_plugIn, h.frame?, field?_eq_bind, field?_eq_bind, tag, tag,
    h.child, h.parent]
  exact ⟨rfl, rfl, rfl⟩

end SameBlocks

/-- What follows when the child is plugged in has the same upshot wherever the two blocks are as
they are on `c`. -/
def Decided (p : Propagator) (c : Canvas) (child parent input : String) : Prop :=
  ∃ u : Upshot, u.Typing c parent ∧ ∀ c', Wired c' → SameBlocks child parent c c' →
    (p.afterConnect (c'.plugIn child parent input) child parent).canvas = u.apply child parent c'

namespace Decided

/-- Nothing follows. -/
theorem of_unchanged (h : ∀ c', Wired c' → SameBlocks child parent c c' →
    (p.afterConnect (c'.plugIn child parent input) child parent).canvas =
      c'.plugIn child parent input) : Decided p c child parent input :=
  ⟨.plugged child parent input, nofun, h⟩

/-- The parent changes. -/
theorem of_modify (hne : child ≠ parent) (change : Block → Block)
    (h : ∀ c', Wired c' → SameBlocks child parent c c' →
      (p.afterConnect (c'.plugIn child parent input) child parent).canvas =
        (c'.plugIn child parent input).modify parent change) :
    Decided p c child parent input := by
  refine ⟨(Upshot.plugged child parent input).andParent change, nofun, fun c' hw hsame => ?_⟩
  rw [h c' hw hsame, Upshot.apply_andParent hne, Upshot.apply_plugged]

/-- The child is thrown out again. -/
theorem of_detach (hne : child ≠ parent) (plug : Plug) (hplug : plug.block = parent)
    (h : ∀ c', Wired c' → SameBlocks child parent c c' →
      (p.afterConnect (c'.plugIn child parent input) child parent).canvas =
        (c'.plugIn child parent input).detach child plug) :
    Decided p c child parent input := by
  refine ⟨((Upshot.plugged child parent input).andChild
    fun b => { b with parent := none }).andParent (·.setTarget plug.input none), nofun,
    fun c' hw hsame => ?_⟩
  rw [h c' hw hsame, Upshot.apply_andParent hne, Upshot.apply_andChild, Upshot.apply_plugged,
    detach, hplug]

/-- The variable that a loop names is given a type. -/
theorem of_retyped {f : Frame} {field : Field} (hf : c.frame? parent = some f)
    (hloop : f.type = foreachType) (hfield : c.field? parent variableField = some field)
    (type : String) (h : ∀ c', Wired c' → SameBlocks child parent c c' →
      (p.afterConnect (c'.plugIn child parent input) child parent).canvas =
        (c'.plugIn child parent input).retyped field.value type) :
    Decided p c child parent input := by
  refine ⟨{ Upshot.plugged child parent input with typed := some (field.value, type) }, ?_, h⟩
  rintro id type ⟨⟩
  exact ⟨f, field, hf, hloop, hfield, rfl⟩

end Decided

namespace Canvas.Settled

/-- Something is plugged into a link, which then puts out the documents of the other side, unless it
is no document. -/
theorem decided_link (h : Settled ids p.domain none c)
    (hfits : Workspace.Fits c child parent input) {f : Frame} (hf : c.frame? parent = some f)
    (hlink : Tag.isLinkType f.type = true) : Decided p c child parent input := by
  obtain ⟨first, second, htype⟩ := Tag.isLinkType_iff.mp hlink
  rcases (h.fits_link hfits hf htype).2 with ⟨collection, hdoc, hside⟩ | hnone
  · obtain ⟨other, hother⟩ : ∃ other, (Tag.ofText f.type).across? collection = some other :=
      ⟨_, htype ▸ Tag.across?_link_eq_some_iff.mpr ⟨hside, rfl⟩⟩
    refine .of_modify hfits.apart (fun b =>
      { b with hasOutput := true, outputCheck := some [(Tag.documentArray other).text] })
      fun c' _ hsame => ?_
    obtain ⟨hf', -, htag⟩ := hsame.plugIn input
    exact Propagator.afterConnect_of_link (hf'.trans hf) hlink (htag.trans hdoc) hother
  · refine .of_unchanged fun c' _ hsame => ?_
    obtain ⟨hf', -, htag⟩ := hsame.plugIn input
    have hplain : (c.tag child).isDocument = false := by
      rw [tag_eq_of_output? hnone]
      rfl
    rw [Propagator.afterConnect_of_plain (hf'.trans hf) hlink (by rw [htag, hplain])]
    rfl

end Canvas.Settled

namespace Decided

/-- Something is plugged into an attribute getter, whose dropdown is written if there are attributes
to offer. -/
theorem of_getter (hfits : Workspace.Fits c child parent input) {f : Frame}
    (hf : c.frame? parent = some f) (hgetter : f.type = getAttributeType) :
    Decided p c child parent input := by
  cases hcollection : (c.tag child).collection? with
  | none =>
    refine of_unchanged fun c' _ hsame => ?_
    obtain ⟨hf', -, htag⟩ := hsame.plugIn input
    rw [Propagator.afterConnect_of_getter (hsame.isSome_plugIn hfits) (hf'.trans hf) hgetter,
      htag, hcollection]
    rfl
  | some collection =>
    have hfill : ∀ c', SameBlocks child parent c c' →
        p.afterConnect (c'.plugIn child parent input) child parent =
          p.fillAttributes (c'.plugIn child parent input) parent collection := by
      intro c' hsame
      obtain ⟨hf', -, htag⟩ := hsame.plugIn input
      rw [Propagator.afterConnect_of_getter (hsame.isSome_plugIn hfits) (hf'.trans hf) hgetter,
        htag, hcollection]
    cases hfound : p.domain.collection? collection with
    | error fault =>
      refine of_unchanged fun c' _ hsame => ?_
      rw [hfill c' hsame, Propagator.fillAttributes_canvas, hfound]
    | ok found =>
      by_cases hempty : found.choices.isEmpty
      · refine of_unchanged fun c' _ hsame => ?_
        rw [hfill c' hsame, Propagator.fillAttributes_canvas, hfound]
        exact if_pos hempty
      · refine of_modify hfits.apart (fun b => { b with
          fields := b.fields.modify attributeField
            fun _ => ⟨found.defaultChoice, found.choices⟩ }) fun c' _ hsame => ?_
        rw [hfill c' hsame, Propagator.fillAttributes_canvas, hfound]
        exact if_neg hempty

/-- Something is plugged into a loop as its list. A list of documents gives the variable that the
loop names a type, anything else is thrown out. -/
theorem of_loop (hfits : Workspace.Fits c child parent listInput)
    (hplug : c.plug? child = none) (hempty : c.target? parent listInput = none) {f : Frame}
    (hf : c.frame? parent = some f) (hloop : f.type = foreachType) :
    Decided p c child parent listInput := by
  obtain ⟨check, g, slot, ho, hg, hs, hst, -⟩ := hfits.exist
  obtain rfl := Option.some.inj (hf.symm.trans hg)
  have hheld : ∀ c', SameBlocks child parent c c' →
      (c'.plugIn child parent listInput).target? parent listInput = some child := by
    intro c' hsame
    rw [target?_plugIn (hsame.frame?.trans hf) hs, if_pos ⟨rfl, rfl⟩]
  have hafter : ∀ c', SameBlocks child parent c c' →
      p.afterConnect (c'.plugIn child parent listInput) child parent =
        Propagator.bindLoop (c'.plugIn child parent listInput) parent (c.tag child) := by
    intro c' hsame
    obtain ⟨hf', -, htag⟩ := hsame.plugIn listInput
    rw [← htag]
    exact Propagator.afterConnect_of_loop (hsame.isSome_plugIn hfits) (hf'.trans hf) hloop
      (hheld c' hsame)
  cases hlist : (c.tag child).isDocumentArray with
  | true =>
    obtain ⟨collection, hdocs⟩ := Tag.isDocumentArray_iff.mp hlist
    rw [hdocs] at hafter
    cases hfield : c.field? parent variableField with
    | none =>
      refine of_unchanged fun c' _ hsame => ?_
      rw [hafter c' hsame, Propagator.bindLoop_documentArray, (hsame.plugIn listInput).2.1, hfield]
    | some field =>
      by_cases hvalue : field.value = ""
      · refine of_unchanged fun c' _ hsame => ?_
        rw [hafter c' hsame, Propagator.bindLoop_documentArray, (hsame.plugIn listInput).2.1,
          hfield]
        exact if_pos hvalue
      · refine of_retyped hf hloop hfield (Tag.document collection).text fun c' _ hsame => ?_
        rw [hafter c' hsame, Propagator.bindLoop_documentArray, (hsame.plugIn listInput).2.1,
          hfield]
        exact if_neg hvalue
  | false =>
    refine of_detach hfits.apart ⟨parent, listInput⟩ rfl fun c' hw hsame => ?_
    have hw' : Wired (c'.plugIn child parent listInput) :=
      hw.plugIn (hsame.fits hfits).isSome (hsame.frame?.trans hf) hs hst hfits.apart
        (hsame.plug?.trans hplug) (hsame.target?.trans hempty)
    rw [hafter c' hsame, Propagator.bindLoop_of_other hw' hlist (hheld c' hsame)]

/-- Something is plugged into any other block, or elsewhere into a loop. No rule applies to that, so
nothing follows. -/
theorem of_inert (hfits : Workspace.Fits c child parent input) (hplug : c.plug? child = none)
    {f : Frame} (hf : c.frame? parent = some f) (hlink : Tag.isLinkType f.type = false)
    (hgetter : f.type ≠ getAttributeType) (hloop : ¬ (f.type = foreachType ∧ input = listInput)) :
    Decided p c child parent input := by
  refine of_unchanged fun c' hw hsame => ?_
  rw [Propagator.afterConnect_of_inert ((hsame.plugIn input).1.trans hf) hlink hgetter]
  · rfl
  rintro ⟨htype, ht⟩
  obtain ⟨check, g, slot, -, hg, hs, -⟩ := (hsame.fits hfits).exist
  rw [target?_plugIn hg hs] at ht
  split at ht
  · rename_i he
    exact hloop ⟨htype, he.2.symm⟩
  · -- the child is plugged in nowhere else
    have hp := hw.plug_iff.mpr ht
    rw [hsame.plug?, hplug] at hp
    cases hp

end Decided

/-- **The two blocks decide what follows**, if their connection fits and both ends are free:
whatever else is on a canvas that has the same two blocks, the propagator does the same to them. -/
theorem Canvas.Settled.decided (h : Settled ids p.domain none c)
    (hfits : Workspace.Fits c child parent input) (hplug : c.plug? child = none)
    (hempty : c.target? parent input = none) : Decided p c child parent input := by
  obtain ⟨check, f, slot, -, hf, -⟩ := hfits.exist
  cases hlink : Tag.isLinkType f.type with
  | true => exact h.decided_link hfits hf hlink
  | false =>
    by_cases hgetter : f.type = getAttributeType
    · exact .of_getter hfits hf hgetter
    · by_cases hloop : f.type = foreachType ∧ input = listInput
      · obtain ⟨htype, rfl⟩ := hloop
        exact .of_loop hfits hplug hempty hf htype
      · exact .of_inert hfits hplug hf hlink hgetter hloop

namespace Workspace.Attended

variable {w : Workspace} {child' parent' input' : String}

/-- **The two blocks decide how connecting ends**, and its upshot, if both ends are free: there are
one result and one upshot for all workspaces in session that have the two blocks as they are
here. -/
theorem exists_upshot (h : Attended ids p w) (hplug : w.canvas.plug? child = none)
    (hempty : w.canvas.target? parent input = none) :
    ∃ (result : Except Fault Unit) (u : Upshot), u.Typing w.canvas parent ∧
      ∀ w', Attended ids p w' → SameBlocks child parent w.canvas w'.canvas →
        (w'.connect ids child parent input).2 = result ∧
          (w'.connect ids child parent input).1.canvas = u.apply child parent w'.canvas := by
  cases ha : approve w.canvas child parent input with
  | error fault =>
    refine ⟨.error fault, .idle, nofun, fun w' _ hsame => ?_⟩
    rw [Workspace.connect, hsame.approve, ha]
    exact ⟨rfl, (Upshot.apply_idle ..).symm⟩
  | ok occupant =>
    obtain ⟨hfits, -⟩ := approve_eq_ok_iff.mp ha
    obtain ⟨u, htyping, hu⟩ := h.settled.decided hfits hplug hempty
    refine ⟨.ok (), u, htyping, fun w' h' hsame => ?_⟩
    obtain ⟨hok, hcanvas⟩ := h'.connect_of_free (hsame.fits hfits) (hsame.plug?.trans hplug)
      (hsame.target?.trans hempty)
    exact ⟨hok, hcanvas.trans (hu _ h'.settled.coherent.wired hsame)⟩

/-- **Connections with nothing in common can be made in either order**: each edit ends in the same
way, whether or not the other has been made, and the canvas comes to the same. -/
theorem connect_comm (h : Attended ids p w) (hchild : child ≠ child') (hparent : parent ≠ parent')
    (hcross : child ≠ parent') (hcross' : child' ≠ parent)
    (hplug : w.canvas.plug? child = none) (hplug' : w.canvas.plug? child' = none)
    (hempty : w.canvas.target? parent input = none)
    (hempty' : w.canvas.target? parent' input' = none)
    (hloops : ∀ f f' field field', w.canvas.frame? parent = some f →
      w.canvas.frame? parent' = some f' → f.type = foreachType → f'.type = foreachType →
      w.canvas.field? parent variableField = some field →
      w.canvas.field? parent' variableField = some field' → field.value ≠ field'.value) :
    let first := w.connect ids child parent input
    let second := w.connect ids child' parent' input'
    (second.1.connect ids child parent input).2 = first.2 ∧
      (first.1.connect ids child' parent' input').2 = second.2 ∧
      (first.1.connect ids child' parent' input').1.canvas =
        (second.1.connect ids child parent input).1.canvas := by
  intro first second
  obtain ⟨result, u, htyping, hu⟩ := h.exists_upshot hplug hempty
  obtain ⟨result', u', htyping', hu'⟩ := h.exists_upshot hplug' hempty'
  obtain ⟨hresult, hfirst⟩ := hu w h ⟨rfl, rfl⟩
  obtain ⟨hresult', hsecond⟩ := hu' w h ⟨rfl, rfl⟩
  -- neither upshot concerns the blocks that decide the other
  obtain ⟨hagain, hcanvas⟩ := hu second.1 (h.connect child' parent' input') (by
    rw [hsecond]
    exact ⟨u'.block?_apply hchild hcross, u'.block?_apply (Ne.symm hcross') hparent⟩)
  obtain ⟨hagain', hcanvas'⟩ := hu' first.1 (h.connect child parent input) (by
    rw [hfirst]
    exact ⟨u.block?_apply (Ne.symm hchild) hcross',
      u.block?_apply (Ne.symm hcross) (Ne.symm hparent)⟩)
  refine ⟨hagain.trans hresult.symm, hagain'.trans hresult'.symm, ?_⟩
  rw [hcanvas, hcanvas', hfirst, hsecond]
  refine Upshot.apply_comm hchild hparent hcross hcross' (fun id type id' type' ht ht' => ?_) _
  obtain ⟨f, field, hf, htype, hfield, rfl⟩ := htyping id type ht
  obtain ⟨f', field', hf', htype', hfield', rfl⟩ := htyping' id' type' ht'
  exact hloops f f' field field' hf hf' htype htype' hfield hfield'

end Workspace.Attended

end TypedBlocks
