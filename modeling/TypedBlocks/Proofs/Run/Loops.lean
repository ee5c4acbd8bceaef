import TypedBlocks.Proofs.Run.Attended
import TypedBlocks.Proofs.Session.Looping

/-!
# Loops over runs

In session, a loop holds a list of documents or nothing, whatever has become of the list since it
was plugged in. The variable of a loop has the type of these documents, unless another loop names
the same variable and has given it another. Ids have to be new each time, and none may be empty:
an empty value of a picker counts as none.
-/

namespace TypedBlocks

open Canvas Definition

variable {ids : IdSupply} {p : Propagator}

/-- **What is no list of documents is thrown out of a loop** as soon as it is plugged in. After a
connection that succeeds the child is plugged in nowhere, the loop holds nothing as its list, and no
variable has been touched. -/
theorem Workspace.Attended.connect_misfit {w : Workspace} (h : Attended ids p w) {loop : String}
    {f : Frame} (hf : w.canvas.frame? loop = some f) (ht : f.type = foreachType) {child : String}
    (htag : (w.canvas.tag child).isDocumentArray = false)
    (hok : (w.connect ids child loop listInput).2 = .ok ()) :
    (w.connect ids child loop listInput).1.canvas.target? loop listInput = none ∧
      (w.connect ids child loop listInput).1.canvas.plug? child = none ∧
      (w.connect ids child loop listInput).1.canvas.vars = w.canvas.vars := by
  obtain ⟨hfits, hfree⟩ := h.connect_eq_ok_iff.mp hok
  obtain ⟨-, c, -, hc, hfitsc, hplug, htarget, hpulls, hout, hcanvas, -⟩ :=
    h.connect_of_fits hfits hfree
  obtain ⟨-, hw, hheld, hbind⟩ := hc.bound_of_loop (p := p) hfitsc hplug htarget
    ((hpulls.pruned.frame loop).trans hf) ht
  have htagc : (c.tag child).isDocumentArray = false := by rw [tag_congr hout, htag]
  rw [hcanvas, hbind, Propagator.bindLoop_of_other hw htagc hheld]
  refine ⟨?_, ?_, hpulls.vars⟩
  · rw [target?_detach, if_pos ⟨rfl, rfl⟩]
  · rw [plug?_detach, if_pos rfl]

namespace Editor

variable {e : Editor}

/-- Loops are in order from the start. -/
theorem looped_startWith (hne : ∀ n, ids n ≠ "") (workspace : String) (settings : Settings)
    (p : Propagator) : Looped (startWith ids workspace settings p).workspace.canvas := by
  have hempty : Looped Canvas.empty := .of_blank nofun fun _ => rfl
  exact hempty.declared hne (Session.attach_declared ids (Workspace.empty workspace) p)
    (Session.attach_blocks ids (Workspace.empty workspace) p).1

/-- **Users find all loops in order**, whatever they have done before. By induction on the run, an
edit being a run of steps on the canvas. -/
theorem Reach.looped (hids : Function.Injective ids) (hne : ∀ n, ids n ≠ "") {workspace : String}
    {settings : Settings} (h : Reach ids (startWith ids workspace settings p) Act.ByUser e) :
    Looped e.workspace.canvas :=
  (looped_startWith hne workspace settings p).steps hids hne (h.steps hids)

/-- **Loops are guarded.** Let a session be attached from the start, and let users do what they
like. What a loop holds as its list is a list of documents, and its variable, unless another loop
names the same one, is there and stands for one of them. Anything else that is plugged in there is
thrown out again, although the edit succeeds, and no variable is touched by that. -/
theorem loop_guarded (hids : Function.Injective ids) (hne : ∀ n, ids n ≠ "") {workspace : String}
    {settings : Settings} (h : Reach ids (startWith ids workspace settings p) Act.ByUser e)
    {loop : String} {b : Block} (hb : e.workspace.canvas.block? loop = some b)
    (ht : b.type = foreachType) :
    (e.workspace.canvas.target? loop listInput = none ∨
      ∃ child collection, e.workspace.canvas.target? loop listInput = some child ∧
        e.workspace.canvas.tag child = .documentArray collection ∧
        ((∀ other b', other ≠ loop → e.workspace.canvas.block? other = some b' →
            b'.type = foreachType → (b'.fields.get? variableField).map Field.value ≠
              (b.fields.get? variableField).map Field.value) →
          ∃ field v, b.fields.get? variableField = some field ∧
            e.workspace.canvas.findVariable field.value = some v ∧
            v.type = (Tag.document collection).text)) ∧
    (∀ child, (e.workspace.canvas.tag child).isDocumentArray = false →
      (e.perform ids (.connect child loop listInput)).2 = .ok () →
      let after := (e.perform ids (.connect child loop listInput)).1.workspace.canvas
      after.target? loop listInput = none ∧ after.plug? child = none ∧
        after.vars = e.workspace.canvas.vars) := by
  have hframe := frame?_of_block? hb
  have hlooped := h.looped hids hne
  refine ⟨?_, fun child htag hok => (h.inOrder hids).attended.connect_misfit hframe ht htag hok⟩
  cases hheld : e.workspace.canvas.target? loop listInput with
  | none => exact .inl rfl
  | some child =>
    obtain ⟨collection, hcollection, htype⟩ := hlooped.iterating loop b.frame hframe ht child hheld
    refine .inr ⟨child, collection, rfl, hcollection, fun hsole => ?_⟩
    have hget : ∀ {id : String} {b : Block}, e.workspace.canvas.block? id = some b →
        e.workspace.canvas.field? id variableField = b.fields.get? variableField := by
      intro id b hb
      rw [field?_eq_bind, hb, Option.bind_some]
    obtain ⟨field, v, hfield, -, hv⟩ := hlooped.field hframe ht
    have hsole : e.workspace.canvas.Sole loop := by
      intro other f hf hf' hvalue
      obtain ⟨b', hb', rfl⟩ := Option.map_eq_some_iff.mp hf
      rw [hget hb', hget hb] at hvalue
      by_contra hother
      exact hsole other b' hother hb' hf' hvalue
    have htype := htype hsole
    rw [loopVariable?, hfield, Option.bind_some, hv, Option.map_some, Option.some.injEq] at htype
    exact ⟨field, v, (hget hb).symm.trans hfield, hv, htype⟩

/-- A loop over the ports of the ship: its variable stands for a port. The attribute getter is
thrown out when it is plugged in instead. -/
theorem loop_guarded_ports :
    let e := harbour [.create foreachType none, .connect "|||" "||||" linkInput,
      .connect "||||" "||||||" listInput]
    let after := (e.perform strokes (.connect "|||||" "||||||" listInput)).1.workspace.canvas
    e.workspace.canvas.target? "||||||" listInput = some "||||" ∧
    (∃ field v, e.workspace.canvas.field? "||||||" variableField = some field ∧
      e.workspace.canvas.findVariable field.value = some v ∧ v.type = "port_document") ∧
    after.target? "||||||" listInput = none ∧ after.plug? "|||||" = none ∧
    after.vars = e.workspace.canvas.vars := by
  intro e after
  have hreach : Reach strokes (startWith strokes "harbour" {} .harbour) Act.ByUser e :=
    reach_harbour _
  obtain ⟨b, hb, ht⟩ : ∃ b, e.workspace.canvas.block? "||||||" = some b ∧ b.type = foreachType :=
    Option.map_eq_some_iff.mp (by decide +kernel)
  have hheld : e.workspace.canvas.target? "||||||" listInput = some "||||" := by decide +kernel
  have htag : e.workspace.canvas.tag "||||" = .documentArray "port" := by decide +kernel
  -- there is no other loop
  have honly : ∀ id ∈ e.workspace.canvas.blocks.keys,
      (e.workspace.canvas.block? id).map Block.type = some foreachType → id = "||||||" := by
    decide +kernel
  obtain ⟨hlist, hthrown⟩ := loop_guarded strokes_injective strokes_ne_empty hreach hb ht
  refine ⟨hheld, ?_, hthrown "|||||" (by decide +kernel) (by decide +kernel)⟩
  rcases hlist with hnone | ⟨child, collection, hchild, hcollection, htype⟩
  · rw [hheld] at hnone
    cases hnone
  · obtain rfl := Option.some.inj (hheld.symm.trans hchild)
    obtain rfl := Tag.documentArray.inj (htag.symm.trans hcollection)
    obtain ⟨field, v, hfield, hv, htype⟩ := htype fun other b' hother hb' ht' => by
      have hkey : other ∈ e.workspace.canvas.blocks.keys :=
        Table.get?_isSome_iff.mp (Option.isSome_iff_exists.mpr ⟨b', hb'⟩)
      exact absurd (honly other hkey (by rw [hb', Option.map_some, ht'])) hother
    refine ⟨field, v, ?_, hv, htype⟩
    rw [field?_eq_bind, hb, Option.bind_some, hfield]

end Editor

end TypedBlocks
