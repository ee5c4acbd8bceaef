import TypedBlocks.Proofs.Canvas.Variables
import TypedBlocks.Proofs.Session.Steps

/-!
# Loops and their lists

A loop that accepted a list keeps only what may stay there: on a canvas that is `Looped`, whatever a
loop holds as its list is a list of documents, and if no other loop names the same variable, that
variable has the type of one of them. Nothing but the steps of a session is needed for that
(`Looped.step`), because no output changes behind the back of a loop:

* a link that is plugged in changes its output only when a document is plugged into it, and until
  then its output is unknown, so that no loop holds it;
* a link that has lost its document leaves whatever holds it.

A variable can lose the type that one loop gave it to another loop that names it. That is all that
can happen to it, which is why the type is only known where no other loop names the variable.
-/

namespace TypedBlocks.Canvas

open Definition

variable {ids : IdSupply} {p : Propagator} {c c' : Canvas} {loop : String}

/-- **What is plugged into a loop is its list**, and the loop is bound to it: the place for
statements takes nothing. -/
theorem Settled.bound_of_loop (hc : Settled ids p.domain none c) {child parent input : String}
    (hfits : Workspace.Fits c child parent input) (hplug : c.plug? child = none)
    (hfree : c.target? parent input = none) {f : Frame} (hf : c.frame? parent = some f)
    (ht : f.type = foreachType) :
    input = listInput ∧ Wired (c.plugIn child parent input) ∧
      (c.plugIn child parent input).target? parent listInput = some child ∧
      (p.afterConnect (c.plugIn child parent input) child parent).canvas =
        (Propagator.bindLoop (c.plugIn child parent input) parent (c.tag child)).canvas := by
  obtain ⟨check, g, slot, ho, hg, hs, hst, -⟩ := hfits.exist
  obtain rfl := Option.some.inj (hf.symm.trans hg)
  -- the other input of a loop is a place for statements
  obtain rfl : input = listInput := by
    have hslot := slot?_foreachLoop input
    rw [← hc.formed.frame_of_builtIn .foreachLoop hf ht, hs] at hslot
    split at hslot
    · assumption
    · split at hslot
      · cases hslot
        cases hst
      · cases hslot
  have hw := hc.coherent.wired.plugIn (isSome_of_output? ho) hf hs hst hfits.apart hplug hfree
  have hheld : (c.plugIn child parent listInput).target? parent listInput = some child := by
    rw [target?_plugIn hf hs, if_pos ⟨rfl, rfl⟩]
  refine ⟨rfl, hw, hheld, ?_⟩
  rw [Propagator.afterConnect_of_loop (hw.block_of_target hheld) ((frame?_plugIn ..).trans hf) ht
    hheld, tag_plugIn]

/-- No other loop has the same value in its picker, so that no other loop retypes the variable
behind it. -/
def Sole (c : Canvas) (loop : String) : Prop :=
  ∀ other f, c.frame? other = some f → f.type = foreachType →
    (c.field? other variableField).map Field.value =
      (c.field? loop variableField).map Field.value → other = loop

/-- A loop that is the only one to name its variable was so before, as long as no block has gone.
Blocks that are made can only put an end to that. -/
theorem Sole.of_kept {f : Frame} (h : c'.Sole loop) (hf : c.frame? loop = some f)
    (hframe : ∀ id f, c.frame? id = some f → c'.frame? id = some f)
    (hfield : ∀ id f, c.frame? id = some f →
      c'.field? id variableField = c.field? id variableField) : c.Sole loop := by
  intro other g hg hg' hvalue
  refine h other g (hframe other g hg) hg' ?_
  rw [hfield other g hg, hfield loop f hf]
  exact hvalue

/-- What a loop holds as its list is a list of documents. Its variable, if no other loop names it,
stands for one of them. -/
def Iterating (c : Canvas) (loop : String) : Prop :=
  ∀ child, c.target? loop listInput = some child →
    ∃ collection, c.tag child = .documentArray collection ∧
      (c.Sole loop →
        (c.loopVariable? loop).map Variable.type = some (Tag.document collection).text)

/-- Every loop names a variable, and holds what it can iterate over; if no other loop names the
same, that has the type of the elements. -/
structure Looped (c : Canvas) : Prop where
  /-- no variable has an empty id -/
  identified : ∀ v ∈ c.vars, v.id ≠ ""
  /-- every loop names a variable -/
  named : ∀ loop f, c.frame? loop = some f → f.type = foreachType →
    (c.loopVariable? loop).isSome
  /-- every loop holds a list of documents, or nothing -/
  iterating : ∀ loop f, c.frame? loop = some f → f.type = foreachType → c.Iterating loop

namespace Looped

/-- On a canvas without blocks there is no loop. -/
theorem of_blank (hids : ∀ v ∈ c.vars, v.id ≠ "") (hblank : ∀ id, c.block? id = none) :
    Looped c := by
  have hnone : ∀ {id f}, ¬ c.frame? id = some f := by
    intro id f hf
    rw [frame?, hblank] at hf
    cases hf
  exact ⟨hids, fun _ _ hf => absurd hf hnone, fun _ _ hf => absurd hf hnone⟩

/-- The picker of a loop has a value, and there is a variable of that id. Both are what the rule for
loops asks for, so it does not fail. -/
theorem field (h : Looped c) {f : Frame} (hf : c.frame? loop = some f) (ht : f.type = foreachType) :
    ∃ field v, c.field? loop variableField = some field ∧ field.value ≠ "" ∧
      c.findVariable field.value = some v :=
  field_of_loopVariable h.identified (h.named loop f hf ht)

/-! ## Changes that no loop notices -/

/-- A change that touches no variable and no picker, and neither gives a loop a list nor changes the
tag of one that it holds. -/
theorem congr (h : Looped c) (hframe : ∀ id, c'.frame? id = c.frame? id)
    (hfield : ∀ id, c'.field? id variableField = c.field? id variableField)
    (hvars : c'.vars = c.vars)
    (hlist : ∀ loop f child, c.frame? loop = some f → f.type = foreachType →
      c'.target? loop listInput = some child →
      c.target? loop listInput = some child ∧ c'.tag child = c.tag child) : Looped c' := by
  have hvariable : ∀ loop, c'.loopVariable? loop = c.loopVariable? loop := fun loop => by
    simp only [loopVariable?, findVariable, hfield, hvars]
  refine ⟨hvars ▸ h.identified, fun loop f hf ht => ?_, fun loop f hf ht child hc => ?_⟩
  · rw [hframe] at hf
    rw [hvariable]
    exact h.named loop f hf ht
  · rw [hframe] at hf
    obtain ⟨hc, htag⟩ := hlist loop f child hf ht hc
    obtain ⟨collection, hcollection, htype⟩ := h.iterating loop f hf ht child hc
    rw [htag, hvariable]
    refine ⟨collection, hcollection, fun hs => htype (hs.of_kept hf ?_ fun id _ _ => hfield id)⟩
    exact fun id _ hid => (hframe id).trans hid

/-- **A block is pulled out.** What a loop still holds has kept its output. -/
theorem pulled (h : Looped c) (hp : Pulled ids p c c') : Looped c' := by
  refine h.congr hp.pruned.frame (fun id => hp.field? id (by decide)) hp.vars ?_
  intro loop f child _ _ hc
  have hplug := hp.settled.coherent.wired.plug_iff.mpr hc
  refine ⟨?_, tag_congr (hp.output? (by rw [hplug]; nofun))⟩
  rcases hp.pruned.target loop listInput with he | he
  · exact he.symm.trans hc
  · rw [he] at hc
    cases hc

/-! ## Something is plugged in -/

section PlugIn

variable {child parent input : String} {f : Frame}

/-- Plugging something into what is no loop gives no loop a list. -/
theorem plugIn (h : Looped c) (hfits : Workspace.Fits c child parent input)
    (hf : c.frame? parent = some f) (ht : f.type ≠ foreachType) :
    Looped (c.plugIn child parent input) := by
  obtain ⟨check, g, slot, -, hg, hs, -⟩ := hfits.exist
  refine h.congr (fun id => frame?_plugIn ..) (fun id => field?_plugIn ..) rfl ?_
  intro loop f' held hf' ht' hheld
  have hne : ¬ (loop = parent ∧ listInput = input) := by
    rintro ⟨rfl, -⟩
    exact ht (Option.some.inj (hf.symm.trans hf') ▸ ht')
  rw [target?_plugIn hg hs, if_neg hne] at hheld
  exact ⟨hheld, tag_plugIn ..⟩

/-- A link is given an output. Nothing was known of it before, so no loop holds it. -/
theorem emit (h : Looped c) {link : String} (hunknown : c.tag link = .unknown) (tag : Tag) :
    Looped (c.emit link tag) := by
  refine h.congr (fun id => frame?_emit ..) (fun id => field?_emit ..) rfl ?_
  intro loop f held hf ht hheld
  rw [target?_emit] at hheld
  obtain ⟨collection, hcollection, -⟩ := h.iterating loop f hf ht held hheld
  have hne : held ≠ link := by
    rintro rfl
    rw [hunknown] at hcollection
    cases hcollection
  exact ⟨hheld, tag_emit_ne hne tag⟩

/-- The dropdown of an attribute getter is none of the pickers of loops. -/
theorem write (h : Looped c) (id : String) (field : Field) :
    Looped (c.write id attributeField field) := by
  refine h.congr (fun id => frame?_write ..) (fun id => ?_) rfl fun loop f held _ _ hheld => ?_
  · rw [field?_write, if_neg fun hand => absurd hand.2 (by decide)]
  · rw [target?_write] at hheld
    exact ⟨hheld, tag_write ..⟩

/-- Something is plugged into a link. The link may be given an output, but was unknown until then,
so no loop holds it. -/
theorem afterConnect_link (h : Looped c) (hc : Settled ids p.domain none c)
    (hfits : Workspace.Fits c child parent input) (hfree : c.target? parent input = none)
    (hf : c.frame? parent = some f) (hlink : Tag.isLinkType f.type = true) :
    Looped (p.afterConnect (c.plugIn child parent input) child parent).canvas := by
  have h0 := h.plugIn hfits hf fun he => absurd (he ▸ hlink) (by decide)
  have hf0 : (c.plugIn child parent input).frame? parent = some f := by rw [frame?_plugIn, hf]
  obtain ⟨first, second, htype⟩ := Tag.isLinkType_iff.mp hlink
  obtain ⟨rfl, hcases⟩ := hc.fits_link hfits hf htype
  rcases hcases with ⟨collection, hdoc, hside⟩ | hnone
  · have hdoc0 : (c.plugIn child parent linkInput).tag child = .document collection := by
      rw [tag_plugIn, hdoc]
    rw [Propagator.afterConnect_of_link hf0 hlink hdoc0
      (by rw [htype]; exact Tag.across?_link_eq_some_iff.mpr ⟨hside, rfl⟩)]
    refine h0.emit ?_ _
    rw [tag_plugIn]
    exact (hc.oriented parent f first second (by simp) hf htype).tag_of_empty hfree
  · have htag : (c.plugIn child parent linkInput).tag child = .unknown := by
      rw [tag_plugIn, tag_eq_of_output? hnone]
      rfl
    rw [Propagator.afterConnect_of_plain hf0 hlink (by rw [htag]; rfl)]
    exact h0

/-- Something is plugged into an attribute getter. At most its dropdown is written, and no loop
shows in that. -/
theorem afterConnect_getter (h : Looped c) (hfits : Workspace.Fits c child parent input)
    (hf : c.frame? parent = some f) (hgetter : f.type = getAttributeType) :
    Looped (p.afterConnect (c.plugIn child parent input) child parent).canvas := by
  have h0 := h.plugIn hfits hf (by rw [hgetter]; decide)
  have hf0 : (c.plugIn child parent input).frame? parent = some f := by rw [frame?_plugIn, hf]
  have hexists : ((c.plugIn child parent input).block? child).isSome := by
    obtain ⟨check, g, slot, ho, -⟩ := hfits.exist
    exact isSome_of_output? ((output?_plugIn ..).trans ho)
  rw [Propagator.afterConnect_of_getter hexists hf0 hgetter]
  split
  · exact h0
  · rw [Propagator.fillAttributes_canvas]
    split
    · exact h0
    · split
      · exact h0
      · exact h0.write parent _

/-- A variable is retyped that is named by a loop without a list. Any other loop that names it is
not the only one to do so. -/
theorem retyped (h : Looped c) (hf : c.frame? loop = some f) (ht : f.type = foreachType)
    (hfree : c.target? loop listInput = none) {field : Field}
    (hfield : c.field? loop variableField = some field) (type : String) :
    Looped (c.retyped field.value type) := by
  refine ⟨fun v hv => ?_, fun other g hg hg' => ?_, fun other g hg hg' child hc => ?_⟩
  · have hid : v.id ∈ (Canvas.retype field.value type c.vars).map (·.id) :=
      List.mem_map_of_mem hv
    rw [map_retype fun _ _ => rfl] at hid
    obtain ⟨v', hv', he⟩ := List.mem_map.mp hid
    exact he ▸ h.identified v' hv'
  · obtain ⟨field', v, hfield', -, hv⟩ := h.field hg hg'
    rw [loopVariable?, field?_retyped, hfield', Option.bind_some, findVariable_retyped]
    split
    · rename_i he
      rw [← he, hv]
      rfl
    · rw [hv]
      rfl
  · rw [target?_retyped] at hc
    obtain ⟨collection, hcollection, htype⟩ := h.iterating other g hg hg' child hc
    refine ⟨collection, hcollection, fun hs => ?_⟩
    have hs : c.Sole other := hs
    obtain ⟨field', v, hfield', -, hv⟩ := h.field hg hg'
    -- the loop in question holds nothing, so it is another one, and does not name this variable
    have hne : field'.value ≠ field.value := by
      intro he
      have hsame := hs loop f hf ht (by rw [hfield, hfield', Option.map_some, Option.map_some, he])
      rw [← hsame, hfree] at hc
      cases hc
    rw [loopVariable?, field?_retyped, hfield', Option.bind_some, findVariable_retyped, if_neg hne]
    rw [loopVariable?, hfield', Option.bind_some] at htype
    exact htype hs

/-- A loop is given a list of documents, for one of which its variable stands already. -/
theorem plugIn_list (h : Looped c) (hf : c.frame? loop = some f) {slot : Slot}
    (hs : f.slot? listInput = some slot) {collection : String}
    (hchild : c.tag child = .documentArray collection)
    (htype : (c.loopVariable? loop).map Variable.type = some (Tag.document collection).text) :
    Looped (c.plugIn child loop listInput) := by
  have hvariable : ∀ other, (c.plugIn child loop listInput).loopVariable? other =
      c.loopVariable? other := fun other => by
    rw [loopVariable?, field?_plugIn]
    rfl
  refine ⟨h.identified, fun other g hg hg' => ?_, fun other g hg hg' held hc => ?_⟩
  · rw [frame?_plugIn] at hg
    rw [hvariable]
    exact h.named other g hg hg'
  · rw [frame?_plugIn] at hg
    rw [target?_plugIn hf hs] at hc
    rw [hvariable, tag_plugIn]
    split at hc
    · rename_i he
      cases hc
      rw [he.1]
      exact ⟨collection, hchild, fun _ => htype⟩
    · obtain ⟨collection', hcollection, htype'⟩ := h.iterating other g hg hg' held hc
      refine ⟨collection', hcollection, fun hsole => htype' (hsole.of_kept hg ?_ ?_)⟩
      · exact fun id _ hid => (frame?_plugIn ..).trans hid
      · exact fun id _ _ => field?_plugIn ..

/-- Something is plugged into a loop. If it is a list of documents, the variable of the loop is
given their type; anything else is thrown out. -/
theorem afterConnect_loop (h : Looped c) (hc : Settled ids p.domain none c)
    (hfits : Workspace.Fits c child parent input) (hplug : c.plug? child = none)
    (hfree : c.target? parent input = none) (hf : c.frame? parent = some f)
    (ht : f.type = foreachType) :
    Looped (p.afterConnect (c.plugIn child parent input) child parent).canvas := by
  obtain ⟨rfl, hw, hheld, hbind⟩ := hc.bound_of_loop (p := p) hfits hplug hfree hf ht
  obtain ⟨f', slot, hf', hs⟩ := slot_of_target hheld
  rw [frame?_plugIn] at hf'
  cases htag : (c.tag child).isDocumentArray with
  | true =>
    obtain ⟨collection, htag⟩ := Tag.isDocumentArray_iff.mp htag
    obtain ⟨field, v, hfield, hne, hv⟩ := h.field hf ht
    rw [hbind, htag, Propagator.bindLoop_of_documents ((field?_plugIn ..).trans hfield) hne hv]
    refine (h.retyped hf ht hfree hfield (Tag.document collection).text).plugIn_list hf' hs htag ?_
    rw [loopVariable?, field?_retyped, hfield, Option.bind_some, findVariable_retyped, if_pos rfl,
      hv]
    rfl
  | false =>
    rw [hbind, Propagator.bindLoop_of_other hw htag hheld]
    -- the connection is undone
    refine h.congr (fun id => ?_) (fun id => ?_) rfl fun loop f' held _ _ hc' => ?_
    · rw [frame?_detach, frame?_plugIn]
    · rw [field?_detach, field?_plugIn]
    · rw [target?_detach, target?_plugIn hf' hs] at hc'
      split at hc'
      · cases hc'
      · exact ⟨hc', by rw [tag_detach, tag_plugIn]⟩

/-- **Something is plugged in**, into a free input that takes it: into a link, an attribute getter,
a loop, or a block for which there is no rule. -/
theorem plugged (h : Looped c) (hc : Settled ids p.domain none c)
    (hfits : Workspace.Fits c child parent input) (hplug : c.plug? child = none)
    (hfree : c.target? parent input = none) :
    Looped (p.afterConnect (c.plugIn child parent input) child parent).canvas := by
  obtain ⟨check, f, slot, -, hf, -⟩ := hfits.exist
  by_cases hloop : f.type = foreachType
  · exact h.afterConnect_loop hc hfits hplug hfree hf hloop
  · by_cases hgetter : f.type = getAttributeType
    · exact h.afterConnect_getter hfits hf hgetter
    · cases hlink : Tag.isLinkType f.type with
      | true => exact h.afterConnect_link hc hfits hfree hf hlink
      | false =>
        rw [Propagator.afterConnect_of_inert ((frame?_plugIn ..).trans hf) hlink hgetter
          fun hand => hloop hand.1]
        exact h.plugIn hfits hf hloop

end PlugIn


/-! ## A block is made -/

/-- Variables are declared, under ids that are not empty. Those that loops name are found as before,
because the new ones come behind them. -/
theorem declared (h : Looped c) (hne : ∀ n, ids n ≠ "") (hd : Declared ids c c')
    (hblocks : c'.blocks = c.blocks) : Looped c' := by
  have hframe := frame?_of_blocks hblocks
  have hfield := field?_of_blocks hblocks
  have hvariable : ∀ {loop f}, c.frame? loop = some f → f.type = foreachType →
      c'.loopVariable? loop = c.loopVariable? loop := by
    intro loop f hf ht
    obtain ⟨field, v, hget, -, hv⟩ := h.field hf ht
    rw [loopVariable?, loopVariable?, hfield, hget, Option.bind_some, Option.bind_some, hv,
      hd.findVariable hv]
  refine ⟨fun v hv => ?_, fun loop f hf ht => ?_, fun loop f hf ht child hc => ?_⟩
  · obtain ⟨new, hvars, hnew⟩ := hd
    rw [hvars] at hv
    rcases List.mem_append.mp hv with hv | hv
    · exact h.identified v hv
    · obtain ⟨n, hn⟩ := hnew v hv
      exact hn ▸ hne n
  · rw [hframe] at hf
    rw [hvariable hf ht]
    exact h.named loop f hf ht
  · rw [hframe] at hf
    rw [target?_of_blocks hblocks] at hc
    obtain ⟨collection, hcollection, htype⟩ := h.iterating loop f hf ht child hc
    rw [hvariable hf ht, tag_congr (output?_of_blocks hblocks child)]
    refine ⟨collection, hcollection, fun hs => htype (hs.of_kept hf ?_ fun id _ _ => hfield id _)⟩
    exact fun id _ hid => (hframe id).trans hid

/-- A block is added that holds nothing; if it is a loop, it names a variable that is there. -/
theorem add (h : Looped c) (hw : Wired c) {id : String} {b : Block} (hnew : c.block? id = none)
    (hb : b.Blank) (hnamed : b.frame.type = foreachType →
      ∃ field v, b.fields.get? variableField = some field ∧ v ∈ c.vars ∧ v.id = field.value) :
    Looped (c.add id b) := by
  have hvariable : ∀ {loop}, loop ≠ id →
      (c.add id b).loopVariable? loop = c.loopVariable? loop := by
    intro loop hloop
    rw [loopVariable?, loopVariable?, field?_add, if_neg hloop]
    rfl
  refine ⟨h.identified, fun loop f hf ht => ?_, fun loop f hf ht child hc => ?_⟩
  · rw [frame?_add] at hf
    split at hf
    · rename_i he
      cases hf
      obtain ⟨field, v, hget, hv, hid⟩ := hnamed ht
      rw [loopVariable?, field?_add, if_pos he, hget, Option.bind_some, ← hid]
      exact findVariable_isSome hv
    · rename_i hloop
      rw [hvariable hloop]
      exact h.named loop f hf ht
  · rw [target?_add hnew hb] at hc
    have hloop : loop ≠ id := by
      rintro rfl
      rw [target?_eq_bind, hnew] at hc
      cases hc
    have hchild : child ≠ id := by
      rintro rfl
      have hsome := hw.block_of_target hc
      rw [hnew] at hsome
      cases hsome
    rw [frame?_add, if_neg hloop] at hf
    obtain ⟨collection, hcollection, htype⟩ := h.iterating loop f hf ht child hc
    rw [hvariable hloop, tag_congr (show (c.add id b).output? child = c.output? child by
      rw [output?_add, if_neg hchild])]
    have hother : ∀ {other g}, c.frame? other = some g → other ≠ id := by
      rintro other g hg rfl
      rw [frame?, hnew] at hg
      cases hg
    refine ⟨collection, hcollection, fun hs => htype (hs.of_kept hf ?_ ?_)⟩
    · exact fun other g hg => by rw [frame?_add, if_neg (hother hg), hg]
    · exact fun other g hg => by rw [field?_add, if_neg (hother hg)]

/-- **A block is made.** A loop is made with a variable to name, and holds nothing; any other block
is no loop. -/
theorem create (h : Looped c) (hids : Function.Injective ids) (hne : ∀ n, ids n ≠ "")
    (hc : Coherent ids c) {catalog : Catalog} (hsound : catalog.Sound) {blockType id : String}
    {preset : Option String} (hmade : c.create ids catalog blockType preset = .ok (id, c')) :
    Looped c' := by
  obtain ⟨d, hd, rfl, rfl⟩ := create_eq_ok hmade
  obtain ⟨hbuilt, hblocks, hnew, -⟩ := hc.build_next hids d preset
  obtain ⟨key, hkey⟩ := hsound.definition? hd
  have hdeclared : Declared ids c ((c.draw ids).2.build ids d preset).2 :=
    Declared.trans (.of_vars rfl) (build_declared (c.draw ids).2 d preset)
  refine (h.declared hne hdeclared hblocks).add hbuilt.wired hnew (build_blank d preset) ?_
  intro ht
  rw [build_frame] at ht
  obtain ⟨-, rfl⟩ := hkey.eq_foreachLoop ht
  obtain ⟨v, hfield, hv⟩ := build_foreachLoop (c.draw ids).2 preset
  exact ⟨⟨v.id, []⟩, v, hfield, hv, rfl⟩

/-- **Every step keeps the loops in order.** -/
theorem step (h : Looped c) (hids : Function.Injective ids) (hne : ∀ n, ids n ≠ "")
    (hs : Step ids p c c') : Looped c' := by
  cases hs with
  | pull hpulled => exact h.pulled hpulled
  | plug hc hfits hplug hfree => exact h.plugged hc hfits hplug hfree
  | make hc hsound hmade => exact h.create hids hne hc.coherent hsound hmade

/-- Any number of steps does. -/
theorem steps (h : Looped c) (hids : Function.Injective ids) (hne : ∀ n, ids n ≠ "")
    (hs : Steps ids p c c') : Looped c' := by
  induction hs with
  | refl => exact h
  | tail _ hstep ih => exact ih.step hids hne hstep

end Looped

end TypedBlocks.Canvas
