import TypedBlocks.Proofs.Canvas.Replugging
import TypedBlocks.Proofs.Session.Edits
import TypedBlocks.Proofs.Session.Looping
import TypedBlocks.Proofs.Session.Strays

/-!
# There and back

A block is plugged in and pulled out again (`Propagator.tried`), or pulled out and put back
(`Propagator.putBack`). The two are not alike.

What a connection did is undone by the rule for disconnections, which remembers nothing: it goes
back to the unknown output of a link, and to the placeholder of a dropdown. On a settled canvas an
empty input means that this is what stood there before, so nothing remains
(`Settled.tried_eq_self`), as long as the link is plugged in nowhere: a link that loses its document
leaves its holder, too.

Putting a block back has the rule for connections look at it anew. Mostly that finds nothing to do,
but three things can come of it, and these are `Stirred`. A link that holds a document leaves its
holder, as before, and does not return; a getter whose dropdown was not told what the link it holds
leads to is told now; and so is the variable of a loop that another loop has taken over.
-/

namespace TypedBlocks

open Canvas Definition

variable {ids : IdSupply} {p : Propagator} {c : Canvas} {child parent input : String} {f : Frame}

namespace Propagator

/-- The canvas after a block was plugged in and pulled out again. -/
def tried (p : Propagator) (c : Canvas) (child parent input : String) : Canvas :=
  (p.afterDisconnect ((p.afterConnect (c.plugIn child parent input) child parent).canvas.detach
    child ⟨parent, input⟩) child parent).canvas

/-- The canvas after a block was pulled out and put back. -/
def putBack (p : Propagator) (c : Canvas) (child parent input : String) : Canvas :=
  (p.afterConnect ((p.afterDisconnect (c.detach child ⟨parent, input⟩) child
    parent).canvas.plugIn child parent input) child parent).canvas

/-- The dropdown of a getter is filled if there are attributes to fill it with. -/
theorem fillAttributes_cases (p : Propagator) (c : Canvas) (getter collection : String) :
    ((p.fillAttributes c getter collection).canvas = c ∧
      ∀ found, p.domain.collection? collection = .ok found → found.choices.isEmpty = true) ∨
    ∃ found, p.domain.collection? collection = .ok found ∧ found.choices.isEmpty = false ∧
      (p.fillAttributes c getter collection).canvas =
        c.write getter attributeField ⟨found.defaultChoice, found.choices⟩ := by
  rw [fillAttributes_canvas]
  cases p.domain.collection? collection with
  | error fault => exact .inl ⟨rfl, nofun⟩
  | ok found =>
    cases hempty : found.choices.isEmpty with
    | true =>
      refine .inl ⟨if_pos hempty, fun other hother => ?_⟩
      rw [← Except.ok.inj hother, hempty]
    | false => exact .inr ⟨found, rfl, hempty, if_neg (by simp [hempty])⟩

end Propagator

namespace Canvas

/-- Only attribute getters have a dropdown to be emptied. -/
theorem cleared_of_other (hf : c.frame? parent = some f) (ht : f.type ≠ getAttributeType) :
    c.cleared parent = c := by
  refine if_neg fun h => ht ?_
  rw [hf, Option.map_some, Option.some.injEq] at h
  exact h.1

/-- The dropdown of an empty getter is emptied. -/
theorem cleared_of_getter (hf : c.frame? parent = some f) (ht : f.type = getAttributeType)
    (hfree : c.target? parent documentInput = none) :
    c.cleared parent = c.write parent attributeField ⟨notApplicable, placeholder⟩ := by
  refine if_pos ⟨?_, hfree⟩
  rw [hf, Option.map_some, ht]

/-- Emptying a dropdown goes past what leaves it and the input of its getter alone. -/
theorem cleared_comm (change : Canvas → Canvas) {id : String}
    (hframe : ∀ c, (change c).frame? id = c.frame? id)
    (htarget : ∀ c, (change c).target? id documentInput = c.target? id documentInput)
    (hwrite : ∀ c field, change (c.write id attributeField field) =
      (change c).write id attributeField field) (c : Canvas) :
    change (c.cleared id) = (change c).cleared id := by
  rw [cleared, cleared, hframe, htarget]
  split
  · exact hwrite ..
  · rfl

/-- Giving a variable the type that it has changes nothing. -/
theorem retyped_eq_self {id type : String} (h : ∀ v, c.findVariable id = some v → v.type = type) :
    c.retyped id type = c := by
  suffices hvars : ∀ vars : List Variable,
      (∀ v, vars.find? (·.id = id) = some v → v.type = type) → retype id type vars = vars by
    rw [retyped, hvars c.vars h]
  intro vars h
  induction vars with
  | nil => rfl
  | cons v rest ih =>
    rw [retype]
    split
    · rename_i hid
      rw [← h v (List.find?_cons_of_pos (decide_eq_true hid))]
    · rename_i hid
      refine congrArg (v :: ·) (ih fun v' hv' => h v' ?_)
      rwa [List.find?_cons_of_neg (by simpa using hid)]

/-- A getter shows the placeholder as long as there are no attributes of what it holds. -/
theorem Listed.reset_of_bare {domain : Domain} {id : String} (h : Listed domain c id)
    (hheld : c.target? id documentInput = some child)
    (hnone : ∀ collection found, (c.tag child).collection? = some collection →
      domain.collection? collection = .ok found → found.choices.isEmpty = true) :
    c.field? id attributeField = some ⟨notApplicable, placeholder⟩ := by
  rcases h with hreset | ⟨held, collection, found, ht, hcollection, hfound, hsome, -⟩
  · exact hreset
  · obtain rfl := Option.some.inj (hheld.symm.trans ht)
    rw [hnone collection found hcollection hfound] at hsome
    cases hsome

namespace Settled

/-! ## Plugged in and pulled out -/

section Tried

variable (hc : Settled ids p.domain none c) (hfits : Workspace.Fits c child parent input)
  (hplug : c.plug? child = none) (hfree : c.target? parent input = none)

include hc hfits

/-- What follows from plugging something into a link: nothing, or the link leads somewhere. -/
theorem follows_link (hf : c.frame? parent = some f)
    (hlink : Tag.isLinkType f.type = true) :
    (p.afterConnect (c.plugIn child parent input) child parent).canvas =
      c.plugIn child parent input ∨
    input = linkInput ∧ (c.tag child).isDocument = true ∧ ∃ other, other ≠ "" ∧
      (p.afterConnect (c.plugIn child parent input) child parent).canvas =
        (c.plugIn child parent input).emit parent (.documentArray other) := by
  obtain ⟨first, second, htype⟩ := Tag.isLinkType_iff.mp hlink
  have hf' : (c.plugIn child parent input).frame? parent = some f := (frame?_plugIn ..).trans hf
  obtain ⟨hinput, ⟨collection, hdoc, hside⟩ | hnone⟩ := hc.fits_link hfits hf htype
  · obtain ⟨hfirst, hsecond, -⟩ := hc.formed.slot?_of_link hf htype
    have hacross := Tag.across?_link_eq_some_iff.mpr ⟨hside, rfl⟩
    rw [← htype] at hacross
    refine .inr ⟨hinput, by rw [hdoc]; rfl, _, ?_,
      Propagator.afterConnect_of_link hf' hlink ((tag_plugIn ..).trans hdoc) hacross⟩
    split
    · exact hsecond
    · exact hfirst
  · left
    rw [Propagator.afterConnect_of_plain hf' hlink]
    · rfl
    · rw [tag_plugIn, tag_eq_of_output? hnone]
      rfl

/-- What follows from plugging something into an attribute getter: nothing, or its dropdown is
filled. -/
theorem follows_getter (hf : c.frame? parent = some f)
    (hgetter : f.type = getAttributeType) :
    (p.afterConnect (c.plugIn child parent input) child parent).canvas =
      c.plugIn child parent input ∨
    input = documentInput ∧ ∃ field,
      (p.afterConnect (c.plugIn child parent input) child parent).canvas =
        (c.plugIn child parent input).write parent attributeField field := by
  obtain ⟨check, g, slot, ho, hg, hs, -⟩ := hfits.exist
  obtain rfl := Option.some.inj (hf.symm.trans hg)
  have hinput : input = documentInput := by
    rw [hc.formed.frame_of_builtIn .attributeGetter hf hgetter, slot?_attributeGetter] at hs
    split at hs
    · assumption
    · cases hs
  rw [Propagator.afterConnect_of_getter (isSome_of_output? ((output?_plugIn ..).trans ho))
    ((frame?_plugIn ..).trans hf) hgetter]
  split
  · exact .inl rfl
  · rcases p.fillAttributes_cases (c.plugIn child parent input) parent _ with
      ⟨hsame, -⟩ | ⟨found, -, -, hfill⟩
    · exact .inl hsame
    · exact .inr ⟨hinput, _, hfill⟩

include hplug hfree

omit hfits in
/-- If nothing follows from the connection, nothing follows from its end. -/
theorem tried_of_idle
    (h : (p.afterConnect (c.plugIn child parent input) child parent).canvas =
      c.plugIn child parent input) : p.tried c child parent input = c := by
  rw [Propagator.tried, h, detach_plugIn hplug hfree]
  exact hc.afterDisconnect_eq_self child parent

/-- Tried in a link that is plugged in nowhere. -/
theorem tried_of_link (hf : c.frame? parent = some f) (hlink : Tag.isLinkType f.type = true)
    (hloose : c.plug? parent = none) : p.tried c child parent input = c := by
  rcases hc.follows_link hfits hf hlink with
    hidle | ⟨rfl, hdoc, other, hne, hafter⟩
  · exact hc.tried_of_idle hplug hfree hidle
  · obtain ⟨first, second, htype⟩ := Tag.isLinkType_iff.mp hlink
    have hempty := (hc.oriented parent f first second (by simp) hf htype).output_of_empty hfree
    -- the link leads somewhere now, so the document leaves a link that is in use
    have hused : ((c.emit parent (.documentArray other)).tag parent).isUnknown = false := by
      rw [tag_emit_self (isSome_of_frame? hf), Tag.ofText_text_documentArray, if_neg hne]
      rfl
    have hdoc' : ((c.emit parent (.documentArray other)).tag child).isDocument = true := by
      rw [tag_emit_ne hfits.apart, hdoc]
    rw [Propagator.tried, hafter, emit_detach, detach_plugIn hplug hfree,
      Propagator.afterDisconnect_of_link ((frame?_emit ..).trans hf) hlink hdoc' hused
        ((target?_emit ..).trans hfree), plug?_emit, hloose]
    dsimp only
    rw [emit_emit, emit_eq_self hempty]

/-- Tried in an attribute getter. -/
theorem tried_of_getter (hf : c.frame? parent = some f) (hgetter : f.type = getAttributeType) :
    p.tried c child parent input = c := by
  rcases hc.follows_getter hfits hf hgetter with hidle | ⟨rfl, field, hafter⟩
  · exact hc.tried_of_idle hplug hfree hidle
  · have hplain : ∀ g, (c.write parent attributeField field).frame? parent = some g →
        Tag.isLinkType g.type = false := fun g hg => by
      rw [frame?_write, hf, Option.some.injEq] at hg
      rw [← hg, hgetter]
      decide
    have hreset := (hc.listed parent f (by simp) hf hgetter).reset fun held hheld => by
      rw [hfree] at hheld
      cases hheld
    rw [Propagator.tried, hafter, write_detach, detach_plugIn hplug hfree,
      Propagator.afterDisconnect_of_plain fun _ => hplain,
      cleared_of_getter ((frame?_write ..).trans hf) hgetter ((target?_write ..).trans hfree),
      write_write]
    exact write_eq_self fun shown hshown => Option.some.inj (hreset.symm.trans hshown)

/-- **What is plugged into a loose link or an attribute getter stays there, and when it is pulled
out again, nothing remains.** -/
theorem tried_eq_self (hf : c.frame? parent = some f)
    (hkind : f.type = getAttributeType ∨
      Tag.isLinkType f.type = true ∧ c.plug? parent = none) :
    (p.afterConnect (c.plugIn child parent input) child parent).canvas.plug? child =
        some ⟨parent, input⟩ ∧
      p.tried c child parent input = c := by
  have hstays : (c.plugIn child parent input).plug? child = some ⟨parent, input⟩ :=
    (plug?_plugIn hfits.isSome ..).trans (if_pos rfl)
  rcases hkind with hgetter | ⟨hlink, hloose⟩
  · refine ⟨?_, hc.tried_of_getter hfits hplug hfree hf hgetter⟩
    rcases hc.follows_getter hfits hf hgetter with hidle | ⟨-, field, hafter⟩
    · rw [hidle, hstays]
    · rw [hafter, plug?_write, hstays]
  · refine ⟨?_, hc.tried_of_link hfits hplug hfree hf hlink hloose⟩
    rcases hc.follows_link hfits hf hlink with hidle | ⟨-, -, other, -, hafter⟩
    · rw [hidle, hstays]
    · rw [hafter, plug?_emit, hstays]

end Tried

/-! ## Pulled out and put back -/

section PutBack

/-- What is put back into anything but a link with a document: the dropdown was emptied meanwhile,
if there is one. -/
theorem putBack_of_plain (hf : c.frame? parent = some f)
    (hplain : (c.tag child).isDocument = true → Tag.isLinkType f.type = false) :
    p.putBack c child parent input =
      (p.afterConnect (((c.detach child ⟨parent, input⟩).cleared parent).plugIn child parent
        input) child parent).canvas := by
  rw [Propagator.putBack, Propagator.afterDisconnect_of_plain fun hdoc g hg => ?_]
  rw [frame?_detach, hf, Option.some.injEq] at hg
  rw [tag_detach] at hdoc
  rw [← hg, hplain hdoc]

variable (hc : Settled ids p.domain none c) (hplug : c.plug? child = some ⟨parent, input⟩)

include hc hplug

/-- What is put back where there is no dropdown, and where no link had a document: the connection is
looked at anew. -/
theorem putBack_of_other (hf : c.frame? parent = some f) (ht : f.type ≠ getAttributeType)
    (hplain : (c.tag child).isDocument = true → Tag.isLinkType f.type = false) :
    p.putBack c child parent input = (p.afterConnect c child parent).canvas := by
  rw [putBack_of_plain hf hplain, cleared_of_other ((frame?_detach ..).trans hf) ht,
    plugIn_detach hplug (hc.coherent.wired.plug_iff.mp hplug)]

/-- What is put back into an attribute getter: the dropdown is filled again, if it was filled. -/
theorem putBack_of_getter (hf : c.frame? parent = some f) (hgetter : f.type = getAttributeType) :
    p.putBack c child parent input =
      match (c.tag child).collection? with
      | none => c
      | some collection => (p.fillAttributes c parent collection).canvas := by
  have hw := hc.coherent.wired
  have hheld := hw.plug_iff.mp hplug
  obtain rfl : input = documentInput := hc.formed.input_of_getter hheld hf hgetter
  have hlink : Tag.isLinkType f.type = false := by
    rw [hgetter]
    decide
  have hplugged : ((c.detach child ⟨parent, documentInput⟩).cleared parent).plugIn child parent
      documentInput = c.write parent attributeField ⟨notApplicable, placeholder⟩ := by
    rw [cleared_of_getter ((frame?_detach ..).trans hf) hgetter
      ((target?_detach ..).trans (if_pos ⟨rfl, rfl⟩)), write_plugIn, plugIn_detach hplug hheld]
  have hchild : ((c.write parent attributeField ⟨notApplicable, placeholder⟩).block?
      child).isSome := by
    rw [isSome_congr (frame?_write ..)]
    exact hw.block_of_target hheld
  rw [putBack_of_plain hf fun _ => hlink, hplugged,
    Propagator.afterConnect_of_getter hchild ((frame?_write ..).trans hf) hgetter, tag_write]
  -- a dropdown that is not filled again shows the placeholder already
  have hreset (hnone : ∀ collection found, (c.tag child).collection? = some collection →
      p.domain.collection? collection = .ok found → found.choices.isEmpty = true) :
      c.write parent attributeField ⟨notApplicable, placeholder⟩ = c :=
    write_eq_self fun field hfield => Option.some.inj
      (((hc.listed parent f (by simp) hf hgetter).reset_of_bare hheld hnone).symm.trans hfield)
  cases hcollection : (c.tag child).collection? with
  | none =>
    refine hreset fun collection found h => ?_
    rw [hcollection] at h
    cases h
  | some collection =>
    dsimp only
    rcases p.fillAttributes_cases (c.write parent attributeField ⟨notApplicable, placeholder⟩)
      parent collection with ⟨-, hnone⟩ | ⟨found, hfound, hsome, hfill⟩
    · rw [hreset fun other found h => ?_]
      rw [hcollection, Option.some.injEq] at h
      exact h ▸ hnone found
    · rw [hfill, write_write, Propagator.fillAttributes_canvas, hfound]
      exact (if_neg (by simp [hsome])).symm

/-- A link that holds a document leads somewhere. Wherever the document is plugged into it again, it
is made to lead there. -/
theorem leads_anew (hf : c.frame? parent = some f) (hlink : Tag.isLinkType f.type = true)
    (hdoc : (c.tag child).isDocument = true) :
    (c.tag parent).isUnknown = false ∧ ∃ other,
      c.output? parent = some (true, some [(Tag.documentArray other).text]) ∧
      ∀ d : Canvas, d.frame? parent = some f → d.tag child = c.tag child →
        (p.afterConnect (d.plugIn child parent linkInput) child parent).canvas =
          (d.plugIn child parent linkInput).emit parent (.documentArray other) := by
  have hheld := hc.coherent.wired.plug_iff.mp hplug
  obtain rfl : input = linkInput := hc.formed.input_of_link hheld hf hlink
  obtain ⟨first, second, htype⟩ := Tag.isLinkType_iff.mp hlink
  have horiented := hc.oriented parent f first second (by simp) hf htype
  obtain ⟨hfirst, hsecond, -⟩ := hc.formed.slot?_of_link hf htype
  obtain ⟨collection, hcollection⟩ : ∃ collection, c.tag child = .document collection := by
    cases htag : c.tag child with
    | document collection => exact ⟨collection, rfl⟩
    | _ => rw [htag] at hdoc; cases hdoc
  obtain ⟨other, hother, ho⟩ := horiented.output_of_document hheld hcollection
  refine ⟨horiented.isUnknown_eq_false hfirst hsecond hheld hdoc, other, ho, fun d hfd htag => ?_⟩
  refine Propagator.afterConnect_of_link ((frame?_plugIn ..).trans hfd) hlink
    ((tag_plugIn ..).trans (htag.trans hcollection)) ?_
  rw [htype, hother]

/-- What a document in a link is put back into: a link whose output is given anew. -/
theorem putBack_of_document (hf : c.frame? parent = some f)
    (hlink : Tag.isLinkType f.type = true) (hdoc : (c.tag child).isDocument = true) :
    p.putBack c child parent input =
      match c.plug? parent with
      | none => c
      | some plug => ((c.detach parent plug).shift parent p.snapRadius p.snapRadius).cleared
          plug.block := by
  have hw := hc.coherent.wired
  have hheld := hw.plug_iff.mp hplug
  obtain rfl : input = linkInput := hc.formed.input_of_link hheld hf hlink
  obtain ⟨hused, other, ho, hleads⟩ := hc.leads_anew hplug hf hlink hdoc
  have hne : child ≠ parent := hw.ne_of_plug hplug
  have htag : ((c.detach child ⟨parent, linkInput⟩).emit parent .unknown).tag child =
      c.tag child := (tag_emit_ne hne _).trans (tag_detach ..)
  rw [Propagator.putBack, Propagator.afterDisconnect_of_link ((frame?_detach ..).trans hf) hlink
    ((congrArg _ (tag_detach ..)).trans hdoc) ((congrArg _ (tag_detach ..)).trans hused)
    ((target?_detach ..).trans (if_pos ⟨rfl, rfl⟩)), plug?_detach, if_neg hne.symm]
  cases hholder : c.plug? parent with
  | none =>
    dsimp only
    rw [hleads _ ((frame?_emit ..).trans ((frame?_detach ..).trans hf)) htag, emit_plugIn,
      emit_emit, plugIn_detach hplug hheld, emit_eq_self ho]
  | some plug =>
    have hapart : plug.block ≠ parent := (hw.ne_of_plug hholder).symm
    dsimp only
    rw [hleads _ (by simp [frame?_cleared, hf])
      (by rw [tag_cleared, tag_shift, tag_detach, htag])]
    -- making the connection and giving the link its output go past all that became of its holder
    rw [cleared_comm (fun d => (d.plugIn child parent linkInput).emit parent (.documentArray other))
      (fun _ => by rw [frame?_emit, frame?_plugIn])
      (fun _ => by rw [target?_emit, target?_plugIn_ne hapart])
      (fun _ _ => by rw [write_plugIn, emit_write])]
    rw [shift_plugIn, detach_plugIn_comm _ hne.symm hapart, emit_plugIn, ← emit_shift,
      ← emit_detach, emit_emit, plugIn_detach hplug hheld, emit_eq_self ho]

/-- What is put back into a loop is its list: the variable of the loop is given its type again. -/
theorem putBack_of_loop (hl : Looped c) (hf : c.frame? parent = some f)
    (ht : f.type = foreachType) :
    ∃ collection field v, c.tag child = .documentArray collection ∧
      c.field? parent variableField = some field ∧ c.findVariable field.value = some v ∧
      p.putBack c child parent input =
        c.retyped field.value (Tag.document collection).text := by
  have hw := hc.coherent.wired
  have hheld := hw.plug_iff.mp hplug
  have hlink : Tag.isLinkType f.type = false := by
    rw [ht]
    decide
  have hother : f.type ≠ getAttributeType := by
    rw [ht]
    decide
  obtain rfl : input = listInput := by
    obtain ⟨g, slot, hg, hs⟩ := slot_of_target hheld
    obtain rfl := Option.some.inj (hf.symm.trans hg)
    have hslot := slot?_foreachLoop input
    rw [← hc.formed.frame_of_builtIn .foreachLoop hf ht, hs] at hslot
    split at hslot
    · assumption
    · split at hslot
      · -- the body of a loop holds nothing
        rw [hw.body hf hs (by rw [Option.some.inj hslot])] at hheld
        cases hheld
      · cases hslot
  obtain ⟨collection, hcollection, -⟩ := hl.iterating parent f hf ht child hheld
  obtain ⟨field, v, hfield, hne, hv⟩ := hl.field hf ht
  refine ⟨collection, field, v, hcollection, hfield, hv, ?_⟩
  rw [hc.putBack_of_other hplug hf hother fun _ => hlink,
    Propagator.afterConnect_of_loop (hw.block_of_target hheld) hf ht hheld, hcollection,
    Propagator.bindLoop_of_documents hfield hne hv]

/-- What is put back anywhere else. -/
theorem putBack_of_inert (hf : c.frame? parent = some f) (hlink : Tag.isLinkType f.type = false)
    (hgetter : f.type ≠ getAttributeType) (hloop : f.type ≠ foreachType) :
    p.putBack c child parent input = c := by
  rw [hc.putBack_of_other hplug hf hgetter fun _ => hlink,
    Propagator.afterConnect_of_inert hf hlink hgetter fun h => hloop h.1]
  rfl

end PutBack

end Settled

/-- What comes of putting a block back where it is, where anything does: each case says what was
there, and what the canvas is then. -/
inductive Stirred (p : Propagator) (c : Canvas) (child parent : String) : Canvas → Prop where
  /-- a link that holds a document leaves its holder and moves, and a dropdown of the holder is
  emptied -/
  | dislodge {f : Frame} {plug : Plug} (frame : c.frame? parent = some f)
      (link : Tag.isLinkType f.type = true) (document : (c.tag child).isDocument = true)
      (held : c.plug? parent = some plug) :
      Stirred p c child parent
        (((c.detach parent plug).shift parent p.snapRadius p.snapRadius).cleared plug.block)
  /-- an attribute getter offers the attributes of what it holds, which it did not do before -/
  | refresh {f : Frame} {collection : String} {found : Collection}
      (frame : c.frame? parent = some f) (getter : f.type = getAttributeType)
      (documents : (c.tag child).collection? = some collection)
      (known : p.domain.collection? collection = .ok found)
      (offers : found.choices.isEmpty = false)
      (news : ∃ field, c.field? parent attributeField = some field ∧
        field ≠ ⟨found.defaultChoice, found.choices⟩) :
      Stirred p c child parent
        (c.write parent attributeField ⟨found.defaultChoice, found.choices⟩)
  /-- the variable of a loop stands for the elements of its list, which it did not do before -/
  | retype {f : Frame} {collection : String} {field : Field} {v : Variable}
      (frame : c.frame? parent = some f) (loop : f.type = foreachType)
      (documents : c.tag child = .documentArray collection)
      (picks : c.field? parent variableField = some field)
      (names : c.findVariable field.value = some v)
      (news : v.type ≠ (Tag.document collection).text) :
      Stirred p c child parent (c.retyped field.value (Tag.document collection).text)

variable {c' : Canvas}

/-- **Putting a block back where it is does nothing, or stirs something up.** -/
theorem Settled.putBack_cases (hc : Settled ids p.domain none c) (hl : Looped c)
    (hplug : c.plug? child = some ⟨parent, input⟩) :
    p.putBack c child parent input = c ∨
      Stirred p c child parent (p.putBack c child parent input) := by
  obtain ⟨f, slot, hf, -⟩ := slot_of_target (hc.coherent.wired.plug_iff.mp hplug)
  cases hlink : Tag.isLinkType f.type with
  | true =>
    cases hdoc : (c.tag child).isDocument with
    | true =>
      rw [hc.putBack_of_document hplug hf hlink hdoc]
      cases hholder : c.plug? parent with
      | none => exact .inl rfl
      | some plug => exact .inr (.dislodge hf hlink hdoc hholder)
    | false =>
      have hplain : (c.tag child).isDocument = true → Tag.isLinkType f.type = false := by
        rw [hdoc]
        nofun
      left
      rw [hc.putBack_of_other hplug hf (Propagator.ne_getAttributeType_of_link hlink) hplain,
        Propagator.afterConnect_of_plain hf hlink hdoc]
      rfl
  | false =>
    by_cases hgetter : f.type = getAttributeType
    · rw [hc.putBack_of_getter hplug hf hgetter]
      cases hcollection : (c.tag child).collection? with
      | none => exact .inl rfl
      | some collection =>
        dsimp only
        rcases p.fillAttributes_cases c parent collection with
          ⟨hsame, -⟩ | ⟨found, hfound, hsome, hfill⟩
        · exact .inl hsame
        · rw [hfill]
          by_cases hnews : ∃ field, c.field? parent attributeField = some field ∧
              field ≠ ⟨found.defaultChoice, found.choices⟩
          · exact .inr (.refresh hf hgetter hcollection hfound hsome hnews)
          · refine .inl (write_eq_self fun field hfield => ?_)
            by_contra hne
            exact hnews ⟨field, hfield, fun he => hne he.symm⟩
    · by_cases hloop : f.type = foreachType
      · obtain ⟨collection, field, v, hcollection, hfield, hv, hbound⟩ :=
          hc.putBack_of_loop (p := p) hplug hl hf hloop
        rw [hbound]
        by_cases hnews : v.type = (Tag.document collection).text
        · refine .inl (retyped_eq_self fun v' hv' => ?_)
          rw [← Option.some.inj (hv.symm.trans hv'), hnews]
        · exact .inr (.retype hf hloop hcollection hfield hv hnews)
      · exact .inl (hc.putBack_of_inert hplug hf hlink hgetter hloop)

/-- **What is stirred up is what becomes of the canvas**, and it is not as before. -/
theorem Stirred.putBack (h : Stirred p c child parent c') (hc : Settled ids p.domain none c)
    (hl : Looped c) (hplug : c.plug? child = some ⟨parent, input⟩) :
    p.putBack c child parent input = c' ∧ c' ≠ c := by
  cases h with
  | @dislodge f plug hf hlink hdoc hholder =>
    refine ⟨?_, fun he => ?_⟩
    · rw [hc.putBack_of_document hplug hf hlink hdoc, hholder]
    · have hplug := congrArg (plug? · parent) he
      rw [plug?_cleared, plug?_shift, plug?_detach, if_pos rfl, hholder] at hplug
      cases hplug
  | @refresh f collection found hf hgetter hcollection hfound hsome hnews =>
    obtain ⟨field, hfield, hne⟩ := hnews
    refine ⟨?_, fun he => hne ?_⟩
    · rw [hc.putBack_of_getter hplug hf hgetter, hcollection]
      dsimp only
      rw [Propagator.fillAttributes_canvas, hfound]
      exact if_neg (by simp [hsome])
    · have hafter := congrArg (field? · parent attributeField) he
      rw [field?_write, if_pos ⟨rfl, rfl⟩, hfield, Option.map_some, Option.some.injEq] at hafter
      exact hafter.symm
  | @retype f collection field v hf hloop hcollection hfield hv hnews =>
    refine ⟨?_, fun he => hnews ?_⟩
    · obtain ⟨collection', field', v', hcollection', hfield', -, hbound⟩ :=
        hc.putBack_of_loop (p := p) hplug hl hf hloop
      obtain rfl := Tag.documentArray.inj (hcollection.symm.trans hcollection')
      obtain rfl := Option.some.inj (hfield.symm.trans hfield')
      exact hbound
    · have hafter := congrArg (findVariable · field.value) he
      rw [findVariable_retyped, if_pos rfl, hv, Option.map_some, Option.some.injEq] at hafter
      exact (congrArg Variable.type hafter).symm

end Canvas

/-! ## In session -/

namespace Workspace.Attended

variable {w : Workspace}

/-- **What is plugged in between free ends can be pulled out again**, and leaves nothing behind, if
it was plugged into an attribute getter or a loose link. -/
theorem unplug_connect (h : Attended ids p w) (hfits : Fits w.canvas child parent input)
    (hplug : w.canvas.plug? child = none) (hfree : w.canvas.target? parent input = none)
    (hf : w.canvas.frame? parent = some f)
    (hkind : f.type = getAttributeType ∨
      Tag.isLinkType f.type = true ∧ w.canvas.plug? parent = none) :
    ((w.connect ids child parent input).1.unplug ids child).2 = .ok () ∧
      ((w.connect ids child parent input).1.unplug ids child).1.canvas = w.canvas := by
  obtain ⟨hstays, hback⟩ := h.settled.tried_eq_self hfits hplug hfree hf hkind
  have hmade := (h.connect_of_free hfits hplug hfree).2
  rw [← hmade] at hstays
  refine ⟨by rw [unplug_eq hstays], ?_⟩
  rw [(h.connect child parent input).unplug_canvas hstays, hmade]
  exact hback

/-- A block is connected to where it is: it is pulled out and put back. -/
theorem connect_put_back (h : Attended ids p w) (hfits : Fits w.canvas child parent input)
    (hplug : w.canvas.plug? child = some ⟨parent, input⟩) :
    (w.connect ids child parent input).2 = .ok () ∧
      (w.connect ids child parent input).1.canvas = p.putBack w.canvas child parent input := by
  have hw := h.settled.coherent.wired
  have hheld := hw.plug_iff.mp hplug
  have hfree : ∀ occupant, ¬ Snagged w.canvas child parent input occupant := by
    intro occupant hsnag
    -- the input holds the child itself, which does not hold itself in turn
    obtain rfl := Option.some.inj (hheld.symm.trans hsnag.found)
    exact hw.apart _ _ hsnag.holds
  obtain ⟨hok, c, hcleared, -, -, -, -, -, -, hcanvas, -⟩ := h.connect_of_fits hfits hfree
  refine ⟨hok, ?_⟩
  have hevict : ((w.vacate ids child).1.evict ids child (w.canvas.target? parent input)).1 =
      (w.unplug ids child).1 := by
    rw [hheld, Workspace.evict, if_pos rfl, vacate_eq, if_neg (by simp [hplug])]
  rw [hcanvas, hcleared, hevict, h.unplug_canvas hplug]
  rfl

end Workspace.Attended

end TypedBlocks
