import TypedBlocks.Proofs.Catalog.Sound
import TypedBlocks.Proofs.Run.Wiring
import TypedBlocks.Proofs.Session.Edits

/-!
# Runs in session

An editor that a session was attached to from the start, and that only its user works on, is in
order between any two edits: the workspace is attended and the catalog is sound (`Reach.inOrder`).
Other editors may have the catalog make definitions meanwhile. All that happens to the canvas is a
run of steps (`Reach.steps`). Two things that users see follow:

* the output of a link is that of the other side of the document it holds, and unknown otherwise,
  and no document that fits a link is thrown out of it;
* an attribute getter offers the attributes of what it holds, or the placeholder.
-/

namespace TypedBlocks

open Canvas Definition

variable {ids : IdSupply} {p : Propagator}

/-- A collection with attributes has one to start with. -/
theorem Collection.exists_default (c : Collection) (hne : c.attributes ≠ []) :
    ∃ first, (c.defaultAttribute.bind fun id => c.attributes.find? (·.id = id)).or
      c.attributes.head? = some first ∧ c.defaultChoice = first.name := by
  rw [defaultChoice]
  cases c.defaultAttribute.bind fun id => c.attributes.find? (·.id = id) with
  | some preferred => exact ⟨preferred, rfl, rfl⟩
  | none =>
    obtain ⟨first, rest, hfirst⟩ := List.exists_cons_of_ne_nil hne
    rw [hfirst]
    exact ⟨first, rfl, rfl⟩

/-- Nothing is on an empty canvas that could be out of order. -/
theorem Canvas.settled_empty (ids : IdSupply) (domain : Domain) :
    Settled ids domain none Canvas.empty where
  coherent := .empty
  formed _ _ hf := by cases hf
  oriented _ _ _ _ _ hf := by cases hf
  listed _ _ _ hf := by cases hf

namespace Workspace

/-- Attaching a session to an empty workspace. -/
theorem attended_attach (ids : IdSupply) (workspace : String) (p : Propagator) :
    Attended ids p (Session.attach ids (empty workspace) p).2 := by
  obtain ⟨hblocks, hdrawn⟩ := Session.attach_blocks ids (empty workspace) p
  refine ⟨(settled_empty ids p.domain).of_blocks hblocks hdrawn, ⟨_, rfl⟩, ?_⟩
  intro name category h
  simp only [Session.attach, addListener, registerCategory, empty, Table.get?_put,
    Table.get?_empty] at h
  split at h
  · exact .inr (Option.some.inj h).symm
  · split at h
    · exact .inl (Option.some.inj h).symm
    · cases h

end Workspace

namespace Editor

variable {e : Editor}

theorem perform_connect (ids : IdSupply) (e : Editor) (child parent input : String) :
    e.perform ids (.connect child parent input) =
      ({ e with workspace := (e.workspace.connect ids child parent input).1 },
        (e.workspace.connect ids child parent input).2) := rfl

/-! ## In order between edits -/

/-- The workspace is attended, and the catalog is sound: the invariant of an editor in session. -/
structure InOrder (ids : IdSupply) (p : Propagator) (e : Editor) : Prop where
  attended : Workspace.Attended ids p e.workspace
  sound : e.catalog.Sound

namespace InOrder

/-- **Every edit leaves the editor in order**, whether or not it succeeds. An edit that makes no
connection leaves nothing to settle; connecting and unplugging settle what they bring about. -/
theorem perform (hids : Function.Injective ids) (h : InOrder ids p e) (edit : Edit) :
    InOrder ids p (e.perform ids edit).1 := by
  rcases e.perform_cases ids edit with he | ⟨_, _, _, _, hc, he⟩ | ⟨name, category, hcategory, he⟩ |
    ⟨child, parent, input, he⟩ | ⟨block, he⟩
  · rw [he]
    exact h
  · rw [he]
    exact ⟨⟨h.attended.settled.create hids (fun _ => h.sound.definition?) hc,
      h.attended.session.listeners, h.attended.session.categories⟩, h.sound⟩
  · rw [he]
    refine ⟨⟨h.attended.settled, h.attended.session.listeners, h.attended.session.categories⟩, ?_⟩
    -- the categories are those of the session, which ask the catalog for what they list
    rcases h.attended.session.categories name category hcategory with rfl | rfl
    · exact h.sound.variableListing p e.workspace.canvas.vars
    · exact h.sound.linkListing p
  · rw [he]
    exact ⟨h.attended.connect child parent input, h.sound⟩
  · rw [he]
    exact ⟨h.attended.unplug block, h.sound⟩

theorem act (hids : Function.Injective ids) (h : InOrder ids p e) {a : Act} (ha : a.ByUser) :
    InOrder ids p (e.act ids a) := by
  cases a with
  | edit edit => exact h.perform hids edit
  | askGetter domain id => exact ⟨h.attended, h.sound.afterAsking fun _ => h.sound.getter⟩
  | askLink domain l => exact ⟨h.attended, h.sound.afterAsking fun _ => h.sound.link⟩
  | _ => cases ha

/-- **Every edit is a run of steps**, whether or not it succeeds. So what each step keeps is kept by
edits. -/
theorem perform_steps (h : InOrder ids p e) (edit : Edit) :
    Steps ids p e.workspace.canvas (e.perform ids edit).1.workspace.canvas := by
  rcases e.perform_cases ids edit with he | ⟨_, _, _, _, hc, he⟩ | ⟨_, _, -, he⟩ |
    ⟨child, parent, input, he⟩ | ⟨block, he⟩
  · rw [he]
  · rw [he]
    exact .single (.make h.attended.settled h.sound hc)
  · rw [he]
    exact .refl
  · rw [he]
    exact h.attended.connect_steps child parent input
  · rw [he]
    exact (h.attended.unplug_pulls block).steps

theorem act_steps (h : InOrder ids p e) {a : Act} (ha : a.ByUser) :
    Steps ids p e.workspace.canvas (e.act ids a).workspace.canvas := by
  cases a with
  | edit edit => exact h.perform_steps edit
  | askGetter domain id => exact .refl
  | askLink domain l => exact .refl
  | _ => cases ha

end InOrder

/-- **Users find everything in order**, whatever they have done before, if a session has been
attached from the start. -/
theorem Reach.inOrder (hids : Function.Injective ids) {workspace : String} {settings : Settings}
    (h : Reach ids (startWith ids workspace settings p) Act.ByUser e) : InOrder ids p e := by
  induction h with
  | start => exact ⟨Workspace.attended_attach ids workspace p, Catalog.sound_initial _⟩
  | act a _ ha ih => exact ih.act hids ha

/-- **All that users do is a run of steps** on the canvas that the session started out with. -/
theorem Reach.steps (hids : Function.Injective ids) {workspace : String} {settings : Settings}
    (h : Reach ids (startWith ids workspace settings p) Act.ByUser e) :
    Steps ids p (startWith ids workspace settings p).workspace.canvas e.workspace.canvas := by
  induction h with
  | start => exact .refl
  | act a hreach ha ih => exact ih.trans ((hreach.inOrder hids).act_steps ha)

/-! ## Links -/

/-- **A link leads from the document that it holds to the other side.** Let a session be attached
from the start, and let users do what they like. If a link holds a document, that is of one of its
two collections, and the link puts out documents of the other; if it holds nothing or something
else, its output is unknown. And a document that fits a link can be plugged into it, and stays
there: nothing that fits is thrown out. -/
theorem link_leads_across (hids : Function.Injective ids) {workspace : String}
    {settings : Settings}
    (h : Reach ids (startWith ids workspace settings p) Act.ByUser e) :
    (∀ link b first second, e.workspace.canvas.block? link = some b →
      Tag.ofText b.type = .link first second →
      (∀ child collection, e.workspace.canvas.target? link linkInput = some child →
        e.workspace.canvas.tag child = .document collection →
          (collection = first ∨ collection = second) ∧
          b.outputCheck =
            some [(Tag.documentArray (if collection = first then second else first)).text]) ∧
      ((∀ child collection, e.workspace.canvas.target? link linkInput = some child →
        e.workspace.canvas.tag child ≠ .document collection) →
          b.outputCheck = some [Tag.unknown.text])) ∧
    (∀ child parent b input collection, e.workspace.canvas.block? parent = some b →
      Tag.isLinkType b.type = true → e.workspace.canvas.tag child = .document collection →
      Workspace.Fits e.workspace.canvas child parent input →
        (e.perform ids (.connect child parent input)).2 = .ok () ∧
        (e.perform ids (.connect child parent input)).1.workspace.canvas.target? parent input =
          some child) := by
  have hsettled := (h.inOrder hids).attended.settled
  constructor
  · intro link b first second hb htype
    have hf := frame?_of_block? hb
    have horiented := hsettled.oriented link b.frame first second (by simp) hf htype
    have hout : e.workspace.canvas.output? link = some (b.hasOutput, b.outputCheck) := by
      rw [output?, hb, Option.map_some]
    constructor
    · intro child collection ht hdoc
      obtain ⟨other, hother, ho⟩ := horiented.output_of_document ht hdoc
      obtain ⟨hside, rfl⟩ := Tag.across?_link_eq_some_iff.mp hother
      rw [hout, Option.some.injEq, Prod.mk.injEq] at ho
      exact ⟨hside, ho.2⟩
    · intro hnone
      have ho : e.workspace.canvas.output? link = some (true, some [Tag.unknown.text]) := by
        cases ht : e.workspace.canvas.target? link linkInput with
        | none => exact horiented.output_of_empty ht
        | some child =>
          refine horiented.output_of_plain ht ?_
          cases htag : e.workspace.canvas.tag child with
          | document collection => exact absurd htag (hnone child collection ht)
          | _ => rfl
      rw [hout, Option.some.injEq, Prod.mk.injEq] at ho
      exact ho.2
  · intro child parent b input collection hb hlink hdoc hfits
    rw [perform_connect]
    exact (h.inOrder hids).attended.connect_link hfits (frame?_of_block? hb) hlink hdoc

/-- The link of the loaded harbour leads from its ship to ports, and takes the ship again. -/
theorem link_leads_across_loaded :
    (harbourLoaded.workspace.canvas.block? "||||").map (·.outputCheck) =
      some (some [(Tag.documentArray "port").text]) ∧
    (harbourLoaded.perform strokes (.connect "|||" "||||" linkInput)).2 = .ok () := by
  obtain ⟨b, hb, htype⟩ : ∃ b, harbourLoaded.workspace.canvas.block? "||||" = some b ∧
      b.type = "port_ship_link" := Option.map_eq_some_iff.mp (by decide +kernel)
  have hread : Tag.ofText b.type = .link "port" "ship" := by
    rw [htype]
    decide +kernel
  have hdoc : harbourLoaded.workspace.canvas.tag "|||" = .document "ship" := by decide +kernel
  have hfits : Workspace.Fits harbourLoaded.workspace.canvas "|||" "||||" linkInput :=
    (Workspace.approve_eq_ok_iff.mp (by decide +kernel : Workspace.approve
      harbourLoaded.workspace.canvas "|||" "||||" linkInput = .ok (some "|||"))).1
  obtain ⟨hlinks, hstays⟩ := link_leads_across strokes_injective reach_harbourLoaded
  obtain ⟨-, hcheck⟩ := (hlinks "||||" b "port" "ship" hb hread).1 "|||" "ship"
    (by decide +kernel) hdoc
  refine ⟨?_, (hstays "|||" "||||" b linkInput "ship" hb ?_ hdoc hfits).1⟩
  · rw [hb, Option.map_some, hcheck, if_neg (by decide)]
  · exact Tag.isLinkType_iff.mpr ⟨_, _, hread⟩

/-! ## Attribute getters -/

/-- **A dropdown is never out of date.** Let a session be attached from the start, and let users do
what they like. An attribute getter offers the attributes of the documents that it holds, in their
order, and starts with the default one, or it shows the placeholder. If it holds nothing, it shows
the placeholder. -/
theorem dropdown_current (hids : Function.Injective ids) {workspace : String}
    {settings : Settings}
    (h : Reach ids (startWith ids workspace settings p) Act.ByUser e) {getter : String} {b : Block}
    (hb : e.workspace.canvas.block? getter = some b) (ht : b.type = getAttributeType) :
    ∃ field, b.fields.get? attributeField = some field ∧
      ((field.choices = [{ label := "?", value := "?" }] ∧ field.value = "N/A") ∨
        ∃ child collection found first,
          e.workspace.canvas.target? getter documentInput = some child ∧
          (e.workspace.canvas.tag child = .document collection ∨
            e.workspace.canvas.tag child = .documentArray collection) ∧
          p.domain.collection? collection = .ok found ∧ found.attributes ≠ [] ∧
          field.choices = found.attributes.map (fun a => { label := a.name, value := a.id }) ∧
          (found.defaultAttribute.bind fun id => found.attributes.find? (·.id = id)).or
            found.attributes.head? = some first ∧
          field.value = first.name) ∧
      (e.workspace.canvas.target? getter documentInput = none →
        field.choices = [{ label := "?", value := "?" }] ∧ field.value = "N/A") := by
  have hlisted := (h.inOrder hids).attended.settled.listed getter b.frame (by simp)
    (frame?_of_block? hb) ht
  have hfield : e.workspace.canvas.field? getter attributeField = b.fields.get? attributeField := by
    rw [field?_eq_bind, hb, Option.bind_some]
  rw [Listed, hfield] at hlisted
  rcases hlisted with hreset | ⟨child, collection, found, hheld, hcollection, hfound, hsome, hget⟩
  · exact ⟨_, hreset, .inl ⟨rfl, rfl⟩, fun _ => ⟨rfl, rfl⟩⟩
  · have hne : found.attributes ≠ [] := by
      intro hnil
      rw [Collection.choices, hnil] at hsome
      cases hsome
    obtain ⟨first, hfirst, hvalue⟩ := found.exists_default hne
    refine ⟨_, hget, .inr ⟨child, collection, found, first, hheld, ?_, hfound, hne, rfl, hfirst,
      hvalue⟩, fun hnone => ?_⟩
    · cases htag : e.workspace.canvas.tag child with
      | document id =>
        rw [htag] at hcollection
        exact .inl (congrArg Tag.document (Option.some.inj hcollection))
      | documentArray id =>
        rw [htag] at hcollection
        exact .inr (congrArg Tag.documentArray (Option.some.inj hcollection))
      | _ =>
        rw [htag] at hcollection
        cases hcollection
    · rw [hnone] at hheld
      cases hheld

/-- The attribute getter of the loaded harbour holds ports, and offers their depth. -/
theorem dropdown_current_loaded :
    ∃ (child collection : String) (found : Collection) (first : Attribute),
      harbourLoaded.workspace.canvas.target? "|||||" documentInput = some child ∧
      (harbourLoaded.workspace.canvas.tag child = .document collection ∨
        harbourLoaded.workspace.canvas.tag child = .documentArray collection) ∧
      Domain.harbour.collection? collection = .ok found ∧ found.attributes ≠ [] ∧
      harbourLoaded.workspace.canvas.field? "|||||" attributeField =
        some ⟨first.name, found.choices⟩ := by
  obtain ⟨b, hb, htype⟩ : ∃ b, harbourLoaded.workspace.canvas.block? "|||||" = some b ∧
      b.type = getAttributeType := Option.map_eq_some_iff.mp (by decide +kernel)
  have hfield : harbourLoaded.workspace.canvas.field? "|||||" attributeField =
      some ⟨"Depth", [{ label := "Depth", value := "depth" }]⟩ := by decide +kernel
  obtain ⟨field, hget, hcases, -⟩ :=
    dropdown_current strokes_injective reach_harbourLoaded hb htype
  rw [field?_eq_bind, hb, Option.bind_some, hget, Option.some.injEq] at hfield
  rcases hcases with ⟨-, hvalue⟩ | ⟨child, collection, found, first, hheld, htag, hfound, hne,
    hchoices, -, hvalue⟩
  · rw [hfield] at hvalue
    exact absurd hvalue (by decide)
  · refine ⟨child, collection, found, first, hheld, htag, hfound, hne, ?_⟩
    rw [field?_eq_bind, hb, Option.bind_some, hget, Option.some.injEq]
    obtain ⟨value, choices⟩ := field
    exact congrArg₂ Field.mk hvalue hchoices

end Editor

end TypedBlocks
