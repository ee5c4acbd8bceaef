import Mathlib.Data.List.Nodup
import Mathlib.Data.List.Zip
import TypedBlocks.Proofs.Run.Wiring
import TypedBlocks.Proofs.Workspace.Recording

/-!
# The journal of a user's edits

Listeners who only record hear what the user does. `Editor.reports` says for every edit which
events that is, and one that fails is not heard of at all. The events tell all there is to know
about who is plugged into what: replayed from the start, they give the parents of all blocks.
`Recorded` says so of a single edit and `Journaled` of a run; `Journaled.recorded` makes the second
out of the first.
-/

namespace TypedBlocks

open Canvas Workspace

variable {ids : IdSupply}

/-- A new block is plugged in nowhere, and nothing else is plugged in elsewhere. The id of the block
is new, so no plug can name it. -/
theorem Canvas.Coherent.holder?_create {c c' : Canvas} (h : Coherent ids c)
    (hids : Function.Injective ids) {catalog : Catalog} {blockType id : String}
    {preset : Option String} (hc : c.create ids catalog blockType preset = .ok (id, c'))
    (block : String) : c'.holder? block = c.holder? block := by
  obtain ⟨d, -, rfl, rfl⟩ := create_eq_ok hc
  obtain ⟨-, hblocks, hnew, -⟩ := h.build_next hids d preset
  exact holder?_congr ((plug?_add hnew (build_blank d preset) block).trans
    (plug?_of_blocks hblocks block))

namespace Editor

variable {e e' : Editor}

/-- What an edit reports if it succeeds: one event for each connection that it makes or undoes, in
order, and nothing for blocks that are made. -/
def reports (e : Editor) : Edit → List Event
  | .connect child parent input => e.workspace.connectReport child parent input
  | .unplug block => e.workspace.departure block
  | .create .. => []
  | .take _ => []
  | .openCategory _ => []

/-- All listeners have heard of the events that lead from one editor to another, and the events
account for the change. -/
structure Recorded (e : Editor) (events : List Event) (e' : Editor) : Prop where
  listeners : e'.workspace.listeners = e.workspace.listeners
  heard : ∀ l ∈ e.workspace.listeners,
    e'.workspace.heard l.1 = e.workspace.heard l.1 ++ events
  account : Event.Account e.workspace.canvas.holder? events e'.workspace.canvas.holder?

/-- Nobody is plugged in or pulled out, and nobody hears of anything. -/
theorem Recorded.nothing (hlisteners : e'.workspace.listeners = e.workspace.listeners)
    (hheard : ∀ listener, e'.workspace.heard listener = e.workspace.heard listener)
    (hholder : ∀ block, e'.workspace.canvas.holder? block = e.workspace.canvas.holder? block) :
    Recorded e [] e' where
  listeners := hlisteners
  heard l _ := by rw [hheard, List.append_nil]
  account := (Event.Account.nil _).congr hholder

theorem Recorded.announced (hdistinct : (e.workspace.listeners.map Prod.fst).Nodup)
    {canvas : Canvas} {events : List Event}
    (haccount : Event.Account e.workspace.canvas.holder? events canvas.holder?) :
    Recorded e events
      { e with workspace := ({ e.workspace with canvas } : Workspace).announce events } where
  listeners := rfl
  heard _ hl := heard_announce (w := { e.workspace with canvas }) hdistinct hl events
  account := haccount

/-! ## Edits -/

theorem create_recorded (hids : Function.Injective ids) (hc : Coherent ids e.workspace.canvas)
    (blockType : String) (preset : Option String) :
    (∃ fault, e.perform ids (.create blockType preset) = (e, .error fault)) ∨
    ∃ e', e.perform ids (.create blockType preset) = (e', .ok ()) ∧ Recorded e [] e' := by
  simp only [perform, create, Workspace.create]
  cases hmade : e.workspace.canvas.create ids e.catalog blockType preset with
  | error fault => exact .inl ⟨fault, rfl⟩
  | ok made =>
    refine .inr ⟨_, rfl, .nothing rfl (fun _ => rfl) ?_⟩
    exact hc.holder?_create hids hmade

section Passive

variable (hpassive : e.workspace.Passive)
  (hdistinct : (e.workspace.listeners.map Prod.fst).Nodup)

include hpassive hdistinct

theorem connect_recorded (hw : Wired e.workspace.canvas) (child parent input : String) :
    (∃ fault, e.perform ids (.connect child parent input) = (e, .error fault)) ∨
    ∃ e', e.perform ids (.connect child parent input) = (e', .ok ()) ∧
      Recorded e (e.workspace.connectReport child parent input) e' := by
  simp only [perform, connect]
  by_cases hfits : Fits e.workspace.canvas child parent input
  · obtain ⟨canvas, he, hholder⟩ := connect_of_passive ids hpassive hw hfits
    rw [he]
    exact .inr ⟨_, rfl, .announced hdistinct (account_connectReport hw hholder)⟩
  · rcases connect_cases ids e.workspace child parent input with
      ⟨fault, -, he⟩ | ⟨hfits', -⟩
    · rw [he]
      exact .inl ⟨fault, rfl⟩
    · exact absurd hfits' hfits

theorem unplug_recorded (block : String) :
    (∃ fault, e.perform ids (.unplug block) = (e, .error fault)) ∨
    ∃ e', e.perform ids (.unplug block) = (e', .ok ()) ∧
      Recorded e (e.workspace.departure block) e' := by
  simp only [perform, unplug]
  cases hp : e.workspace.canvas.plug? block with
  | none =>
    obtain ⟨hsame, fault, hfault⟩ := unplug_of_plug?_eq_none ids hp
    refine .inl ⟨fault, ?_⟩
    rw [hsame, hfault]
  | some plug =>
    have hreport : e.workspace.departure block =
        [.disconnect e.workspace.id block plug.block] := by simp [departure, holder?, hp]
    have haccount := e.workspace.account_departure block
    rw [hreport] at haccount
    rw [unplug_of_passive hpassive hp, hreport]
    refine .inr ⟨_, rfl, .announced hdistinct (haccount.congr fun other => ?_)⟩
    rw [holder?, plug?_detach, Function.update_apply]
    split <;> rfl

/-- **What an edit comes to** where listeners are passive: it fails and changes nothing, or it is
recorded. -/
theorem perform_recorded (hids : Function.Injective ids) (hc : Coherent ids e.workspace.canvas)
    (edit : Edit) :
    (∃ fault, e.perform ids edit = (e, .error fault)) ∨
    ∃ e', e.perform ids edit = (e', .ok ()) ∧ Recorded e (e.reports edit) e' := by
  cases edit with
  | create blockType preset => exact create_recorded hids hc blockType preset
  | take item =>
    cases item with
    | separator gap => exact .inr ⟨e, rfl, .nothing rfl (fun _ => rfl) fun _ => rfl⟩
    | block blockType preset =>
      have hreports : e.reports (.take (.block blockType preset)) = [] := rfl
      rw [perform_take, hreports]
      exact create_recorded hids hc blockType _
  | openCategory name =>
    simp only [perform, openCategory, Workspace.openCategory]
    cases e.workspace.categories.get? name with
    | none => exact .inr ⟨e, rfl, .nothing rfl (fun _ => rfl) fun _ => rfl⟩
    | some category =>
      refine .inr ⟨_, rfl, .nothing rfl (fun listener => ?_) fun _ => rfl⟩
      rw [heard_record]
      simp [heardBy]
  | connect child parent input =>
    exact connect_recorded hpassive hdistinct hc.wired child parent input
  | unplug block => exact unplug_recorded hpassive hdistinct block

end Passive

/-! ## Runs -/

/-- An editor with an empty workspace that listeners were added to before anything else. -/
def startBefore (ids : IdSupply) (workspace : String) (settings : Settings)
    (listeners : List Listener) : Editor :=
  (listeners.map Act.listen).foldl (act ids) (start workspace settings)

/-- Listeners are added in order, each under the next id, and that is all. -/
theorem listen_all (ids : IdSupply) (listeners : List Listener) (e : Editor) :
    ((listeners.map Act.listen).foldl (act ids) e).workspace.listeners =
      e.workspace.listeners ++
        ((List.range' e.workspace.canvas.drawn listeners.length).map ids).zip listeners ∧
    ((listeners.map Act.listen).foldl (act ids) e).workspace.journal = e.workspace.journal ∧
    ((listeners.map Act.listen).foldl (act ids) e).workspace.canvas.blocks =
      e.workspace.canvas.blocks := by
  induction listeners generalizing e with
  | nil => simp
  | cons listener listeners ih =>
    obtain ⟨hlisteners, hjournal, hblocks⟩ := ih (e.act ids (.listen listener))
    refine ⟨?_, hjournal, hblocks⟩
    rw [List.map_cons, List.foldl_cons, hlisteners]
    simp [act, addListener, draw, List.range'_succ]

/-- What every listener has heard so far accounts for who is plugged into what. -/
structure Journaled (listeners : List Listener) (e : Editor) : Prop where
  audience : e.workspace.listeners.map Prod.snd = listeners
  distinct : (e.workspace.listeners.map Prod.fst).Nodup
  account : ∀ l ∈ e.workspace.listeners,
    Event.Account (fun _ => none) (e.workspace.heard l.1) e.workspace.canvas.holder?

namespace Journaled

variable {listeners : List Listener}

theorem startBefore (hids : Function.Injective ids) (workspace : String) (settings : Settings)
    (listeners : List Listener) :
    Journaled listeners (startBefore ids workspace settings listeners) := by
  obtain ⟨hlisteners, hjournal, hblocks⟩ := listen_all ids listeners (start workspace settings)
  rw [← Editor.startBefore] at hlisteners hjournal hblocks
  have hempty : (start workspace settings).workspace.listeners = [] := rfl
  rw [hempty, List.nil_append] at hlisteners
  refine ⟨?_, ?_, fun l _ => ?_⟩
  · rw [hlisteners, List.map_snd_zip (by simp)]
  · rw [hlisteners, List.map_fst_zip (by simp)]
    exact (List.nodup_range' 1).map hids
  · rw [heard, hjournal]
    exact (Event.Account.nil _).congr fun block => holder?_congr (plug?_of_blocks hblocks block)

/-- **What is recorded is journaled.** The events are told to every listener in the order in which
they were recorded, and the account of the holders goes on from where it was. -/
theorem recorded (h : Journaled listeners e) {events : List Event} (hr : Recorded e events e') :
    Journaled listeners e' where
  audience := by rw [hr.listeners, h.audience]
  distinct := by rw [hr.listeners]; exact h.distinct
  account := by
    intro l hl
    rw [hr.listeners] at hl
    rw [hr.heard l hl]
    exact (h.account l hl).append hr.account

theorem passive (h : Journaled listeners e)
    (hpassive : ∀ listener ∈ listeners, ∀ event, (listener event).Passive) :
    e.workspace.Passive := by
  intro l hl
  rw [← h.audience] at hpassive
  exact hpassive l.2 (List.mem_map_of_mem hl)

/-- What users do is journaled if listeners are passive. -/
theorem act (h : Journaled listeners e) (hids : Function.Injective ids)
    (hpassive : ∀ listener ∈ listeners, ∀ event, (listener event).Passive)
    (hc : Coherent ids e.workspace.canvas) {a : Act} (ha : a.ByUser) :
    Journaled listeners (e.act ids a) := by
  cases a with
  | edit edit =>
    rw [Editor.act]
    rcases perform_recorded (h.passive hpassive) h.distinct hids hc edit with
      ⟨fault, he⟩ | ⟨e', he, hr⟩
    · rwa [he]
    · rw [he]
      exact h.recorded hr
  | askGetter domain id => exact ⟨h.audience, h.distinct, h.account⟩
  | askLink domain l => exact ⟨h.audience, h.distinct, h.account⟩
  | _ => cases ha

end Journaled

theorem Reach.coherent_of_startBefore (hids : Function.Injective ids) {workspace : String}
    {settings : Settings} {listeners : List Listener} {allowed : Act → Prop}
    (h : Reach ids (startBefore ids workspace settings listeners) allowed e) :
    Coherent ids e.workspace.canvas := by
  have hstart : Reach ids (Editor.start workspace settings) (fun _ => True)
      (startBefore ids workspace settings listeners) := Reach.run _ fun _ _ => trivial
  exact h.coherent hids (hstart.coherent hids .empty)

theorem Reach.journaled (hids : Function.Injective ids) {workspace : String} {settings : Settings}
    {listeners : List Listener}
    (hpassive : ∀ listener ∈ listeners, ∀ event, (listener event).Passive)
    (h : Reach ids (startBefore ids workspace settings listeners) Act.ByUser e) :
    Journaled listeners e := by
  induction h with
  | start => exact .startBefore hids workspace settings listeners
  | act a h ha ih => exact ih.act hids hpassive (h.coherent_of_startBefore hids) ha

/-- **The events are a faithful journal** of what a user does, for listeners who only record. An
edit that fails changes nothing, so nobody hears of it. Of one that succeeds all listeners hear just
what it reports: a connection is heard of after the block has left where it was, if it was anywhere,
and after another block has left the input, if there was one. And all they have heard, replayed from
the start, tells the parents of all blocks; where a block was pulled out of a parent, it was there.
-/
theorem journal_faithful (hids : Function.Injective ids) {workspace : String} {settings : Settings}
    {listeners : List Listener}
    (hpassive : ∀ listener ∈ listeners, ∀ event, (listener event).Passive)
    (h : Reach ids (startBefore ids workspace settings listeners) Act.ByUser e) :
    e.workspace.listeners.map Prod.snd = listeners ∧
    (∀ edit fault, (e.perform ids edit).2 = .error fault → (e.perform ids edit).1 = e) ∧
    ∀ l ∈ e.workspace.listeners,
      (∀ edit, (e.perform ids edit).2 = .ok () →
        (e.perform ids edit).1.workspace.heard l.1 =
          e.workspace.heard l.1 ++ e.reports edit) ∧
      Event.Account (fun _ => none) (e.workspace.heard l.1) e.workspace.canvas.holder? := by
  have hj := h.journaled hids hpassive
  have hedit := perform_recorded (hj.passive hpassive) hj.distinct hids
    (h.coherent_of_startBefore hids)
  refine ⟨hj.audience, fun edit fault hfault => ?_, fun l hl => ⟨fun edit hok => ?_,
    hj.account l hl⟩⟩
  · rcases hedit edit with ⟨_, he⟩ | ⟨e', he, -⟩
    · rw [he]
    · rw [he] at hfault
      cases hfault
  · rcases hedit edit with ⟨fault, he⟩ | ⟨e', he, hr⟩
    · rw [he] at hok
      cases hok
    · rw [he]
      exact hr.heard l hl

/-- Three attribute getters. The first is plugged into the second, the third takes its place, and
moves on into the first. -/
theorem journal_faithful_replacing :
    let e := [.edit (.create Definition.getAttributeType none),
      .edit (.create Definition.getAttributeType none),
      .edit (.create Definition.getAttributeType none),
      .edit (.connect "||" "|||" Definition.documentInput),
      .edit (.connect "||||" "|||" Definition.documentInput),
      .edit (.connect "||||" "||" Definition.documentInput)].foldl (act strokes)
        (startBefore strokes "harbour" {} [fun _ => .done])
    e.workspace.heard "|" =
      [.connect "harbour" "||" "|||", .disconnect "harbour" "||" "|||",
        .connect "harbour" "||||" "|||", .disconnect "harbour" "||||" "|||",
        .connect "harbour" "||||" "||"] ∧
    Event.Account (fun _ => none) (e.workspace.heard "|") e.workspace.canvas.holder? := by
  intro e
  have hreach : Reach strokes (startBefore strokes "harbour" {} [fun _ => .done]) Act.ByUser e :=
    Reach.run _ (by simp [Act.ByUser])
  obtain ⟨l, hl, hid⟩ : ∃ l ∈ e.workspace.listeners, l.1 = "|" :=
    List.mem_map.mp (by decide +kernel)
  obtain ⟨-, -, hjournal⟩ := journal_faithful strokes_injective (by simp [Reaction.Passive.done])
    hreach
  rw [← hid]
  exact ⟨by rw [hid]; decide +kernel, (hjournal l hl).2⟩

end Editor

end TypedBlocks
