import Mathlib.Data.List.Nodup
import TypedBlocks.Proofs.Run.Wiring

/-!
# Workspaces that sessions share

Any number of sessions can be attached to one workspace. Their listeners are told apart by id, so
each is there as long as its session is attached, in the order of attachment. The two toolbox
categories are told apart by name only. Whoever attaches last has them, and whoever detaches removes
them, whosever they are: they are there just if a session was attached and none was detached since.
Sessions that were attached before and still are go without categories then. `Editor.Sharing` is the
invariant that says so, with one lemma for each of the three kinds of acts.
-/

namespace TypedBlocks

open Canvas

variable {ids : IdSupply}

namespace Workspace

variable {w w' w'' : Workspace} {child parent input : String}

/-! ## What leaves the audience alone -/

/-- All listeners are those of sessions. -/
def OfSessions (w : Workspace) : Prop :=
  ∀ l ∈ w.listeners, ∃ p, l.2 = Session.listenerOf p

/-- The same workspace with the same audience; some ids may have been drawn. Edits and reports leave
it at that, where only sessions listen. -/
structure SameAudience (w w' : Workspace) : Prop where
  id : w'.id = w.id
  listeners : w'.listeners = w.listeners
  categories : w'.categories = w.categories
  drawn : w.canvas.drawn ≤ w'.canvas.drawn

theorem SameAudience.refl (w : Workspace) : SameAudience w w := ⟨rfl, rfl, rfl, Nat.le_refl _⟩

theorem SameAudience.trans (h : SameAudience w w') (h' : SameAudience w' w'') :
    SameAudience w w'' :=
  ⟨h'.id.trans h.id, h'.listeners.trans h.listeners, h'.categories.trans h.categories,
    Nat.le_trans h.drawn h'.drawn⟩

theorem SameAudience.of_canvas (w : Workspace) (c : Canvas) (h : w.canvas.drawn ≤ c.drawn) :
    SameAudience w { w with canvas := c } := ⟨rfl, rfl, rfl, h⟩

theorem OfSessions.congr (h : OfSessions w) (hs : SameAudience w w') : OfSessions w' :=
  fun l hl => h l (hs.listeners ▸ hl)

/-- Sessions amend the canvas when they are told of an event, and touch nothing else. -/
theorem report_audience (ids : IdSupply) (h : OfSessions w) (event : Event) :
    SameAudience w (report ids w event) := by
  have hfold : ∀ (listeners : List (String × Listener)) (w : Workspace),
      (∀ l ∈ listeners, ∃ p, l.2 = Session.listenerOf p) →
      (listeners.foldl (tell ids event) w).id = w.id ∧
        (listeners.foldl (tell ids event) w).listeners = w.listeners ∧
        (listeners.foldl (tell ids event) w).categories = w.categories := by
    intro listeners
    induction listeners with
    | nil => exact fun _ _ => ⟨rfl, rfl, rfl⟩
    | cons l listeners ih =>
      intro w hl
      rw [List.forall_mem_cons] at hl
      obtain ⟨⟨p, hp⟩, hl⟩ := hl
      obtain ⟨hid, hlisteners, hcategories⟩ := ih (tell ids event w l) hl
      have htell : (tell ids event w l).id = w.id ∧ (tell ids event w l).listeners = w.listeners ∧
          (tell ids event w l).categories = w.categories := by
        rw [tell, hp]
        exact ⟨rfl, rfl, rfl⟩
      exact ⟨hid.trans htell.1, hlisteners.trans htell.2.1, hcategories.trans htell.2.2⟩
  have hreport : Amended ids w.canvas _ := report_amended w event
  obtain ⟨hid, hlisteners, hcategories⟩ := hfold w.listeners { w with listeners := [] } h
  refine ⟨hid, ?_, hcategories, hreport.pruned.drawn⟩
  rw [report]
  dsimp only
  rw [hlisteners, List.append_nil]

/-- Reporting goes on leaving the audience alone where nothing has changed it. -/
theorem SameAudience.report (h : OfSessions w) (hs : SameAudience w w') (event : Event) :
    SameAudience w (report ids w' event) :=
  hs.trans (report_audience ids (h.congr hs) event)

/-- Neither does a change of the canvas that draws no id. -/
theorem SameAudience.redrawn (hs : SameAudience w w') (c : Canvas) (h : c.drawn = w'.canvas.drawn) :
    SameAudience w { w' with canvas := c } :=
  hs.trans (.of_canvas w' c (Nat.le_of_eq h.symm))

theorem unplug_audience (ids : IdSupply) (h : OfSessions w) (child : String) :
    SameAudience w (w.unplug ids child).1 :=
  unplug_keeps (P := SameAudience w) (fun _ event hs => hs.report h event)
    (fun _ _ _ hs => hs.redrawn _ rfl) (.refl w) child

theorem connect_audience (ids : IdSupply) (h : OfSessions w) (child parent input : String) :
    SameAudience w (w.connect ids child parent input).1 :=
  connect_keeps (P := SameAudience w) (fun _ event hs => hs.report h event)
    (fun _ _ _ hs => hs.redrawn _ rfl) (fun _ _ _ _ hs => hs.redrawn _ rfl) (.refl w) child parent
    input

end Workspace

namespace Editor

open Workspace

variable {e : Editor}

/-- **Users leave the audience alone**, and so do other editors. Listeners and categories are what
they were. -/
theorem act_audience (ids : IdSupply) (h : OfSessions e.workspace) {a : Act} (ha : a.ByUser) :
    SameAudience e.workspace (e.act ids a).workspace := by
  cases a with
  | edit edit =>
    rcases e.perform_cases ids edit with he | ⟨_, preset, _, _, hmade, he⟩ | ⟨_, _, -, he⟩ |
      ⟨child, parent, input, he⟩ | ⟨block, he⟩
    · rw [act, he]
      exact .refl _
    · rw [act, he]
      obtain ⟨d, -, rfl, rfl⟩ := create_eq_ok hmade
      have hdrawn := (build_canvas ids (e.workspace.canvas.draw ids).2 d preset).2
      exact .of_canvas _ _ (Nat.le_trans (Nat.le_succ _) hdrawn)
    · rw [act, he]
      exact ⟨rfl, rfl, rfl, Nat.le_refl _⟩
    · rw [act, he]
      exact connect_audience ids h child parent input
    · rw [act, he]
      exact unplug_audience ids h block
  | askGetter domain id => exact .refl _
  | askLink domain l => exact .refl _
  | _ => cases ha

/-! ## Sessions that come and go -/

/-- The editors that a start leads to when users edit and sessions come and go, with the sessions
that are attached, in the order of attachment, and the propagator whose categories should be open:
the one that was attached last, if nothing was detached since. A session that was detached is gone
from the list, so that none is detached twice. -/
inductive Shared (ids : IdSupply) (start : Editor) :
    Editor → List Session → Option Propagator → Prop
  /-- nothing has happened -/
  | start : Shared ids start start [] none
  /-- a user has done something -/
  | edit {e : Editor} {live : List Session} {shown : Option Propagator} (a : Act)
      (h : Shared ids start e live shown) (ha : a.ByUser) :
      Shared ids start (e.act ids a) live shown
  /-- a session was attached -/
  | attach {e : Editor} {live : List Session} {shown : Option Propagator} (p : Propagator)
      (h : Shared ids start e live shown) :
      Shared ids start (e.act ids (.attach p)) (live ++ [(Session.attach ids e.workspace p).1])
        (some p)
  /-- an attached session was detached -/
  | detach {e : Editor} {earlier later : List Session} {shown : Option Propagator} (s : Session)
      (h : Shared ids start e (earlier ++ s :: later) shown) :
      Shared ids start (e.act ids (.detach s)) (earlier ++ later) none

/-- The audience of a workspace is that of the attached sessions: a listener for each, in the order
of attachment, under ids that differ, and the categories of the last. -/
structure Sharing (ids : IdSupply) (e : Editor) (live : List Session) (shown : Option Propagator) :
    Prop where
  /-- every session has its listener, and nobody else has one -/
  listeners : e.workspace.listeners =
    live.map fun s => (s.listener, Session.listenerOf s.propagator)
  /-- sessions were attached to this workspace -/
  home : ∀ s ∈ live, s.workspace = e.workspace.id
  /-- the ids of listeners were drawn -/
  drawn : ∀ s ∈ live, ∃ n, n < e.workspace.canvas.drawn ∧ ids n = s.listener
  /-- no two sessions listen under one id -/
  distinct : (live.map Session.listener).Nodup
  documentVariables : e.workspace.categories.get? Toolbox.documentVariablesName =
    shown.map Session.documentVariablesOf
  links : e.workspace.categories.get? Toolbox.linksName = shown.map Session.linksOf
  /-- what is shown is somebody's -/
  somebody : live = [] → shown = none

namespace Sharing

variable {live : List Session} {shown : Option Propagator}

theorem ofSessions (h : Sharing ids e live shown) : OfSessions e.workspace := by
  intro l hl
  rw [h.listeners] at hl
  obtain ⟨s, -, rfl⟩ := List.mem_map.mp hl
  exact ⟨s.propagator, rfl⟩

theorem start (ids : IdSupply) (workspace : String) (settings : Settings) :
    Sharing ids (Editor.start workspace settings) [] none where
  listeners := rfl
  home _ hs := by cases hs
  drawn _ hs := by cases hs
  distinct := List.nodup_nil
  documentVariables := rfl
  links := rfl
  somebody _ := rfl

theorem edit (h : Sharing ids e live shown) {a : Act} (ha : a.ByUser) :
    Sharing ids (e.act ids a) live shown := by
  have hsame := act_audience ids h.ofSessions ha
  refine ⟨hsame.listeners.trans h.listeners, fun s hs => (h.home s hs).trans hsame.id.symm,
    fun s hs => ?_, h.distinct, ?_, ?_, h.somebody⟩
  · obtain ⟨n, hn, he⟩ := h.drawn s hs
    exact ⟨n, Nat.lt_of_lt_of_le hn hsame.drawn, he⟩
  · rw [hsame.categories, h.documentVariables]
  · rw [hsame.categories, h.links]

/-- A session that is attached listens under a new id, and has both categories. -/
theorem attach (hids : Function.Injective ids) (h : Sharing ids e live shown) (p : Propagator) :
    Sharing ids (e.act ids (.attach p)) (live ++ [(Session.attach ids e.workspace p).1])
      (some p) := by
  let declared := p.domain.documentVariables.foldl (Session.declare ids) e.workspace.canvas
  have hid : (Session.attach ids e.workspace p).1.listener = ids declared.drawn := rfl
  have hcanvas : (e.act ids (.attach p)).workspace.canvas = (declared.draw ids).2 := rfl
  have hdrawn : e.workspace.canvas.drawn ≤ declared.drawn :=
    (Session.declare_blocks ids p.domain.documentVariables e.workspace.canvas).2
  refine ⟨?_, ?_, ?_, ?_, ?_, ?_, ?_⟩
  · rw [List.map_append, ← h.listeners]
    rfl
  · intro s hs
    rcases List.mem_append.mp hs with hs | hs
    · exact h.home s hs
    · rw [List.mem_singleton.mp hs]
      rfl
  · intro s hs
    rw [hcanvas]
    rcases List.mem_append.mp hs with hs | hs
    · obtain ⟨n, hn, he⟩ := h.drawn s hs
      exact ⟨n, Nat.lt_succ_of_lt (Nat.lt_of_lt_of_le hn hdrawn), he⟩
    · rw [List.mem_singleton.mp hs]
      exact ⟨declared.drawn, Nat.lt_succ_self _, hid.symm⟩
  · rw [List.map_append, List.nodup_append]
    refine ⟨h.distinct, List.nodup_singleton _, fun id hold new hnew he => ?_⟩
    obtain ⟨s, hs, rfl⟩ := List.mem_map.mp hold
    obtain ⟨n, hn, hs⟩ := h.drawn s hs
    rw [List.mem_singleton.mp hnew, hid, ← hs] at he
    exact absurd (hids he) (Nat.ne_of_lt (Nat.lt_of_lt_of_le hn hdrawn))
  · have hcategories : (e.act ids (.attach p)).workspace.categories =
        (e.workspace.categories.put Toolbox.documentVariablesName
          (Session.documentVariablesOf p)).put Toolbox.linksName (Session.linksOf p) := rfl
    rw [hcategories, Table.get?_put, if_neg (by decide), Table.get?_put, if_pos rfl]
    rfl
  · have hcategories : (e.act ids (.attach p)).workspace.categories =
        (e.workspace.categories.put Toolbox.documentVariablesName
          (Session.documentVariablesOf p)).put Toolbox.linksName (Session.linksOf p) := rfl
    rw [hcategories, Table.get?_put, if_pos rfl]
    rfl
  · intro hnil
    exact absurd hnil (List.append_ne_nil_of_right_ne_nil _ (List.cons_ne_nil _ _))

/-- A session that is detached takes its own listener along, and both categories, whosever they
are. -/
theorem detach {earlier later : List Session} {s : Session}
    (h : Sharing ids e (earlier ++ s :: later) shown) :
    Sharing ids (e.act ids (.detach s)) (earlier ++ later) none := by
  have hhome : s.workspace = e.workspace.id := h.home s (by simp)
  have hworkspace : (e.act ids (.detach s)).workspace = { e.workspace with
      listeners := e.workspace.listeners.filter (·.1 ≠ s.listener)
      categories := (e.workspace.categories.erase Toolbox.documentVariablesName).erase
        Toolbox.linksName } := by
    rw [act, Session.detach, if_neg (by simp [hhome])]
    rfl
  have hmem : ∀ other ∈ earlier ++ later, other ∈ earlier ++ s :: later := fun other ho =>
    List.mem_append.mpr ((List.mem_append.mp ho).imp_right (List.mem_cons_of_mem s))
  have hdistinct := h.distinct
  rw [List.map_append, List.map_cons, List.nodup_middle, List.nodup_cons, ← List.map_append]
    at hdistinct
  -- of the attached sessions only this one listens under its id
  have hother : ∀ other ∈ earlier ++ later, other.listener ≠ s.listener := fun other ho he =>
    hdistinct.1 (List.mem_map.mpr ⟨other, ho, he⟩)
  have hkept : ∀ sessions : List Session, (∀ other ∈ sessions, other ∈ earlier ++ later) →
      sessions.filter (fun other => other.listener ≠ s.listener) = sessions := fun sessions hs =>
    List.filter_eq_self.mpr fun other ho => decide_eq_true (hother other (hs other ho))
  refine ⟨?_, ?_, ?_, hdistinct.2, ?_, ?_, fun _ => rfl⟩
  · rw [hworkspace]
    dsimp only
    rw [h.listeners, List.filter_map]
    refine congrArg (List.map _) ?_
    change (earlier ++ s :: later).filter (fun other => other.listener ≠ s.listener) = _
    rw [List.filter_append, List.filter_cons_of_neg (by simp),
      hkept earlier fun other => List.mem_append_left _,
      hkept later fun other => List.mem_append_right _]
  · rw [hworkspace]
    exact fun other ho => h.home other (hmem other ho)
  · rw [hworkspace]
    exact fun other ho => h.drawn other (hmem other ho)
  · rw [hworkspace]
    dsimp only
    rw [Table.get?_erase, if_neg (by decide), Table.get?_erase, if_pos rfl]
    rfl
  · rw [hworkspace]
    dsimp only
    rw [Table.get?_erase, if_pos rfl]
    rfl

end Sharing

theorem Shared.sharing (hids : Function.Injective ids) {workspace : String} {settings : Settings}
    {live : List Session} {shown : Option Propagator}
    (h : Shared ids (Editor.start workspace settings) e live shown) : Sharing ids e live shown := by
  induction h with
  | start => exact .start ids workspace settings
  | edit a _ ha ih => exact ih.edit ha
  | attach p _ ih => exact ih.attach hids p
  | detach s _ ih => exact ih.detach

/-- What is found in a category. -/
theorem openCategory_snd (e : Editor) (name : String) :
    (e.openCategory name).2 = (e.workspace.categories.get? name).map fun category =>
      (category e.catalog e.workspace.canvas).items := by
  rw [openCategory, Workspace.openCategory]
  cases e.workspace.categories.get? name <;> rfl

/-- **What sessions share.** Let any number of sessions be attached to a workspace and detached
again, in any order, between edits of any kind. The listeners are those of the attached sessions, in
the order of attachment. Both categories are those of the session that was attached last, if nothing
was detached since; otherwise there are none, although sessions may be attached. -/
theorem shared_audience (hids : Function.Injective ids) {workspace : String} {settings : Settings}
    {live : List Session} {shown : Option Propagator}
    (h : Shared ids (start workspace settings) e live shown) :
    e.workspace.listeners = live.map (fun s => (s.listener, Session.listenerOf s.propagator)) ∧
    (live.map Session.listener).Nodup ∧
    (e.openCategory Toolbox.documentVariablesName).2 = shown.map (fun p =>
      (p.variableListing e.catalog e.workspace.canvas.vars).items) ∧
    (e.openCategory Toolbox.linksName).2 = shown.map (fun p => (p.linkListing e.catalog).items) ∧
    (live = [] → shown = none) := by
  have hsharing := h.sharing hids
  refine ⟨hsharing.listeners, hsharing.distinct, ?_, ?_, hsharing.somebody⟩
  · rw [openCategory_snd, hsharing.documentVariables, Option.map_map]
    rfl
  · rw [openCategory_snd, hsharing.links, Option.map_map]
    rfl

/-- Two sessions are attached, and the second is detached. The first still listens, but its
categories are gone. -/
theorem shared_audience_orphaned :
    let one := (start "harbour" {}).act strokes (.attach .harbour)
    let first := (Session.attach strokes (start "harbour" {}).workspace .harbour).1
    let two := one.act strokes (.attach .harbour)
    let second := (Session.attach strokes one.workspace .harbour).1
    let left := two.act strokes (.detach second)
    left.workspace.listeners = [(first.listener, Session.listenerOf first.propagator)] ∧
      (two.openCategory Toolbox.linksName).2 = some [.block "port_ship_link" none] ∧
      (left.openCategory Toolbox.documentVariablesName).2 = none ∧
      (left.openCategory Toolbox.linksName).2 = none := by
  intro one first two second left
  have htwo : Shared strokes (start "harbour" {}) two ([first] ++ [second]) (some .harbour) :=
    (Shared.start.attach .harbour).attach .harbour
  have hleft : Shared strokes (start "harbour" {}) left ([first] ++ []) none := htwo.detach second
  obtain ⟨hlisteners, -, hvariables, hlinks, -⟩ := shared_audience strokes_injective hleft
  exact ⟨hlisteners, by decide +kernel, hvariables, hlinks⟩

end Editor

end TypedBlocks
