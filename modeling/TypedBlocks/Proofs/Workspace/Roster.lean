import Mathlib.Data.List.Basic
import TypedBlocks.Proofs.Propagator.Amending
import TypedBlocks.Session

/-!
# Who listens

The *roster* of a workspace are the ids of its listeners, in the order in which they are told. What
becomes of it while listeners run can be told from the journal: `enrol` lets an entry change the
roster, and `Honest` says that whoever removed a listener was told rightly whether there was one.

Listeners are taken out of the workspace while they run, so what they do starts out from an empty
roster (`Enacted`, for every reaction), and the listeners from before come back in front of what has
become of that (`Reported`). Whether this is what had become of the full roster is then a question
about the entries alone: `honest_iff_disjoint` and `append_enrolled_iff` answer it.
-/

namespace TypedBlocks

variable {ids : IdSupply} {members : List String} {entries : List Entry} {id : String}

/-! ## Rosters -/

/-- The roster after an entry: who was added comes last, and who was removed is gone. -/
def enrol (members : List String) : Entry → List String
  | .listened _ added => members ++ [added]
  | .unlistened _ removed _ => members.filter (· ≠ removed)
  | _ => members

/-- The id of a listener that was added. -/
def Entry.added? : Entry → Option String
  | .listened _ added => some added
  | _ => none

/-- The id of a listener that was to be removed, whether or not there was one. -/
def Entry.removed? : Entry → Option String
  | .unlistened _ removed _ => some removed
  | _ => none

/-- The ids of all listeners that were added. -/
def arrivals (entries : List Entry) : List String := entries.filterMap Entry.added?

/-- The ids of all listeners that were to be removed. -/
def dismissals (entries : List Entry) : List String := entries.filterMap Entry.removed?

/-- Every removal found a listener just if there was one of that id at that point, where the roster
starts out with these members and is kept by the entries. -/
def Honest (members : List String) (entries : List Entry) : Prop :=
  ∀ earlier me id found later, entries = earlier ++ .unlistened me id found :: later →
    (found = true ↔ id ∈ earlier.foldl enrol members)

theorem mem_dismissals :
    id ∈ dismissals entries ↔ ∃ me found, .unlistened me id found ∈ entries := by
  rw [dismissals, List.mem_filterMap]
  constructor
  · rintro ⟨entry, hentry, hid⟩
    cases entry with
    | unlistened me removed found =>
      obtain rfl := Option.some.inj hid
      exact ⟨me, found, hentry⟩
    | _ => cases hid
  · rintro ⟨me, found, hentry⟩
    exact ⟨_, hentry, rfl⟩

/-- Whoever was to be removed was to be removed a first time, and until then nobody had asked for
it. -/
theorem exists_first_removal (h : id ∈ dismissals entries) :
    ∃ earlier me found later, entries = earlier ++ .unlistened me id found :: later ∧
      id ∉ dismissals earlier := by
  induction entries with
  | nil => cases h
  | cons entry entries ih =>
    by_cases hentry : ∃ me found, entry = .unlistened me id found
    · obtain ⟨me, found, rfl⟩ := hentry
      exact ⟨[], me, found, entries, rfl, List.not_mem_nil⟩
    · have hother : ∀ others, id ∈ dismissals (entry :: others) → id ∈ dismissals others := by
        intro others hd
        obtain ⟨me, found, hd⟩ := mem_dismissals.mp hd
        rcases List.mem_cons.mp hd with rfl | hd
        · exact absurd ⟨me, found, rfl⟩ hentry
        · exact mem_dismissals.mpr ⟨me, found, hd⟩
      obtain ⟨earlier, me, found, later, rfl, hfirst⟩ := ih (hother _ h)
      exact ⟨entry :: earlier, me, found, later, rfl, mt (hother earlier) hfirst⟩

/-- **A roster in two parts**: the first loses whoever is dismissed, and all else happens to the
second. -/
theorem foldl_enrol_append (members recent : List String) (entries : List Entry) :
    entries.foldl enrol (members ++ recent) =
      members.filter (· ∉ dismissals entries) ++ entries.foldl enrol recent := by
  -- by induction on the entries; only a removal reaches the first part
  induction entries generalizing members recent with
  | nil => simp [dismissals]
  | cons entry entries ih =>
    rw [List.foldl_cons, List.foldl_cons]
    cases entry with
    | listened me added =>
      rw [enrol, List.append_assoc, ih]
      rfl
    | unlistened me removed found =>
      rw [enrol, List.filter_append, ih, List.filter_filter]
      congr 1
      refine List.filter_congr fun id _ => ?_
      rw [← Bool.decide_and, decide_eq_decide]
      simp only [dismissals, List.filterMap_cons, Entry.removed?, List.mem_cons, not_or]
      exact and_comm
    | _ => exact ih members recent

theorem foldl_enrol (members : List String) (entries : List Entry) :
    entries.foldl enrol members =
      members.filter (· ∉ dismissals entries) ++ entries.foldl enrol [] := by
  rw [← foldl_enrol_append, List.append_nil]

/-- Who is on a roster that was empty has been added. -/
theorem mem_arrivals (h : id ∈ entries.foldl enrol []) : id ∈ arrivals entries := by
  induction entries with
  | nil => cases h
  | cons entry entries ih =>
    rw [List.foldl_cons] at h
    cases entry with
    | listened me added =>
      rw [enrol, foldl_enrol, List.mem_append] at h
      rcases h with h | h
      · obtain rfl := List.mem_singleton.mp (List.mem_of_mem_filter h)
        exact List.mem_cons_self
      · exact List.mem_cons_of_mem _ (ih h)
    | _ => exact ih h

/-- Entries that add nobody and remove nobody leave the roster alone. -/
theorem foldl_enrol_of_quiet (ha : arrivals entries = []) (hd : dismissals entries = [])
    (members : List String) : entries.foldl enrol members = members := by
  have hnobody : entries.foldl enrol [] = [] := by
    refine List.eq_nil_iff_forall_not_mem.mpr fun id hid => ?_
    have harrived := mem_arrivals hid
    rw [ha] at harrived
    cases harrived
  rw [foldl_enrol, hd, hnobody]
  simp

/-! ## Honest removals -/

namespace Honest

theorem of_quiet (hd : dismissals entries = []) (members : List String) :
    Honest members entries := by
  rintro earlier me id found later rfl
  have hid : id ∈ dismissals (earlier ++ .unlistened me id found :: later) :=
    mem_dismissals.mpr ⟨me, found, by simp⟩
  rw [hd] at hid
  cases hid

theorem removal {me : String} {found : Bool} (h : found = true ↔ id ∈ members) :
    Honest members [.unlistened me id found] := by
  intro earlier me' id' found' later he
  cases earlier with
  | nil =>
    obtain ⟨he, -⟩ := List.cons.inj he
    cases he
    exact h
  | cons entry earlier => simp at he

theorem append {entries' : List Entry} (h : Honest members entries)
    (h' : Honest (entries.foldl enrol members) entries') :
    Honest members (entries ++ entries') := by
  intro earlier me id found later he
  rcases List.append_eq_append_iff.mp he with ⟨between, rfl, hrest⟩ | ⟨between, rfl, hrest⟩
  · rw [List.foldl_append]
    exact h' between me id found later hrest
  · cases between with
    | nil =>
      rw [List.append_nil] at h'
      exact h' [] me id found later hrest.symm
    | cons entry between =>
      obtain ⟨rfl, -⟩ := List.cons.inj hrest
      exact h earlier me id found between rfl

end Honest

/-- **When what was honest about an empty roster is honest about another**: if nobody on that other
roster was to be removed. Whoever it is, the removal has found nobody, for no newcomer has an id
that is on the roster. -/
theorem honest_iff_disjoint (h : Honest [] entries)
    (hnew : ∀ id ∈ arrivals entries, id ∉ members) :
    Honest members entries ↔ members.Disjoint (dismissals entries) := by
  constructor
  · intro hr id hid hd
    obtain ⟨earlier, me, found, later, rfl, hfirst⟩ := exists_first_removal hd
    have hfound : found = true := (hr earlier me id found later rfl).mpr (by
      rw [foldl_enrol, List.mem_append]
      exact .inl (List.mem_filter.mpr ⟨hid, decide_eq_true hfirst⟩))
    have harrived := mem_arrivals ((h earlier me id found later rfl).mp hfound)
    refine hnew id ?_ hid
    rw [arrivals, List.filterMap_append]
    exact List.mem_append_left _ harrived
  · rintro hd earlier me id found later rfl
    have hid : id ∉ members := fun hid =>
      hd hid (mem_dismissals.mpr ⟨me, found, by simp⟩)
    rw [h earlier me id found later rfl, foldl_enrol members, List.mem_append, List.mem_filter]
    simp [hid]

/-- **When the others may be put back in front**: keeping the roster from the start comes to the
same as keeping it from nothing and putting the others in front, just if none of them was to be
removed. -/
theorem append_enrolled_iff (members : List String) (entries : List Entry) :
    members ++ entries.foldl enrol [] = entries.foldl enrol members ↔
      members.Disjoint (dismissals entries) := by
  rw [foldl_enrol members, List.append_left_inj, eq_comm, List.filter_eq_self]
  simp only [decide_eq_true_eq]
  rfl

/-! ## Reactions -/

namespace Workspace

variable {w w' w'' : Workspace}

/-- The ids of the listeners, in the order in which they are told. -/
def roster (w : Workspace) : List String := w.listeners.map Prod.fst

/-- All listeners were added under ids that were drawn. -/
def Enlisted (ids : IdSupply) (w : Workspace) : Prop :=
  ∀ id ∈ w.roster, ∃ n < w.canvas.drawn, ids n = id

/-- The entries say what has become of the roster. Whoever has arrived has an id that was drawn
meanwhile. -/
structure Enacted (ids : IdSupply) (w : Workspace) (entries : List Entry) (w' : Workspace) :
    Prop where
  journal : w'.journal = w.journal ++ entries
  roster : w'.roster = entries.foldl enrol w.roster
  honest : Honest w.roster entries
  arrivals : ∀ id ∈ arrivals entries,
    ∃ n, w.canvas.drawn ≤ n ∧ n < w'.canvas.drawn ∧ ids n = id
  drawn : w.canvas.drawn ≤ w'.canvas.drawn

namespace Enacted

variable {entries' : List Entry}

theorem trans (h : Enacted ids w entries w') (h' : Enacted ids w' entries' w'') :
    Enacted ids w (entries ++ entries') w'' where
  journal := by rw [h'.journal, h.journal, List.append_assoc]
  roster := by rw [h'.roster, h.roster, List.foldl_append]
  honest := h.honest.append (h.roster ▸ h'.honest)
  arrivals := by
    intro id hid
    rw [TypedBlocks.arrivals, List.filterMap_append] at hid
    rcases List.mem_append.mp hid with hid | hid
    · obtain ⟨n, hn, hn', he⟩ := h.arrivals id hid
      exact ⟨n, hn, Nat.lt_of_lt_of_le hn' h'.drawn, he⟩
    · obtain ⟨n, hn, hn', he⟩ := h'.arrivals id hid
      exact ⟨n, Nat.le_trans h.drawn hn, hn', he⟩
  drawn := Nat.le_trans h.drawn h'.drawn

/-- Something happens that the roster has no part in. -/
theorem quiet (hjournal : w'.journal = w.journal ++ entries)
    (hlisteners : w'.listeners = w.listeners) (hdrawn : w.canvas.drawn ≤ w'.canvas.drawn)
    (ha : TypedBlocks.arrivals entries = []) (hd : dismissals entries = []) :
    Enacted ids w entries w' where
  journal := hjournal
  roster := by rw [foldl_enrol_of_quiet ha hd, Workspace.roster, hlisteners, Workspace.roster]
  honest := .of_quiet hd _
  arrivals := by rw [ha]; nofun
  drawn := hdrawn

/-- Nothing is written down, and nobody comes or goes. -/
theorem silent (hjournal : w'.journal = w.journal) (hlisteners : w'.listeners = w.listeners)
    (hcanvas : w'.canvas = w.canvas) : Enacted ids w [] w' :=
  .quiet (by rw [hjournal, List.append_nil]) hlisteners (by rw [hcanvas]) rfl rfl

/-- Notices have no part in the roster. -/
theorem noted (w : Workspace) {canvas : Canvas} (hdrawn : w.canvas.drawn ≤ canvas.drawn)
    (notices : List Notice) :
    Enacted ids w (notices.map .noted)
      (({ w with canvas } : Workspace).record (notices.map .noted)) :=
  .quiet rfl rfl hdrawn (by simp [TypedBlocks.arrivals, Entry.added?])
    (by simp [dismissals, Entry.removed?])

/-- A listener is added, and comes last. -/
theorem listened (ids : IdSupply) (w : Workspace) (me : String) (listener : Listener) :
    Enacted ids w [.listened me (ids w.canvas.drawn)]
      ((w.addListener ids listener).2.record [.listened me (ids w.canvas.drawn)]) where
  journal := rfl
  roster := List.map_append
  honest := .of_quiet rfl _
  arrivals id hid := by
    rw [List.mem_singleton.mp hid]
    exact ⟨_, Nat.le_refl _, Nat.lt_succ_self _, rfl⟩
  drawn := Nat.le_succ _

/-- A listener is removed, if there is one. -/
theorem unlistened (w : Workspace) (me id : String) :
    Enacted ids w [.unlistened me id (w.removeListener id).1]
      ((w.removeListener id).2.record [.unlistened me id (w.removeListener id).1]) where
  journal := rfl
  roster := (List.filter_map (p := (· ≠ id)) (f := Prod.fst)).symm
  honest := .removal (by simp [removeListener, Workspace.roster])
  arrivals _ hid := by cases hid
  drawn := Nat.le_refl _

end Enacted

/-- **Whatever a listener does, the journal says what has become of the roster**: by induction on
its reaction, where additions and removals are written down as they happen. -/
theorem react_enacted (ids : IdSupply) (me : String) (r : Reaction) (w : Workspace) :
    ∃ entries, Enacted ids w entries (react ids me r w) := by
  induction r generalizing w with
  | done => exact ⟨[], .silent rfl rfl rfl⟩
  | propagate p event next ih =>
    have hamended : Canvas.Amended ids w.canvas (p.handle w.canvas event).1 :=
      p.handle_amended w.canvas event
    obtain ⟨entries, h⟩ := ih _
    exact ⟨_, (Enacted.noted w hamended.pruned.drawn (p.handle w.canvas event).2).trans h⟩
  | amend a next ih =>
    simp only [react]
    split
    · rename_i canvas ha
      obtain ⟨entries, h⟩ := ih _ _
      refine ⟨[.amended me (.ok ())] ++ entries, Enacted.trans ?_ h⟩
      exact .quiet rfl rfl (Canvas.Amended.of_apply ha).pruned.drawn rfl rfl
    · rename_i fault _
      obtain ⟨entries, h⟩ := ih _ _
      refine ⟨[.amended me (.error fault)] ++ entries, Enacted.trans ?_ h⟩
      exact .quiet rfl rfl (Nat.le_refl _) rfl rfl
  | look next ih => exact ih _ w
  | listen listener next _ ih =>
    obtain ⟨entries, h⟩ := ih _ _
    exact ⟨_, (Enacted.listened ids w me listener).trans h⟩
  | unlisten id next ih =>
    obtain ⟨entries, h⟩ := ih _ _
    exact ⟨_, (Enacted.unlistened w me id).trans h⟩
  | register name category next ih =>
    obtain ⟨entries, h⟩ := ih (w.registerCategory name category)
    have hsilent : Enacted ids w [] (w.registerCategory name category) := .silent rfl rfl rfl
    exact ⟨_, hsilent.trans h⟩
  | unregister name next ih =>
    obtain ⟨entries, h⟩ := ih (w.removeCategory name).1 (w.removeCategory name).2
    have hsilent : Enacted ids w [] (w.removeCategory name).2 := .silent rfl rfl rfl
    exact ⟨_, hsilent.trans h⟩

/-! ## Reports -/

/-- Everybody in turn is told, and the journal says what becomes of the roster, by induction on
those who are still to be told. -/
theorem foldl_tell_enacted (ids : IdSupply) (event : Event) (listeners : List (String × Listener))
    (w : Workspace) :
    ∃ entries, Enacted ids w entries (listeners.foldl (tell ids event) w) ∧
      ∀ l ∈ listeners, .told l.1 event ∈ entries := by
  induction listeners generalizing w with
  | nil => exact ⟨[], .silent rfl rfl rfl, nofun⟩
  | cons l listeners ih =>
    have htold : Enacted ids w [.told l.1 event] (w.record [.told l.1 event]) :=
      .quiet rfl rfl (Nat.le_refl _) rfl rfl
    obtain ⟨entries, h⟩ := react_enacted ids l.1 (l.2 event) (w.record [.told l.1 event])
    obtain ⟨entries', h', hall⟩ := ih (tell ids event w l)
    refine ⟨_, (htold.trans h).trans h', List.forall_mem_cons.mpr ⟨?_, fun other ho => ?_⟩⟩
    · simp
    · exact List.mem_append_right _ (hall other ho)

/-- What a report comes to. Everybody from before has been told, and is back in front of those who
were added in the course of it; and only these can have been removed. -/
structure Reported (ids : IdSupply) (w : Workspace) (event : Event) (entries : List Entry)
    (w' : Workspace) : Prop where
  journal : w'.journal = w.journal ++ entries
  told : ∀ l ∈ w.listeners, .told l.1 event ∈ entries
  listeners : ∃ recent, w'.listeners = w.listeners ++ recent ∧
    recent.map Prod.fst = entries.foldl enrol []
  honest : Honest [] entries
  arrivals : ∀ id ∈ arrivals entries,
    ∃ n, w.canvas.drawn ≤ n ∧ n < w'.canvas.drawn ∧ ids n = id
  drawn : w.canvas.drawn ≤ w'.canvas.drawn

/-- **What becomes of the listeners in a report.** Those from before come first, as they were;
behind them are those that were added and not removed while it went on. -/
theorem report_reported (ids : IdSupply) (w : Workspace) (event : Event) :
    ∃ entries, Reported ids w event entries (report ids w event) := by
  obtain ⟨entries, h, htold⟩ :=
    foldl_tell_enacted ids event w.listeners { w with listeners := [] }
  exact ⟨entries, h.journal, htold, ⟨_, rfl, h.roster⟩, h.honest, h.arrivals, h.drawn⟩

theorem Reported.roster {event : Event} (h : Reported ids w event entries w') :
    w'.roster = w.roster ++ entries.foldl enrol [] := by
  obtain ⟨recent, hlisteners, hrecent⟩ := h.listeners
  rw [Workspace.roster, hlisteners, List.map_append, hrecent, Workspace.roster]

/-- Nobody who arrives in a report has the id of a listener from before, if ids are new each time
they are drawn. -/
theorem Reported.newcomers {event : Event} (h : Reported ids w event entries w')
    (hids : Function.Injective ids) (henlisted : w.Enlisted ids) :
    ∀ id ∈ TypedBlocks.arrivals entries, id ∉ w.roster := by
  intro id hid hold
  obtain ⟨n, hn, -, he⟩ := h.arrivals id hid
  obtain ⟨m, hm, he'⟩ := henlisted id hold
  have hsame := hids (he'.trans he.symm)
  omega

theorem Enlisted.mono (h : w.Enlisted ids) (hlisteners : w'.listeners ⊆ w.listeners)
    (hdrawn : w.canvas.drawn ≤ w'.canvas.drawn) : w'.Enlisted ids := by
  intro id hid
  obtain ⟨n, hn, he⟩ := h id (List.map_subset Prod.fst hlisteners hid)
  exact ⟨n, Nat.lt_of_lt_of_le hn hdrawn, he⟩

theorem Enlisted.addListener (h : w.Enlisted ids) (listener : Listener) :
    (w.addListener ids listener).2.Enlisted ids := by
  intro id hid
  have hroster : (w.addListener ids listener).2.roster = w.roster ++ [ids w.canvas.drawn] :=
    List.map_append
  rw [hroster, List.mem_append] at hid
  rcases hid with hid | hid
  · obtain ⟨n, hn, he⟩ := h id hid
    exact ⟨n, Nat.lt_succ_of_lt hn, he⟩
  · exact ⟨_, Nat.lt_succ_self _, (List.mem_singleton.mp hid).symm⟩

/-- A report leaves everybody enlisted, newcomers included. -/
theorem Enlisted.report (h : w.Enlisted ids) (event : Event) :
    (report ids w event).Enlisted ids := by
  obtain ⟨entries, hr⟩ := report_reported ids w event
  intro id hid
  rw [hr.roster, List.mem_append] at hid
  rcases hid with hid | hid
  · obtain ⟨n, hn, he⟩ := h id hid
    exact ⟨n, Nat.lt_of_lt_of_le hn hr.drawn, he⟩
  · obtain ⟨n, -, hn, he⟩ := hr.arrivals id (mem_arrivals hid)
    exact ⟨n, hn, he⟩

end Workspace

/-! ## Sessions that leave -/

/-- A session takes itself out while it, or another listener, is told of an event. -/
def Session.leave (s : Session) : Reaction :=
  .unlisten s.listener fun _ => .unregister Toolbox.documentVariablesName fun _ =>
    .unregister Toolbox.linksName fun _ => .done

/-- To leave is to be detached, as far as the workspace goes; the journal says whether there was a
listener to be removed. -/
theorem Session.react_leave (ids : IdSupply) (me : String) {s : Session} {w : Workspace}
    (h : w.id = s.workspace) :
    Workspace.react ids me s.leave w =
      (s.detach w).record [.unlistened me s.listener (w.removeListener s.listener).1] := by
  rw [detach, if_neg (not_not.mpr h)]
  rfl

end TypedBlocks
