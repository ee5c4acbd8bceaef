import TypedBlocks.Proofs.Session.Steps
import TypedBlocks.Session

/-!
# Edits in session

A workspace with one session attached and nobody else listening is *attended*: its canvas is settled
between edits, and every edit leaves it so (`Attended.unplug`, `Attended.connect`). What an edit
does to the canvas is a run of steps (`Attended.unplug_pulls`, `Attended.connect_steps`).

Connecting can fail halfway. What the input holds is looked up before the child is pulled out of
where it is; if the child is a document in a link, and that link is what the input holds, then
pulling the document out resets the link and pulls it out as well, so that there is nothing left to
evict. The child is then said to be *snagged*. `Attended.connect_of_snagged` and
`Attended.connect_of_fits` say that connecting what fits fails in this case and in no other.
-/

namespace TypedBlocks

open Canvas Definition

variable {ids : IdSupply} {p : Propagator} {w : Workspace} {child parent input : String}

namespace Workspace

/-- The one listener of the workspace listens for `p`, and its categories are those of `p`. -/
structure InSession (p : Propagator) (w : Workspace) : Prop where
  listeners : ∃ listener, w.listeners = [(listener, Session.listenerOf p)]
  categories : ∀ name category, w.categories.get? name = some category →
    category = Session.documentVariablesOf p ∨ category = Session.linksOf p

/-- A workspace in session whose canvas is settled: the invariant of a workspace between two
edits. -/
structure Attended (ids : IdSupply) (p : Propagator) (w : Workspace) : Prop where
  settled : Settled ids p.domain none w.canvas
  session : InSession p w

/-! ## Reports in session -/

/-- Where a session is the only listener, reporting an event is letting its propagator respond. That
leaves the audience as it is, so the next report is of this kind as well. -/
theorem report_in_session (ids : IdSupply) (h : InSession p w) (event : Event) :
    (report ids w event).canvas = (p.respond w.canvas event).canvas ∧
      InSession p (report ids w event) := by
  obtain ⟨⟨listener, hl⟩, hcategories⟩ := h
  rw [← p.handle_canvas]
  simp only [report, hl, List.foldl_cons, List.foldl_nil]
  exact ⟨rfl, ⟨listener, rfl⟩, hcategories⟩

/-! ## Unplugging -/

namespace Attended

/-- Unplugging a block lets the propagator respond to that. -/
theorem unplug_canvas (h : Attended ids p w) {plug : Plug}
    (hp : w.canvas.plug? child = some plug) :
    (w.unplug ids child).1.canvas =
      (p.afterDisconnect (w.canvas.detach child plug) child plug.block).canvas := by
  rw [unplug_eq hp]
  have hsession : InSession p { w with canvas := w.canvas.detach child plug } :=
    ⟨h.session.listeners, h.session.categories⟩
  exact (report_in_session ids hsession _).1

/-- **Unplugging leaves the workspace settled**, also if it fails. The response to the report does
what the disconnection calls for. -/
theorem unplug (h : Attended ids p w) (child : String) :
    Attended ids p (w.unplug ids child).1 := by
  cases hp : w.canvas.plug? child with
  | none =>
    rw [(unplug_of_plug?_eq_none ids hp).1]
    exact h
  | some plug =>
    refine ⟨?_, ?_⟩
    · rw [h.unplug_canvas hp]
      exact h.settled.afterDisconnect hp
    · rw [unplug_eq hp]
      have hsession : InSession p { w with canvas := w.canvas.detach child plug } :=
        ⟨h.session.listeners, h.session.categories⟩
      exact (report_in_session ids hsession _).2

/-- Unplugging a block is a step, or nothing where the block is plugged in nowhere. -/
theorem unplug_pulls (h : Attended ids p w) (child : String) :
    Pulls ids p w.canvas (w.unplug ids child).1.canvas := by
  cases hp : w.canvas.plug? child with
  | none =>
    rw [(unplug_of_plug?_eq_none ids hp).1]
  | some plug =>
    rw [h.unplug_canvas hp]
    exact .single ⟨h.settled, hp⟩

/-- Unplugging a block concerns the block that held it; other outputs and other connections stay
as they are. -/
theorem unplug_frame (h : Attended ids p w) {other : String}
    (hother : ∀ plug, w.canvas.plug? child = some plug → other ≠ plug.block) :
    (w.unplug ids child).1.canvas.output? other = w.canvas.output? other ∧
      (other ≠ child → (w.unplug ids child).1.canvas.plug? other = w.canvas.plug? other) := by
  cases hp : w.canvas.plug? child with
  | none =>
    rw [(unplug_of_plug?_eq_none ids hp).1]
    exact ⟨rfl, fun _ => rfl⟩
  | some plug =>
    obtain ⟨hout, hplug⟩ :=
      p.afterDisconnect_frame (w.canvas.detach child plug) child (hother plug hp)
    rw [h.unplug_canvas hp, hout, hplug, output?_detach, plug?_detach]
    exact ⟨rfl, fun hne => if_neg hne⟩

end Attended

/-! ## Clearing both ends of a connection to be -/

/-- A document that is to go where the link is that holds it. When it is pulled out, the link is
reset and leaves that place by itself, and cannot be pulled out of it any more. -/
structure Snagged (c : Canvas) (child parent input occupant : String) : Prop where
  found : c.target? parent input = some occupant
  holds : c.target? occupant linkInput = some child
  link : ∃ f, c.frame? occupant = some f ∧ Tag.isLinkType f.type = true
  document : (c.tag child).isDocument = true

namespace Attended

theorem vacate (h : Attended ids p w) (child : String) :
    Attended ids p (w.vacate ids child).1 :=
  vacate_keeps (fun _ child h => h.unplug child) h child

theorem evict (h : Attended ids p w) (child : String) (occupant : Option String) :
    Attended ids p (w.evict ids child occupant).1 :=
  evict_keeps (fun _ child h => h.unplug child) h child occupant

theorem vacate_pulls (h : Attended ids p w) (child : String) :
    Pulls ids p w.canvas (w.vacate ids child).1.canvas :=
  (vacate_keeps (P := fun w' => Attended ids p w' ∧ Pulls ids p w.canvas w'.canvas)
    (fun _ child h => ⟨h.1.unplug child, h.2.trans (h.1.unplug_pulls child)⟩) ⟨h, .refl⟩ child).2

theorem evict_pulls (h : Attended ids p w) (child : String) (occupant : Option String) :
    Pulls ids p w.canvas (w.evict ids child occupant).1.canvas :=
  (evict_keeps (P := fun w' => Attended ids p w' ∧ Pulls ids p w.canvas w'.canvas)
    (fun _ child h => ⟨h.1.unplug child, h.2.trans (h.1.unplug_pulls child)⟩) ⟨h, .refl⟩ child
    occupant).2

/-- Vacating a block does not change its output. -/
theorem output?_vacate (h : Attended ids p w) (child : String) :
    (w.vacate ids child).1.canvas.output? child = w.canvas.output? child := by
  rw [vacate_eq]
  split
  · rfl
  · exact (h.unplug_frame fun plug => h.settled.coherent.wired.ne_of_plug).1

/-- Neither does evicting what the input held when the child was still in its place: only the parent
can be a link that loses its document over that, and the child is not the parent. -/
theorem output?_evict {c : Canvas} (h : Attended ids p w) (hc : Wired c) (hp : Pruned c w.canvas)
    (hne : child ≠ parent) :
    (w.evict ids child (c.target? parent input)).1.canvas.output? child =
      w.canvas.output? child := by
  unfold Workspace.evict
  split
  · rfl
  · rename_i occupant ht
    split
    · rfl
    · refine (h.unplug_frame fun plug hplug => ?_).1
      have he := (hp.plug_some hplug).symm.trans (hc.plug_iff.mpr ht)
      cases he
      exact hne

/-- A block that is vacated and not snagged leaves what the input holds in its place, so that this
can be evicted afterwards. -/
theorem plug?_vacate (h : Attended ids p w) {occupant : String}
    (ht : w.canvas.target? parent input = some occupant) (hne : occupant ≠ child)
    (hfree : ¬ Snagged w.canvas child parent input occupant) :
    (w.vacate ids child).1.canvas.plug? occupant = some ⟨parent, input⟩ := by
  have hw := h.settled.coherent.wired
  have hplug := hw.plug_iff.mpr ht
  rw [vacate_eq]
  split
  · exact hplug
  · rename_i hsome
    obtain ⟨plug, hp⟩ := Option.ne_none_iff_exists'.mp hsome
    by_cases he : occupant = plug.block
    · -- the child was held by the occupant, which is no link or held no document
      subst he
      have hheld := hw.plug_iff.mp hp
      rw [h.unplug_canvas hp, Propagator.afterDisconnect_of_plain fun hdoc f hf => ?_]
      · rw [plug?_cleared, plug?_detach, if_neg hne]
        exact hplug
      · rw [← Bool.not_eq_true]
        intro hlink
        rw [tag_detach] at hdoc
        rw [frame?_detach] at hf
        rw [h.settled.formed.input_of_link hheld hf hlink] at hheld
        exact hfree ⟨ht, hheld, ⟨f, hf, hlink⟩, hdoc⟩
    · have hother : ∀ plug', w.canvas.plug? child = some plug' → occupant ≠ plug'.block := by
        intro plug' hp'
        rw [hp, Option.some.injEq] at hp'
        exact hp' ▸ he
      rw [(h.unplug_frame hother).2 hne]
      exact hplug

/-- A document that is pulled out of a link takes the link out of whatever holds it: the link is
reset, and leaves its holder over that. -/
theorem plug?_unplug_of_document (h : Attended ids p w) {link : String} {f : Frame}
    (ht : w.canvas.target? link linkInput = some child) (hf : w.canvas.frame? link = some f)
    (hlink : Tag.isLinkType f.type = true) (hdoc : (w.canvas.tag child).isDocument = true) :
    (w.unplug ids child).1.canvas.plug? link = none := by
  have hw := h.settled.coherent.wired
  have hp := hw.plug_iff.mpr ht
  obtain ⟨first, second, htype⟩ := Tag.isLinkType_iff.mp hlink
  obtain ⟨hfirst, hsecond, -⟩ := h.settled.formed.slot?_of_link hf htype
  have hused := (h.settled.oriented link f first second (by simp) hf htype).isUnknown_eq_false
    hfirst hsecond ht hdoc
  have hempty : (w.canvas.detach child ⟨link, linkInput⟩).target? link linkInput = none := by
    rw [target?_detach, if_pos ⟨rfl, rfl⟩]
  rw [h.unplug_canvas hp, Propagator.afterDisconnect_of_link (by rw [frame?_detach, hf]) hlink
    (by rw [tag_detach, hdoc]) (by rw [tag_detach, hused]) hempty]
  cases hheld : (w.canvas.detach child ⟨link, linkInput⟩).plug? link with
  | none => rw [plug?_emit, hheld]
  | some plug =>
    dsimp only
    rw [plug?_cleared, plug?_shift, plug?_detach, if_pos rfl]

/-- A snagged child takes what the input holds along: it is a document in the link that the input
holds, and pulling it out pulls the link out. -/
theorem plug?_vacate_of_snagged (h : Attended ids p w) {occupant : String}
    (hsnag : Snagged w.canvas child parent input occupant) :
    w.canvas.plug? child = some ⟨occupant, linkInput⟩ ∧
      (w.vacate ids child).1.canvas.plug? occupant = none := by
  have hp := h.settled.coherent.wired.plug_iff.mpr hsnag.holds
  obtain ⟨f, hf, hlink⟩ := hsnag.link
  refine ⟨hp, ?_⟩
  rw [vacate_eq, if_neg (by rw [hp]; nofun)]
  exact h.plug?_unplug_of_document hsnag.holds hf hlink hsnag.document

end Attended

/-! ## Connecting -/

namespace Attended

/-- **A snagged child is not plugged in.** Connecting fails over what the input held, but by then
the child has been pulled out. -/
theorem connect_of_snagged (h : Attended ids p w) (hfits : Fits w.canvas child parent input)
    {occupant : String} (hsnag : Snagged w.canvas child parent input occupant) :
    w.connect ids child parent input =
      ((w.vacate ids child).1, .error (.unplugged occupant)) := by
  obtain ⟨hp, hfree⟩ := h.plug?_vacate_of_snagged hsnag
  have hne : occupant ≠ child := (h.settled.coherent.wired.ne_of_plug hp).symm
  have hexists : ((w.vacate ids child).1.canvas.block? occupant).isSome := by
    rw [(vacate_pruned ids w child).block_isSome]
    exact h.settled.coherent.wired.block_of_target hsnag.found
  have hevict : (w.vacate ids child).1.evict ids child (w.canvas.target? parent input) =
      ((w.vacate ids child).1, .error (.unplugged occupant)) := by
    rw [hsnag.found]
    simp only [Workspace.evict, if_neg hne, Workspace.unplug,
      release_of_plug?_eq_none hexists hfree]
  rcases connect_cases ids w child parent input with
    ⟨fault, ha, -⟩ | ⟨-, ⟨fault, hfault, he⟩ | ⟨hok, -⟩⟩
  · rw [approve_eq_ok_iff.mpr ⟨hfits, rfl⟩] at ha
    cases ha
  · rw [hevict] at hfault he
    cases hfault
    exact he
  · rw [hevict] at hok
    cases hok

/-- **What fits and is not snagged is plugged in.** Both ends are cleared by pulling blocks out, the
canvas is settled when the connection is made, and the propagator responds to it. -/
theorem connect_of_fits (h : Attended ids p w) (hfits : Fits w.canvas child parent input)
    (hfree : ∀ occupant, ¬ Snagged w.canvas child parent input occupant) :
    (w.connect ids child parent input).2 = .ok () ∧
    ∃ c, c = ((w.vacate ids child).1.evict ids child (w.canvas.target? parent input)).1.canvas ∧
      Settled ids p.domain none c ∧ Fits c child parent input ∧ c.plug? child = none ∧
      c.target? parent input = none ∧ Pulls ids p w.canvas c ∧
      c.output? child = w.canvas.output? child ∧
      (w.connect ids child parent input).1.canvas =
        (p.afterConnect (c.plugIn child parent input) child parent).canvas ∧
      InSession p (w.connect ids child parent input).1 := by
  have hw := h.settled.coherent.wired
  have hv := h.vacate child
  have hpv := vacate_pruned ids w child
  have hvfree := (vacate_ok ids w child).2
  have hcleared := hv.evict child (w.canvas.target? parent input)
  have hpe := evict_pruned ids (w.vacate ids child).1 child (w.canvas.target? parent input)
  have hpulls := (h.vacate_pulls child).trans (hv.evict_pulls child (w.canvas.target? parent input))
  have hout : ((w.vacate ids child).1.evict ids child
      (w.canvas.target? parent input)).1.canvas.output? child = w.canvas.output? child :=
    (hv.output?_evict hw hpv hfits.apart).trans (h.output?_vacate child)
  -- eviction succeeds, because what the input held is still there
  have hok : ((w.vacate ids child).1.evict ids child (w.canvas.target? parent input)).2 =
      .ok () := by
    cases ht : w.canvas.target? parent input with
    | none => rfl
    | some occupant =>
      simp only [Workspace.evict]
      split
      · rfl
      · rename_i hne
        rw [unplug_eq (h.plug?_vacate ht hne (hfree occupant))]
  have htarget := evict_free hw hpv hv.settled.coherent.wired hvfree hok
  rcases connect_cases ids w child parent input with
    ⟨fault, ha, -⟩ | ⟨-, ⟨fault, hfault, -⟩ | ⟨-, he⟩⟩
  · rw [approve_eq_ok_iff.mpr ⟨hfits, rfl⟩] at ha
    cases ha
  · rw [hok] at hfault
    cases hfault
  · rw [he]
    generalize (w.vacate ids child).1.evict ids child (w.canvas.target? parent input) = r at *
    have hsession : InSession p { r.1 with canvas := r.1.canvas.plugIn child parent input } :=
      ⟨hcleared.session.listeners, hcleared.session.categories⟩
    obtain ⟨hcanvas, hsession⟩ :=
      report_in_session ids hsession (.connect r.1.id child parent)
    exact ⟨rfl, r.1.canvas, rfl, hcleared.settled, hfits.congr hout ((hpv.trans hpe).frame parent),
      hpe.plug_none hvfree, htarget, hpulls, hout, hcanvas, hsession⟩

/-- Where both ends are free, the connection is made at once, and the propagator responds to it. No
block is pulled out first, so this is the only report. -/
theorem connect_of_free (h : Attended ids p w) (hfits : Fits w.canvas child parent input)
    (hplug : w.canvas.plug? child = none) (hfree : w.canvas.target? parent input = none) :
    (w.connect ids child parent input).2 = .ok () ∧
      (w.connect ids child parent input).1.canvas =
        (p.afterConnect (w.canvas.plugIn child parent input) child parent).canvas := by
  have hsession : InSession p { w with canvas := w.canvas.plugIn child parent input } :=
    ⟨h.session.listeners, h.session.categories⟩
  have hcleared : (w.vacate ids child).1.evict ids child (w.canvas.target? parent input) =
      (w, .ok ()) := by
    rw [vacate_eq, if_pos hplug, hfree]
    rfl
  rcases connect_cases ids w child parent input with
    ⟨fault, ha, -⟩ | ⟨-, ⟨fault, hfault, -⟩ | ⟨-, he⟩⟩
  · rw [approve_eq_ok_iff.mpr ⟨hfits, rfl⟩] at ha
    cases ha
  · rw [hcleared] at hfault
    cases hfault
  · rw [he, hcleared]
    exact ⟨rfl, (report_in_session ids hsession (.connect w.id child parent)).1⟩

/-- Connecting succeeds just for what fits and is not snagged. That what fits can fail at all is due
to what the propagator does between the two reports. -/
theorem connect_eq_ok_iff (h : Attended ids p w) :
    (w.connect ids child parent input).2 = .ok () ↔
      Fits w.canvas child parent input ∧
        ∀ occupant, ¬ Snagged w.canvas child parent input occupant := by
  constructor
  · intro hok
    rcases connect_cases ids w child parent input with ⟨fault, -, he⟩ | ⟨hfits, -⟩
    · rw [he] at hok
      cases hok
    · refine ⟨hfits, fun occupant hsnag => ?_⟩
      rw [h.connect_of_snagged hfits hsnag] at hok
      cases hok
  · rintro ⟨hfits, hfree⟩
    exact (h.connect_of_fits hfits hfree).1

/-- **Connecting leaves the workspace settled**, also if it is refused or fails halfway. Both ends
are cleared by settled steps, and the connection is one more. -/
theorem connect (h : Attended ids p w) (child parent input : String) :
    Attended ids p (w.connect ids child parent input).1 := by
  rcases connect_cases ids w child parent input with ⟨fault, -, he⟩ | ⟨hfits, -⟩
  · rw [he]
    exact h
  · by_cases hsnag : ∃ occupant, Snagged w.canvas child parent input occupant
    · obtain ⟨occupant, hsnag⟩ := hsnag
      rw [h.connect_of_snagged hfits hsnag]
      exact h.vacate child
    · obtain ⟨-, c, -, hc, hfitsc, hplug, htarget, -, -, hcanvas, hsession⟩ :=
        h.connect_of_fits hfits fun occupant hs => hsnag ⟨occupant, hs⟩
      refine ⟨?_, hsession⟩
      rw [hcanvas]
      exact hc.afterConnect hfitsc hplug htarget

/-- **Connecting is a run of steps**, also if it is refused or fails halfway. -/
theorem connect_steps (h : Attended ids p w) (child parent input : String) :
    Steps ids p w.canvas (w.connect ids child parent input).1.canvas := by
  rcases connect_cases ids w child parent input with ⟨fault, -, he⟩ | ⟨hfits, -⟩
  · rw [he]
  · by_cases hsnag : ∃ occupant, Snagged w.canvas child parent input occupant
    · obtain ⟨occupant, hsnag⟩ := hsnag
      rw [h.connect_of_snagged hfits hsnag]
      exact (h.vacate_pulls child).steps
    · obtain ⟨-, c, -, hc, hfitsc, hplug, htarget, hpulls, -, hcanvas, -⟩ :=
        h.connect_of_fits hfits fun occupant hs => hsnag ⟨occupant, hs⟩
      rw [hcanvas]
      exact hpulls.steps.tail (.plug hc hfitsc hplug htarget)

/-- **A document that fits a link is plugged in and stays.** It cannot be snagged, for a link holds
no link, and it is of one of the two collections, so that the propagator finds it a place to lead
to. -/
theorem connect_link (h : Attended ids p w) (hfits : Fits w.canvas child parent input) {f : Frame}
    (hf : w.canvas.frame? parent = some f) (hlink : Tag.isLinkType f.type = true)
    {collection : String} (hdoc : w.canvas.tag child = .document collection) :
    (w.connect ids child parent input).2 = .ok () ∧
      (w.connect ids child parent input).1.canvas.target? parent input = some child := by
  obtain ⟨first, second, htype⟩ := Tag.isLinkType_iff.mp hlink
  -- what the link holds is no link, so nothing can be snagged here
  have hfree : ∀ occupant, ¬ Snagged w.canvas child parent input occupant := by
    intro occupant hsnag
    obtain ⟨rfl, -⟩ := h.settled.fits_link hfits hf htype
    obtain ⟨g, hg, hlink'⟩ := hsnag.link
    have hplain := (h.settled.oriented parent f first second (by simp) hf htype).plain occupant g
      hsnag.found hg
    rw [hlink'] at hplain
    cases hplain
  obtain ⟨hok, c, -, hc, hfitsc, hplug, htarget, hpulls, hout, hcanvas, -⟩ :=
    h.connect_of_fits hfits hfree
  refine ⟨hok, ?_⟩
  have hfc : c.frame? parent = some f := (hpulls.pruned.frame parent).trans hf
  have hdocc : c.tag child = .document collection := (tag_congr hout).trans hdoc
  obtain ⟨check, g, slot, ho, hg, hs, -⟩ := hfitsc.exist
  rcases (hc.fits_link hfitsc hfc htype).2 with ⟨collection', hdoc', hside⟩ | hnone
  · obtain rfl := Tag.document.inj (hdocc.symm.trans hdoc')
    have hacross := Tag.across?_link_eq_some_iff.mpr ⟨hside, rfl⟩
    rw [hcanvas, Propagator.afterConnect_of_link (by rw [frame?_plugIn, hfc]) hlink
      (by rw [tag_plugIn, hdocc]) (by rw [htype]; exact hacross), target?_emit,
      target?_plugIn hg hs, if_pos ⟨rfl, rfl⟩]
  · have htag := tag_eq_of_output? hnone
    rw [hdocc] at htag
    cases htag

end Attended

end Workspace

end TypedBlocks
