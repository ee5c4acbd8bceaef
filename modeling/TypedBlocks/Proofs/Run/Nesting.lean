import TypedBlocks.Proofs.Run.Attended
import TypedBlocks.Proofs.Session.Rings

/-!
# Rings over runs

Connecting rules out that a block is plugged into itself, but not that it is plugged into a block
that is inside it: attribute getters take what attribute getters put out, so two of them can be
plugged into each other. Nothing else makes a ring: as long as no user plugs a block into one that
is inside it, the canvas stays a forest, whatever else happens and whoever listens
(`Editor.forest_act`).
-/

namespace TypedBlocks

open Canvas Definition Workspace

variable {ids : IdSupply}

namespace Editor

variable {e : Editor}

/-- **Every act keeps a forest**, but for a user who plugs a block into one that is inside it. No
act but connecting makes a connection, and reports and amendments only prune. -/
theorem forest_act (hids : Function.Injective ids) (hc : Coherent ids e.workspace.canvas)
    (h : Forest e.workspace.canvas) (a : Act) :
    Forest (e.act ids a).workspace.canvas ∨
      ∃ child parent input, e.act ids a = (e.perform ids (.connect child parent input)).1 ∧
        Fits e.workspace.canvas child parent input ∧
        e.workspace.canvas.Inside parent child := by
  cases a with
  | edit edit =>
    rcases e.perform_cases ids edit with he | ⟨_, preset, _, _, hmade, he⟩ | ⟨_, _, -, he⟩ |
      ⟨child, parent, input, he⟩ | ⟨block, he⟩
    · rw [act, he]
      exact .inl h
    · rw [act, he]
      obtain ⟨d, -, rfl, rfl⟩ := create_eq_ok hmade
      obtain ⟨-, hblocks, hnew, -⟩ := hc.build_next hids d preset
      exact .inl ((h.of_blocks hblocks).add hnew (build_blank d preset))
    · rw [act, he]
      exact .inl h
    · by_cases hin : Fits e.workspace.canvas child parent input ∧
          e.workspace.canvas.Inside parent child
      · exact .inr ⟨child, parent, input, he, hin⟩
      · rw [act, he]
        exact .inl (forest_connect h fun hfits hinside => hin ⟨hfits, hinside⟩)
    · rw [act, he]
      exact .inl (h.pruned (unplug_pruned ids e.workspace block))
  | attach p => exact .inl (h.of_blocks (Session.attach_blocks ids e.workspace p).1)
  | detach s =>
    rw [act, Session.detach_canvas]
    exact .inl h
  | report event =>
    have hreport : Amended ids e.workspace.canvas _ := report_amended e.workspace event
    exact .inl (h.pruned hreport.pruned)
  | amend a =>
    simp only [act, amend]
    split
    · rename_i ha
      exact .inl (h.pruned (.of_apply ha))
    · exact .inl h
  | listen listener => exact .inl (h.of_blocks rfl)
  | unlisten id => exact .inl h
  | askGetter domain id => exact .inl h
  | askLink domain l => exact .inl h

/-- **Where rings come from.** Let anything happen to an editor that starts out empty. The canvas is
a forest, unless at some point, when it still was one, a user has plugged a block into one that is
inside it, and it fitted. Where nobody listens, this is just what closes a ring; a session that
listens may undo it. -/
theorem ring_origin (hids : Function.Injective ids) {workspace : String} {settings : Settings}
    (h : Reach ids (start workspace settings) (fun _ => True) e) :
    (Forest e.workspace.canvas ∨
      ∃ before child parent input,
        Reach ids (start workspace settings) (fun _ => True) before ∧
        Forest before.workspace.canvas ∧ Fits before.workspace.canvas child parent input ∧
        before.workspace.canvas.Inside parent child ∧
        Reach ids (before.perform ids (.connect child parent input)).1 (fun _ => True) e) ∧
    ∀ child parent input, e.workspace.listeners = [] → Forest e.workspace.canvas →
      (Forest (e.perform ids (.connect child parent input)).1.workspace.canvas ↔
        ¬ (Fits e.workspace.canvas child parent input ∧
          e.workspace.canvas.Inside parent child)) := by
  constructor
  · induction h with
    | start => exact .inl forest_empty
    | @act e a hreach _ ih =>
      rcases ih with hforest | ⟨before, child, parent, input, hbefore, hforest, hfits, hin, hafter⟩
      · rcases forest_act hids (hreach.coherent hids .empty) hforest a with
          hkept | ⟨child, parent, input, he, hfits, hin⟩
        · exact .inl hkept
        · exact .inr ⟨e, child, parent, input, hreach, hforest, hfits, hin, he ▸ .start⟩
      · exact .inr ⟨before, child, parent, input, hbefore, hforest, hfits, hin,
          hafter.act a trivial⟩
  · intro child parent input hl hforest
    constructor
    · rintro hkept ⟨hfits, hin⟩
      exact hkept child
        (connect_ring_of_nobody hl (h.coherent hids .empty) hforest hfits hin)
    · exact fun hin => forest_connect hforest fun hfits hinside => hin ⟨hfits, hinside⟩

/-- Two attribute getters: the first is plugged into the second, and then the second into the
first. -/
theorem ring_origin_two_getters :
    let made : Editor := [.edit (.create getAttributeType none),
      .edit (.create getAttributeType none)].foldl (act strokes) (start "harbour" {})
    let nested := made.perform strokes (.connect "|" "||" documentInput)
    let ring := nested.1.perform strokes (.connect "||" "|" documentInput)
    Forest nested.1.workspace.canvas ∧ nested.1.workspace.canvas.Inside "|" "||" ∧
      ring.2 = .ok () ∧ ¬ Forest ring.1.workspace.canvas := by
  intro made nested ring
  have hmade : Reach strokes (start "harbour" {}) (fun _ => True) made :=
    Reach.run _ fun _ _ => trivial
  have hnested : Reach strokes (start "harbour" {}) (fun _ => True) nested.1 :=
    hmade.act (.edit (.connect "|" "||" documentInput)) trivial
  -- at first nothing is plugged in at all
  have hplug : ∀ id ∈ made.workspace.canvas.blocks.keys,
      made.workspace.canvas.plug? id = none := by decide +kernel
  have hfree : ∀ id, made.workspace.canvas.plug? id = none := by
    intro id
    by_cases hid : id ∈ made.workspace.canvas.blocks.keys
    · exact hplug id hid
    · rw [plug?_eq_bind, block?, Table.get?_eq_none_iff.mpr hid]
      rfl
  have hnot : ∀ {a b}, ¬ made.workspace.canvas.Inside a b := by
    intro a b hin
    obtain ⟨plug, hp⟩ := hin.plug
    rw [hfree] at hp
    cases hp
  have hforest : Forest nested.1.workspace.canvas :=
    ((ring_origin strokes_injective hmade).2 "|" "||" documentInput (by decide +kernel)
      fun _ => hnot).mpr fun hand => hnot hand.2
  have hin : nested.1.workspace.canvas.Inside "|" "||" := .single (by decide +kernel)
  have hfits : Fits nested.1.workspace.canvas "||" "|" documentInput :=
    (approve_eq_ok_iff.mp (by decide +kernel :
      approve nested.1.workspace.canvas "||" "|" documentInput = .ok none)).1
  refine ⟨hforest, hin, by decide +kernel, fun hkept => ?_⟩
  exact ((ring_origin strokes_injective hnested).2 "||" "|" documentInput (by decide +kernel)
    hforest).mp hkept ⟨hfits, hin⟩

/-- In session, no loop is ever plugged in: it has no output, so it fits no input. -/
theorem Reach.loopsFree {p : Propagator} (hids : Function.Injective ids) {workspace : String}
    {settings : Settings} (h : Reach ids (startWith ids workspace settings p) Act.ByUser e) :
    LoopsFree e.workspace.canvas := by
  have hstart : LoopsFree (startWith ids workspace settings p).workspace.canvas := .of_blank
    fun id => congrArg (·.get? id) (Session.attach_blocks ids (Workspace.empty workspace) p).1
  exact hstart.steps hids (h.steps hids)

/-- **What closes a ring in session**: a block is plugged into one that is inside it, unless that is
a link which holds a document. The link is reset then, and pulled out of what it is in. -/
theorem ring_in_session {p : Propagator} (hids : Function.Injective ids) {workspace : String}
    {settings : Settings} (h : Reach ids (startWith ids workspace settings p) Act.ByUser e)
    (hforest : Forest e.workspace.canvas) (child parent input : String) :
    Forest (e.perform ids (.connect child parent input)).1.workspace.canvas ↔
      ¬ (Fits e.workspace.canvas child parent input ∧
        e.workspace.canvas.Inside parent child ∧
        ∀ occupant f, e.workspace.canvas.target? parent input = some occupant →
          (e.workspace.canvas.tag occupant).isDocument = true →
          e.workspace.canvas.frame? parent = some f → Tag.isLinkType f.type = false) :=
  (h.inOrder hids).attended.forest_connect_iff hforest (h.loopsFree hids)

end Editor

end TypedBlocks
