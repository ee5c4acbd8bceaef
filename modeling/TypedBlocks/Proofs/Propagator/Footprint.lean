import TypedBlocks.Proofs.Propagator.Rules

/-!
# The footprint of an event

How far the response to an event reaches. `Effect` lists all that one event can come to where the
wiring is in order; each of them writes on the block that the event names as its parent, and on one
more block at most, to which that parent was connected. `Footprint` is what all of them have in
common:

* blocks and variables stay, and a variable changes its type only when a loop is bound;
* no connection is made, and one is undone at most, at both of its ends (`Severed`);
* a block that differs is the parent, or was plugged into it, or held it;
* a block moves just if it is the parent and has lost its own place, and then it is a link that was
  reset.

The rule for disconnections applies itself to the holder of a link that was reset.
`releaseLink_hands_on` says why that goes no further: by then the link is no document.
-/

namespace TypedBlocks

open Canvas Definition

namespace Canvas

variable {c c' : Canvas}

/-- The position of a block. -/
def position? (c : Canvas) (id : String) : Option (Float × Float) :=
  (c.block? id).map Block.position

/-- Pulling a block out changes that block and the one that it is pulled out of, and no other. -/
theorem block?_detach_ne {child other : String} {plug : Plug} (hchild : other ≠ child)
    (hplug : other ≠ plug.block) : (c.detach child plug).block? other = c.block? other := by
  rw [detach, block?_modify_ne hplug, block?_modify_ne hchild]

/-- Clearing an attribute getter changes that getter, and no other block. -/
theorem block?_cleared_ne {id other : String} (h : other ≠ id) :
    (c.cleared id).block? other = c.block? other := by
  rw [cleared]
  split
  · exact block?_modify_ne h _
  · rfl

theorem position?_modify {id other : String} {change : Block → Block}
    (h : ∀ b, (change b).position = b.position) :
    (c.modify id change).position? other = c.position? other := map_block?_modify h

theorem position?_detach (child other : String) (plug : Plug) :
    (c.detach child plug).position? other = c.position? other := by
  rw [detach, position?_modify, position?_modify] <;> exact fun _ => rfl

theorem position?_cleared (id other : String) :
    (c.cleared id).position? other = c.position? other := by
  rw [cleared]
  split
  · exact position?_modify fun _ => rfl
  · rfl

/-- Moving a block adds to its position, and moves no other. -/
theorem position?_shift (id other : String) (dx dy : Float) :
    (c.shift id dx dy).position? other =
      if other = id then (c.position? other).map fun at_ => (at_.1 + dx, at_.2 + dy)
      else c.position? other := by
  rw [position?, shift, block?_modify]
  split
  · simp [position?, Function.comp_def]
  · rfl

theorem keys_modify (id : String) (change : Block → Block) :
    (c.modify id change).blocks.keys = c.blocks.keys := Table.keys_modify ..

theorem keys_cleared (id : String) : (c.cleared id).blocks.keys = c.blocks.keys := by
  rw [cleared]
  split
  · exact keys_modify ..
  · rfl

theorem drawn_cleared (id : String) : (c.cleared id).drawn = c.drawn := by
  rw [cleared]
  split <;> rfl

/-- Retyping changes nothing, or the type of one variable. -/
theorem retype_split (id type : String) (vars : List Variable) :
    retype id type vars = vars ∨ ∃ before v after, vars = before ++ v :: after ∧
      retype id type vars = before ++ { v with type } :: after := by
  induction vars with
  | nil => exact .inl rfl
  | cons v rest ih =>
    by_cases hv : v.id = id
    · exact .inr ⟨[], v, rest, rfl, by simp [retype, hv]⟩
    · rcases ih with hsame | ⟨before, w, after, hvars, hretyped⟩
      · exact .inl (by simp [retype, hv, hsame])
      · refine .inr ⟨v :: before, w, after, by rw [hvars, List.cons_append], ?_⟩
        rw [retype, if_neg hv, hretyped, List.cons_append]

/-! ## Undoing connections -/

/-- The connections of `c'` are those of `c`, or those less the one of `child`, which is gone at
both ends. -/
inductive Severed (c c' : Canvas) : Prop where
  /-- all connections are as they were -/
  | none (plug : ∀ id, c'.plug? id = c.plug? id)
      (target : ∀ block input, c'.target? block input = c.target? block input)
  /-- one connection is undone -/
  | one (child : String) (at_ : Plug) (held : c.plug? child = some at_)
      (plug : ∀ id, c'.plug? id = if id = child then Option.none else c.plug? id)
      (target : ∀ block input, c'.target? block input =
        if block = at_.block ∧ input = at_.input then Option.none else c.target? block input)

namespace Severed

theorem refl (c : Canvas) : Severed c c := .none (fun _ => rfl) fun _ _ => rfl

/-- Pulling one block out severs one connection: one plug and the input that it was in. -/
theorem of_detach {child : String} {plug : Plug} (hp : c.plug? child = some plug) :
    Severed c (c.detach child plug) :=
  .one child plug hp (plug?_detach child plug) (target?_detach child plug)

/-- No connection is made. -/
theorem plug_some (h : Severed c c') {id : String} {plug : Plug} (hp : c'.plug? id = some plug) :
    c.plug? id = some plug := by
  cases h with
  | none hplug _ => exact (hplug id).symm.trans hp
  | one child _ _ hplug _ =>
    rw [hplug] at hp
    split at hp
    · cases hp
    · exact hp

/-- Two blocks that have lost their place are one. -/
theorem unique (h : Severed c c') {id id' : String} (hid : c'.plug? id ≠ c.plug? id)
    (hid' : c'.plug? id' ≠ c.plug? id') : id = id' := by
  cases h with
  | none hplug _ => exact absurd (hplug id) hid
  | one child _ _ hplug _ =>
    have hchild : ∀ id, c'.plug? id ≠ c.plug? id → id = child := by
      intro id hne
      by_contra ho
      exact hne (by rw [hplug, if_neg ho])
    rw [hchild id hid, hchild id' hid']

end Severed

end Canvas

/-- The block that a change names as the parent. -/
def Change.parent? : Change → Option String
  | .connected parent => some parent
  | .disconnected parent => some parent
  | .other => none

namespace Propagator

variable {p : Propagator} {c c' : Canvas} {change : Change}

/-! ## What an event can come to -/

/-- What one event can come to on a canvas whose wiring is in order. -/
inductive Effect (p : Propagator) (c : Canvas) : Change → Canvas → Prop where
  /-- nothing -/
  | idle (change : Change) : Effect p c change c
  /-- a link is given an output -/
  | orient {link : String} {f : Frame} (hf : c.frame? link = some f)
      (hlink : Tag.isLinkType f.type = true) (tag : Tag) :
      Effect p c (.connected link) (c.emit link tag)
  /-- a block is pulled out of its parent -/
  | expel {parent input child : String} (hne : child ≠ parent)
      (hp : c.plug? child = some ⟨parent, input⟩) :
      Effect p c (.connected parent) (c.detach child ⟨parent, input⟩)
  /-- the variable of a loop is given a type -/
  | bind {loop : String} {f : Frame} (hf : c.frame? loop = some f) (hloop : f.type = foreachType)
      (id type : String) : Effect p c (.connected loop) (c.retyped id type)
  /-- a dropdown is filled -/
  | fill (getter : String) (field : Field) :
      Effect p c (.connected getter) (c.write getter attributeField field)
  /-- a dropdown is emptied -/
  | clear (getter : String) : Effect p c (.disconnected getter) (c.cleared getter)
  /-- a link that nothing holds is reset -/
  | reset {link : String} {f : Frame} (hf : c.frame? link = some f)
      (hlink : Tag.isLinkType f.type = true) :
      Effect p c (.disconnected link) (c.emit link .unknown)
  /-- a link is reset and leaves its holder, whose dropdown is emptied -/
  | release {link : String} {f : Frame} {plug : Plug} (hf : c.frame? link = some f)
      (hlink : Tag.isLinkType f.type = true) (hp : c.plug? link = some plug) :
      Effect p c (.disconnected link)
        ((((c.emit link .unknown).detach link plug).shift link p.snapRadius
          p.snapRadius).cleared plug.block)

/-- What an input held is thrown out of it, or it held nothing. -/
theorem effect_expel (hw : c.Wired) (parent input : String) (reason : Mismatch) :
    Effect p c (.connected parent) (expel c parent input reason).canvas := by
  rw [expel_canvas hw]
  cases ht : c.target? parent input with
  | none => exact .idle _
  | some child =>
    have hp := hw.plug_iff.mpr ht
    exact .expel (hw.ne_of_plug hp) hp

/-- **What the rule for connections does to a canvas** is one of the effects: a connection is
undone, a link is given an output, a variable is retyped, or a dropdown is written. -/
theorem effect_connect (hw : c.Wired) (p : Propagator) (child parent : String) :
    Effect p c (.connected parent) (p.afterConnect c child parent).canvas := by
  rcases p.afterConnect_cases c child parent with he | ⟨f, hf, hcase⟩
  · rw [he]
    exact .idle _
  · rcases hcase with ⟨collection, hlink, -, he⟩ | ⟨hloop, -, he⟩ | ⟨collection, -, -, he⟩
    · rw [he, orientLink]
      cases (Tag.ofText f.type).across? collection with
      | some other =>
        simp only [setOutputTag_eq_ok (isSome_of_frame? hf), Outcome.ofResult]
        exact .orient hf hlink _
      | none => exact effect_expel hw ..
    · rw [he]
      cases hlist : (c.tag child).isDocumentArray with
      | true =>
        obtain ⟨collection, hdocs⟩ := Tag.isDocumentArray_iff.mp hlist
        rw [hdocs, bindLoop_documentArray]
        split
        · exact .idle _
        · split
          · exact .idle _
          · exact .bind hf hloop ..
      | false =>
        rw [bindLoop_eq_expel c parent hlist]
        exact effect_expel hw ..
    · rw [he, fillAttributes_canvas]
      split
      · exact .idle _
      · split
        · exact .idle _
        · exact .fill ..

/-- **What the rule for disconnections does to a canvas** is one of the effects: a dropdown is
cleared, or a link is reset, pulled out and moved, and the block that held it is cleared. -/
theorem effect_disconnect (p : Propagator) (c : Canvas) (child parent : String) :
    Effect p c (.disconnected parent) (p.afterDisconnect c child parent).canvas := by
  rcases p.afterDisconnect_cases c child parent with
    he | he | ⟨f, hf, hlink, ⟨-, he⟩ | ⟨plug, hp, he⟩⟩
  · rw [he]
    exact .idle _
  · rw [he]
    exact .clear parent
  · rw [he]
    exact .reset hf hlink
  · rw [he]
    exact .release hf hlink hp

/-- **An event comes to one of the effects**, on any canvas whose wiring is in order, whether or not
what it says is so. -/
theorem respond_effect (hw : c.Wired) (p : Propagator) (event : Event) :
    Effect p c event.change (p.respond c event).canvas := by
  rw [respond]
  cases event.change with
  | connected parent => exact effect_connect hw p ..
  | disconnected parent => exact effect_disconnect p c ..
  | other => exact .idle _

/-! ## What they have in common -/

namespace Effect

theorem keys (h : Effect p c change c') : c'.blocks.keys = c.blocks.keys := by
  cases h with
  | clear | release => simp [keys_cleared, shift, detach, emit, Canvas.keys_modify]
  | bind => rfl
  | _ => simp [emit, write, detach, Canvas.keys_modify]

/-- Every effect severs one connection at most. By cases on the effect: the two that sever one pull
one block out of one input. -/
theorem severed (h : Effect p c change c') : Severed c c' := by
  cases h with
  | idle => exact .refl c
  | orient | reset => exact .none (fun _ => plug?_emit ..) fun _ _ => target?_emit ..
  | expel _ hp => exact .of_detach hp
  | bind => exact .none (fun _ => rfl) fun _ _ => rfl
  | fill => exact .none (fun _ => plug?_write ..) fun _ _ => target?_write ..
  | clear getter => exact .none (plug?_cleared c getter) (target?_cleared c getter)
  | release hf hlink hp =>
    refine .one _ _ hp (fun id => ?_) fun block input => ?_
    · rw [plug?_cleared, plug?_shift, plug?_detach, plug?_emit]
    · rw [target?_cleared, target?_shift, target?_detach, target?_emit]

theorem drawn (h : Effect p c change c') : c'.drawn = c.drawn := by
  cases h with
  | clear | release => exact drawn_cleared ..
  | _ => rfl

/-- No effect makes a variable, removes one or calls one by another name. -/
theorem names (h : Effect p c change c') :
    c'.vars.map (fun v => (v.id, v.name)) = c.vars.map fun v => (v.id, v.name) := by
  cases h with
  | bind => exact map_retype (fun _ _ => rfl) ..
  | clear => rw [vars_cleared]
  | release =>
    rw [vars_cleared]
    rfl
  | _ => rfl

/-- At most one variable is retyped, and only when something is connected to a loop. It keeps its
id, its name and its place among the others. -/
theorem retyped (h : Effect p c change c') :
    c'.vars = c.vars ∨ ∃ loop f, change = .connected loop ∧ c.frame? loop = some f ∧
      f.type = foreachType ∧ ∃ before v after type, c.vars = before ++ v :: after ∧
        c'.vars = before ++ { v with type } :: after := by
  cases h with
  | @bind loop f hf hloop id type =>
    rcases retype_split id type c.vars with hsame | ⟨before, v, after, hvars, hretyped⟩
    · exact .inl hsame
    · exact .inr ⟨loop, f, rfl, hf, hloop, before, v, after, type, hvars, hretyped⟩
  | clear | release => exact .inl (vars_cleared ..)
  | _ => exact .inl rfl

/-- No output changes but that of the parent. -/
theorem output (h : Effect p c change c') {id : String} (hid : change.parent? ≠ some id) :
    c'.output? id = c.output? id := by
  have hne : ∀ {parent}, some parent ≠ some id → id ≠ parent := fun hid he => hid (he ▸ rfl)
  cases h with
  | orient | reset => rw [output?_emit, if_neg (hne hid)]
  | expel => exact output?_detach ..
  | fill => exact output?_write ..
  | clear => exact output?_cleared ..
  | release =>
    rw [output?_cleared, output?_shift, output?_detach, output?_emit, if_neg (hne hid)]
  | _ => rfl

/-- What differs is the parent, or was plugged into it, or held it: it was thrown out of a parent
that something was connected to, or held a link that something was pulled out of. -/
theorem differs (h : Effect p c change c') {id : String} (hid : change.parent? ≠ some id)
    (hdiffers : c'.block? id ≠ c.block? id) :
    (∃ parent input, change = .connected parent ∧ c.plug? id = some ⟨parent, input⟩ ∧
      c'.plug? id = none) ∨
    ∃ parent input, change = .disconnected parent ∧ c.plug? parent = some ⟨id, input⟩ := by
  have hne : ∀ {parent}, some parent ≠ some id → id ≠ parent := fun hid he => hid (he ▸ rfl)
  cases h with
  | orient | reset => exact absurd (block?_modify_ne (hne hid) _) hdiffers
  | fill => exact absurd (block?_modify_ne (hne hid) _) hdiffers
  | clear => exact absurd (block?_cleared_ne (hne hid)) hdiffers
  | idle | bind => exact absurd rfl hdiffers
  | @expel parent input child _ hp =>
    by_cases he : id = child
    · rw [he]
      exact .inl ⟨parent, input, rfl, hp, by rw [plug?_detach, if_pos rfl]⟩
    · refine absurd ?_ hdiffers
      exact block?_detach_ne he (hne hid)
  | @release link f plug _ _ hp =>
    by_cases he : id = plug.block
    · exact .inr ⟨link, plug.input, rfl, he ▸ hp⟩
    · refine absurd ?_ hdiffers
      rw [block?_cleared_ne he, shift, block?_modify_ne (hne hid), block?_detach_ne (hne hid) he,
        emit, block?_modify_ne (hne hid)]

/-- Where the parent has lost its own place, it is a link that something was pulled out of. -/
theorem link_reset (h : Effect p c change c') {id : String} (hid : change.parent? = some id)
    (hplug : c'.plug? id ≠ c.plug? id) :
    change = .disconnected id ∧ ∃ f, c.frame? id = some f ∧ Tag.isLinkType f.type = true := by
  cases h with
  | idle | bind => exact absurd rfl hplug
  | orient | reset => exact absurd (plug?_emit ..) hplug
  | fill => exact absurd (plug?_write ..) hplug
  | clear => exact absurd (plug?_cleared ..) hplug
  | expel hne =>
    obtain rfl := Option.some.inj hid
    rw [plug?_detach, if_neg (Ne.symm hne)] at hplug
    exact absurd rfl hplug
  | release hf hlink =>
    obtain rfl := Option.some.inj hid
    exact ⟨rfl, _, hf, hlink⟩

/-- A block moves just if it is the parent and has lost its own place. It moves by the snap radius
then, in both directions. -/
theorem moved (h : Effect p c change c') (id : String) :
    c'.position? id =
      if change.parent? = some id ∧ c'.plug? id ≠ c.plug? id then
        (c.position? id).map fun at_ => (at_.1 + p.snapRadius, at_.2 + p.snapRadius)
      else c.position? id := by
  cases h with
  | idle | bind => exact (if_neg fun hand => hand.2 rfl).symm
  | orient | reset =>
    rw [if_neg fun hand => hand.2 (plug?_emit ..)]
    exact position?_modify fun _ => rfl
  | fill =>
    rw [if_neg fun hand => hand.2 (plug?_write ..)]
    exact position?_modify fun _ => rfl
  | clear =>
    rw [if_neg fun hand => hand.2 (plug?_cleared ..)]
    exact position?_cleared ..
  | expel hne =>
    rw [position?_detach, if_neg]
    rintro ⟨hid, hplug⟩
    obtain rfl := Option.some.inj hid
    rw [plug?_detach, if_neg (Ne.symm hne)] at hplug
    exact hplug rfl
  | @release link f plug hf hlink hp =>
    rw [position?_cleared, position?_shift, position?_detach, plug?_cleared, plug?_shift,
      plug?_detach, plug?_emit]
    have hemit : (c.emit link .unknown).position? id = c.position? id :=
      position?_modify fun _ => rfl
    by_cases he : id = link
    · subst he
      rw [if_pos rfl, if_pos rfl, hemit, if_pos ⟨rfl, by rw [hp]; nofun⟩]
    · rw [if_neg he, if_neg he, hemit, if_neg fun hand => hand.2 rfl]

end Effect

/-! ## The footprint -/

/-- How far the response to an event reaches: `change` is what the event says, and `c'` is what has
become of `c`. -/
structure Footprint (p : Propagator) (change : Change) (c c' : Canvas) : Prop where
  /-- no block comes or goes -/
  keys : c'.blocks.keys = c.blocks.keys
  /-- no id is drawn -/
  drawn : c'.drawn = c.drawn
  /-- no variable comes or goes or changes its place or name -/
  names : c'.vars.map (fun v => (v.id, v.name)) = c.vars.map fun v => (v.id, v.name)
  /-- one variable at most changes its type, if something was plugged into a loop -/
  retyped : c'.vars = c.vars ∨ ∃ loop f, change = .connected loop ∧ c.frame? loop = some f ∧
    f.type = foreachType ∧ ∃ before v after type, c.vars = before ++ v :: after ∧
      c'.vars = before ++ { v with type } :: after
  /-- one connection at most is undone, and none is made -/
  severed : Severed c c'
  /-- besides the parent, there may differ what was pulled out of it or what held it -/
  differs : ∀ id, change.parent? ≠ some id → c'.block? id ≠ c.block? id →
    (∃ parent input, change = .connected parent ∧ c.plug? id = some ⟨parent, input⟩ ∧
      c'.plug? id = none) ∨
    ∃ parent input, change = .disconnected parent ∧ c.plug? parent = some ⟨id, input⟩
  /-- besides the parent, one block differs at most -/
  single : ∀ id id', change.parent? ≠ some id → change.parent? ≠ some id' →
    c'.block? id ≠ c.block? id → c'.block? id' ≠ c.block? id' → id = id'
  /-- the parent has moved just if it has lost its own place, and nothing else has moved -/
  moved : ∀ id, c'.position? id =
    if change.parent? = some id ∧ c'.plug? id ≠ c.plug? id then
      (c.position? id).map fun at_ => (at_.1 + p.snapRadius, at_.2 + p.snapRadius)
    else c.position? id
  /-- then it is a link that something was pulled out of -/
  reset : ∀ id, change.parent? = some id → c'.plug? id ≠ c.plug? id →
    change = .disconnected id ∧ ∃ f, c.frame? id = some f ∧ Tag.isLinkType f.type = true
  /-- no further link is reset -/
  output : ∀ id, change.parent? ≠ some id → c'.output? id = c.output? id

/-- **No effect reaches further than a footprint**: at most one connection is undone, one link reset
and moved, one variable retyped, and only blocks that the change names are touched. -/
theorem Effect.footprint (h : Effect p c change c') : Footprint p change c c' where
  keys := h.keys
  drawn := h.drawn
  names := h.names
  retyped := h.retyped
  severed := h.severed
  differs _ := h.differs
  single := by
    intro id id' hid hid' hdiffers hdiffers'
    rcases h.differs hid hdiffers with ⟨parent, input, hchange, hp, hfree⟩ |
      ⟨parent, input, hchange, hp⟩
    · rcases h.differs hid' hdiffers' with ⟨_, _, _, hp', hfree'⟩ | ⟨_, _, hchange', _⟩
      · -- both have lost their place, but only one connection is undone
        exact h.severed.unique (by rw [hp, hfree]; nofun) (by rw [hp', hfree']; nofun)
      · rw [hchange] at hchange'
        cases hchange'
    · rcases h.differs hid' hdiffers' with ⟨_, _, hchange', _⟩ | ⟨_, _, hchange', hp'⟩
      · rw [hchange] at hchange'
        cases hchange'
      · -- both held the parent
        rw [hchange] at hchange'
        cases hchange'
        cases hp.symm.trans hp'
        rfl
  moved := h.moved
  reset _ := h.link_reset
  output _ := h.output

/-! ## Nested runs -/

/-- **A nested run resets no link.** Resetting a link hands nothing on, or it hands on, to whatever
comes `next`, that the link has left its holder. If that is the rule for disconnections again, it
changes no output, no connection and no position, and asks nothing further. -/
theorem releaseLink_hands_on (p : Propagator) (c : Canvas) (link : String) :
    (∀ next other, p.releaseLink next c link = p.releaseLink other c link) ∨
    ∃ plug c', c.plug? link = some plug ∧
      (∀ next, p.releaseLink next c link = next c' link plug.block) ∧
      (∀ next other, p.disconnectWith next c' link plug.block =
        p.disconnectWith other c' link plug.block) ∧
      ∀ next id, let c'' := (p.disconnectWith next c' link plug.block).canvas
        c''.output? id = c'.output? id ∧ c''.plug? id = c'.plug? id ∧
          c''.position? id = c'.position? id := by
  by_cases hidle : (c.tag link).isUnknown ∨ (c.target? link linkInput).isSome
  · left
    intro next other
    rw [releaseLink_of_idle next hidle, releaseLink_of_idle other hidle]
  rw [not_or, Bool.not_eq_true, Option.not_isSome_iff_eq_none] at hidle
  obtain ⟨htag, ht⟩ := hidle
  cases hp : c.plug? link with
  | none =>
    left
    intro next other
    rw [releaseLink_of_used next htag ht, releaseLink_of_used other htag ht, hp]
  | some plug =>
    refine .inr ⟨plug, ((c.emit link .unknown).detach link plug).shift link p.snapRadius
      p.snapRadius, rfl, fun next => ?_, ?_⟩
    · rw [releaseLink_of_used next htag ht, hp]
    · generalize hc' : ((c.emit link .unknown).detach link plug).shift link p.snapRadius
        p.snapRadius = c'
      have hplain : (c'.tag link).isDocument = false := by
        have hb : (c.block? link).isSome := isSome_of_tag fun he => by
          rw [he] at htag
          cases htag
        rw [← hc', tag_shift, tag_detach, tag_emit_self hb, Tag.ofText_text_unknown]
        rfl
      refine ⟨fun next other => p.disconnectWith_congr hplain next other _, fun next id => ?_⟩
      dsimp only
      rw [disconnectWith_of_plain next fun hdoc => absurd (hplain.symm.trans hdoc) nofun]
      exact ⟨output?_cleared .., plug?_cleared .., position?_cleared ..⟩

end Propagator

end TypedBlocks
