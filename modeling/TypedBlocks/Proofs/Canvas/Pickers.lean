import TypedBlocks.Proofs.Canvas.Names
import TypedBlocks.Proofs.Toolbox.Taking

/-!
# What pickers are bound to

Variables are never lost, renamed or put in another order, and no two of them have one name: this is
`Retains`, for amendments and new blocks alike.

A picker that is preset to no variable is bound all the same. For a getter the first variable of its
type will do, and a loop gets a variable of its own. A variable that has to be made for it comes
behind all others, under a name that none of them has, so what is bound is that variable and not one
that happened to be called the same (`pickVariable_new`). `Picks` says all that can happen, by the
type of the block, and `create_unset` that making a block does as it says.
-/

namespace TypedBlocks.Canvas

open Definition

variable {ids : IdSupply} {c c' c'' : Canvas}

/-! ## Variables stay -/

/-- The ids and the names of the variables, in their order. Their types are left out, since a loop
may change them. -/
def roll (c : Canvas) : List (String × String) := c.vars.map fun v => (v.id, v.name)

/-- `c'` has the variables of `c` in their places, as they were called, and their names stay apart.
Their types may have changed. -/
structure Retains (c c' : Canvas) : Prop where
  stay : c.roll <+: c'.roll
  apart : (c.vars.map (·.name)).Nodup → (c'.vars.map (·.name)).Nodup

namespace Retains

theorem trans (h : Retains c c') (h' : Retains c' c'') : Retains c c'' :=
  ⟨h.stay.trans h'.stay, h'.apart ∘ h.apart⟩

theorem of_roll (h : c'.roll = c.roll) : Retains c c' where
  stay := h ▸ List.prefix_refl _
  apart := by
    have hnames : c'.vars.map (·.name) = c.vars.map (·.name) := by
      have hsnd := congrArg (List.map Prod.snd) h
      rwa [roll, roll, List.map_map, List.map_map] at hsnd
    rw [hnames]
    exact id

theorem of_vars (h : c'.vars = c.vars) : Retains c c' := of_roll (by rw [roll, roll, h])

theorem refl (c : Canvas) : Retains c c := of_vars rfl

/-- A variable is made only if its name is new. -/
theorem ensureVariable (c : Canvas) (name type : String) (id : Option String) :
    Retains c (c.ensureVariable ids name type id).2 := by
  unfold Canvas.ensureVariable
  split
  · exact .refl c
  · rename_i hnew
    have hname : name ∉ c.vars.map (·.name) := by
      intro hmem
      obtain ⟨v, hv, he⟩ := List.mem_map.mp hmem
      simpa [he] using List.find?_eq_none.mp hnew v hv
    have hadded : ∀ (added : Variable) (drawn : Nat), added.name = name →
        Retains c { c with vars := c.vars ++ [added], drawn } := by
      rintro added drawn rfl
      constructor
      · rw [roll, roll, List.map_append]
        exact List.prefix_append ..
      · intro hnodup
        rw [List.map_append, List.map_singleton]
        exact List.nodup_append.mpr ⟨hnodup, List.nodup_singleton _, fun other hother new h he =>
          hname (List.mem_singleton.mp h ▸ he ▸ hother)⟩
    cases id <;> exact hadded _ _ rfl

/-- **An amendment loses no variable.** -/
theorem of_apply {a : Amendment} (h : a.apply ids c = .ok c') : Retains c c' := by
  cases a with
  | ensureVariable name type id =>
    cases h
    exact ensureVariable ..
  | retypeVariable id type =>
    rw [Amendment.apply, retypeVariable] at h
    split at h
    · cases h
    · cases h
      exact of_roll (map_retype (fun _ _ => rfl) ..)
  | setOutputTag block tag =>
    obtain ⟨-, rfl⟩ := setOutputTag_eq_ok_iff.mp h
    exact of_vars rfl
  | pullOut block =>
    obtain ⟨plug, -, rfl⟩ := pullOut_eq_ok_iff.mp h
    exact of_vars rfl
  | clearInput block input =>
    obtain ⟨child, plug, -, -, rfl⟩ := clearInput_eq_ok_iff.mp h
    exact of_vars rfl
  | move block dx dy =>
    obtain ⟨-, rfl⟩ := move_eq_ok_iff.mp h
    exact of_vars rfl
  | setField block field value =>
    obtain ⟨-, rfl⟩ := modifyField_eq_ok_iff.mp h
    exact of_vars rfl
  | setChoices block field choices =>
    obtain ⟨-, rfl⟩ := modifyField_eq_ok_iff.mp h
    exact of_vars rfl

/-- Any number of amendments loses none. -/
theorem of_amended (h : Amended ids c c') : Retains c c' := by
  induction h with
  | refl => exact .refl c
  | amend a _ happly ih => exact ih.trans (of_apply happly)
  | draw _ ih => exact ih.trans (of_vars rfl)

theorem pickVariable (c : Canvas) (preset : Option String) (type : String) :
    Retains c (c.pickVariable ids preset type).2 := by
  rw [Canvas.pickVariable]
  split
  · exact .refl c
  · split
    · exact .refl c
    · exact ensureVariable ..

/-- **Making a block loses no variable.** -/
theorem create {catalog : Catalog} {blockType id : String} {preset : Option String}
    (h : c.create ids catalog blockType preset = .ok (id, c')) : Retains c c' := by
  obtain ⟨d, -, -, rfl⟩ := create_eq_ok h
  have hdrawn : Retains c (c.draw ids).2 := of_vars rfl
  have hbuilt : Retains c ((c.draw ids).2.build ids d preset).2 :=
    build_keeps (P := Retains c) (fun _ _ _ h => h.trans (pickVariable ..)) hdrawn d preset
  exact hbuilt.trans (.of_vars rfl)

end Retains

/-! ## Pickers without a preset -/

/-- The variable that is made for the picker of a new block. The block has drawn its own id by
then. -/
def newVariable (ids : IdSupply) (c : Canvas) (type : String) : Variable where
  id := ids (c.drawn + 1)
  name := freshName (c.vars.map (·.name))
  type := type

/-- A variable of a fresh name is made: none that there is can be taken for it. -/
theorem ensureVariable_freshName (ids : IdSupply) (c : Canvas) (type : String) :
    (c.ensureVariable ids (freshName (c.vars.map (·.name))) type none).1 =
        ⟨ids c.drawn, freshName (c.vars.map (·.name)), type⟩ ∧
      (c.ensureVariable ids (freshName (c.vars.map (·.name))) type none).2.vars =
        c.vars ++ [⟨ids c.drawn, freshName (c.vars.map (·.name)), type⟩] := by
  unfold ensureVariable
  rw [find?_freshName]
  exact ⟨rfl, rfl⟩

/-- What a picker is bound to if it is preset to no variable and there is one of its type. -/
theorem pickVariable_first {preset : Option String} (hpreset : preset.bind c.findVariable = none)
    {type : String} {v : Variable} (hne : type ≠ "") (hv : c.vars.find? (·.type = type) = some v) :
    c.pickVariable ids preset type = (v, c) := by
  rw [pickVariable, hpreset]
  simp only [if_neg hne, hv]

/-- **A picker is bound to a new variable** if it is preset to none and there is none of its type,
or no type that it wants. -/
theorem pickVariable_new (ids : IdSupply) {preset : Option String}
    (hpreset : preset.bind c.findVariable = none) {type : String}
    (h : type = "" ∨ c.vars.find? (·.type = type) = none) :
    ((c.draw ids).2.pickVariable ids preset type).1 = c.newVariable ids type ∧
      ((c.draw ids).2.pickVariable ids preset type).2.vars =
        c.vars ++ [c.newVariable ids type] := by
  -- drawing the id of the block has touched no variable
  have hunset : preset.bind (c.draw ids).2.findVariable = none := hpreset
  have hwanted : (if type = "" then none
      else (c.draw ids).2.vars.find? (·.type = type)) = none := by
    split
    · rfl
    · exact h.resolve_left ‹_›
  rw [pickVariable, hunset, hwanted]
  exact ensureVariable_freshName ids (c.draw ids).2 type

/-- What the picker of a getter is bound to if it is preset to no variable. -/
theorem pickVariable_document (ids : IdSupply) {preset : Option String}
    (hpreset : preset.bind c.findVariable = none) (id : String) :
    let type := (Tag.document id).text
    let picked := (c.draw ids).2.pickVariable ids preset type
    match c.vars.find? (·.type = type) with
    | some first => picked.1 = first ∧ picked.2.vars = c.vars
    | none => picked.1 = c.newVariable ids type ∧ picked.2.vars = c.vars ++ [picked.1] := by
  intro type picked
  cases hfind : c.vars.find? (·.type = type) with
  | some first =>
    have hfirst : picked = (first, (c.draw ids).2) :=
      pickVariable_first (c := (c.draw ids).2) hpreset (Tag.text_document_ne_empty id) hfind
    exact ⟨congrArg Prod.fst hfirst, congrArg (·.2.vars) hfirst⟩
  | none =>
    obtain ⟨hnew, hadded⟩ := pickVariable_new ids hpreset (.inr hfind)
    exact ⟨hnew, by rw [hadded, hnew]⟩

/-- How the picker of a new block `b` of a type is bound if it is preset to no variable of `c`, and
what becomes of the variables. -/
structure Picks (ids : IdSupply) (c : Canvas) (blockType : String) (b : Block) (c' : Canvas) :
    Prop where
  /-- a loop gets a variable of its own, of no type -/
  loop : blockType = foreachType →
    b.fields.get? variableField = some ⟨(c.newVariable ids "").id, []⟩ ∧
      c'.vars = c.vars ++ [c.newVariable ids ""]
  /-- a getter gets the first variable of its type, or a new one if there is none -/
  getter : ∀ id, blockType = getterType id → ∃ v,
    b.fields.get? variableField = some ⟨v.id, []⟩ ∧
      match c.vars.find? (·.type = (Tag.document id).text) with
      | some first => v = first ∧ c'.vars = c.vars
      | none => v = c.newVariable ids (Tag.document id).text ∧ c'.vars = c.vars ++ [v]
  /-- other blocks have no picker -/
  other : blockType ≠ foreachType → (∀ id, blockType ≠ getterType id) →
    b.fields.get? variableField = none ∧ c'.vars = c.vars

/-- What a picker is bound to is there. -/
theorem Picks.bound {blockType : String} {b : Block} (h : c.Picks ids blockType b c')
    {field : Field} (hfield : b.fields.get? variableField = some field) :
    ∃ v ∈ c'.vars, v.id = field.value := by
  by_cases hloop : blockType = foreachType
  · obtain ⟨hpicked, hvars⟩ := h.loop hloop
    obtain rfl := Option.some.inj (hpicked.symm.trans hfield)
    exact ⟨c.newVariable ids "", by simp [hvars], rfl⟩
  · by_cases hgetter : ∃ id, blockType = getterType id
    · obtain ⟨id, hgetter⟩ := hgetter
      obtain ⟨v, hpicked, hv⟩ := h.getter id hgetter
      obtain rfl := Option.some.inj (hpicked.symm.trans hfield)
      refine ⟨v, ?_, rfl⟩
      split at hv
      · rename_i first hfirst
        rw [hv.2, hv.1]
        exact List.mem_of_find?_eq_some hfirst
      · rw [hv.2]
        exact List.mem_append_right _ (List.mem_singleton.mpr rfl)
    · rw [(h.other hloop (not_exists.mp hgetter)).1] at hfield
      cases hfield

/-- A block that is made from a definition as its key says has its picker bound as its type says. -/
theorem picks_of_made {key : Key} {d : Definition} (hmade : Made key d) {blockType : String}
    (hread : Key.ofBlockType? blockType = some key) {preset : Option String}
    (hpreset : preset.bind c.findVariable = none)
    (hvars : c'.vars = ((c.draw ids).2.build ids d preset).2.vars) :
    c.Picks ids blockType ((c.draw ids).2.build ids d preset).1 c' := by
  -- the type of the block tells the kinds apart
  have hloop : blockType = foreachType → key = .foreach := by
    rintro rfl
    exact (Option.some.inj (Key.Proper.foreach.ofBlockType?.symm.trans hread)).symm
  have hgetter : ∀ id, blockType = getterType id → key = .collection id := by
    rintro id rfl
    have hread' := (Key.ofBlockType?_collection id).symm.trans hread
    split at hread'
    · cases hread'
    · exact (Option.some.inj hread').symm
  cases hmade with
  | foreach =>
    refine ⟨fun _ => ?_, fun id h => (nomatch hgetter id h), fun h => ?_⟩
    · obtain ⟨hnew, hadded⟩ := pickVariable_new ids hpreset (.inl rfl)
      exact ⟨congrArg (fun v : Variable => some (Field.mk v.id [])) hnew, hvars.trans hadded⟩
    · exact absurd (Key.eq_foreachType_of_ofBlockType? hread) h
  | getAttribute =>
    exact ⟨fun h => (nomatch hloop h), fun id h => (nomatch hgetter id h), fun _ _ => ⟨rfl, hvars⟩⟩
  | collection collection colour =>
    refine ⟨fun h => (nomatch hloop h), fun id h => ?_, fun _ h => ?_⟩
    · obtain rfl := Key.collection.inj (hgetter id h)
      have hpicked := pickVariable_document ids hpreset collection.id
      obtain ⟨hfield, hbuilt⟩ := build_documentGetter (c.draw ids).2 collection colour preset
      rw [hbuilt] at hvars
      exact ⟨_, hfield, by rwa [hvars]⟩
    · exact absurd (Key.eq_getterType_of_ofBlockType? hread) (h collection.id)
  | @link l first second hfirst hsecond =>
    obtain ⟨a, b, hlink⟩ : ∃ a b, Key.ofPair first.id second.id = .link a b :=
      (Key.ofPair_cases first.id second.id).elim (fun h => ⟨_, _, h⟩) fun h => ⟨_, _, h⟩
    rw [hlink] at hloop hgetter
    exact ⟨fun h => (nomatch hloop h), fun id h => (nomatch hgetter id h), fun _ _ => ⟨rfl, hvars⟩⟩

/-- **A block of a type that the catalog has can be made**, and its picker is bound as its type
says. -/
theorem create_unset (ids : IdSupply) {catalog : Catalog} (h : catalog.Usable)
    {blockType : String} {d : Definition} (hd : catalog.definition? blockType = some d)
    {preset : Option String} (hpreset : preset.bind c.findVariable = none) :
    ∃ b made, c.create ids catalog blockType preset = .ok (ids c.drawn, made) ∧
      made.block? (ids c.drawn) = some b ∧ c.Picks ids blockType b made := by
  obtain ⟨key, hread, hget⟩ := Option.bind_eq_some_iff.mp hd
  refine ⟨_, _, create_of_definition? h hd preset, (block?_add ..).trans (if_pos rfl), ?_⟩
  exact picks_of_made (h.sound key d hget) hread hpreset rfl

/-- A block of a type is made where its picker is preset to no variable, from a catalog that has
been asked for definitions and nothing else. -/
def MakesUnset (ids : IdSupply) (c : Canvas) (blockType : String) (b : Block) (c' : Canvas) :
    Prop :=
  ∃ (shade : Float) (requests : List Request) (preset : Option String),
    preset.bind c.findVariable = none ∧
    c.create ids (requests.foldl Catalog.serve (Catalog.initial shade)) blockType preset =
      .ok (ids c.drawn, c') ∧
    c'.block? (ids c.drawn) = some b

theorem MakesUnset.picks {blockType : String} {b : Block} (h : c.MakesUnset ids blockType b c') :
    c.Picks ids blockType b c' := by
  obtain ⟨shade, requests, preset, hpreset, hmade, hb⟩ := h
  obtain ⟨d, hd, -, -⟩ := create_eq_ok hmade
  obtain ⟨b', made, hmade', hb', hpicks⟩ := create_unset ids
    ((Catalog.Usable.initial shade).foldl_serve requests) hd hpreset
  obtain ⟨-, rfl⟩ := Prod.mk.inj (Except.ok.inj (hmade'.symm.trans hmade))
  obtain rfl := Option.some.inj (hb'.symm.trans hb)
  exact hpicks

/-- **Two loops name two variables**: the one of the first is still there when the second is made,
so a fresh id is not its id. -/
theorem Picks.loops_apart {b b' : Block} {made made' : Canvas}
    (h : c.Picks ids foreachType b made) (hkept : Retains made c')
    (hfresh : ∀ v ∈ c'.vars, v.id ≠ ids (c'.drawn + 1)) (h' : c'.Picks ids foreachType b' made') :
    b'.fields.get? variableField ≠ b.fields.get? variableField := by
  obtain ⟨hfield, hvars⟩ := h.loop rfl
  have hmem : ((c.newVariable ids "").id, (c.newVariable ids "").name) ∈ made.roll := by
    rw [roll, hvars]
    exact List.mem_map.mpr ⟨_, List.mem_append_right _ (List.mem_singleton.mpr rfl), rfl⟩
  obtain ⟨v, hv, hcalled⟩ := List.mem_map.mp (hkept.stay.subset hmem)
  rw [hfield, (h'.loop rfl).1]
  intro he
  have hid : ids (c'.drawn + 1) = (c.newVariable ids "").id :=
    congrArg Field.value (Option.some.inj he)
  exact hfresh v hv ((Prod.mk.inj hcalled).1.trans hid.symm)

end TypedBlocks.Canvas
