import TypedBlocks.Proofs.Canvas.Variables
import TypedBlocks.Proofs.Toolbox.Contents
import TypedBlocks.Session

/-!
# Taking blocks out of the toolbox

Opening a category makes the definitions of what it lists, so every block in it can be taken out
(`Workspace.take_eq`), and a getter is bound to the variable that it is listed with. What a category
lists is known exactly for every catalog that has only been asked for definitions, by whichever
editors and for whichever domains (`Catalog.toolbox_exact`); the domains need not be checked.
-/

namespace TypedBlocks

open Definition

variable {ids : IdSupply}

namespace Canvas

/-- A preset that is the id of a variable is what a picker is bound to. -/
theorem pickVariable_of_preset {c : Canvas} {id : String} {v : Variable}
    (hv : c.findVariable id = some v) (type : String) :
    c.pickVariable ids (some id) type = (v, c) := by
  rw [pickVariable, Option.bind_some, hv]

/-- **A new document getter is bound to what its picker picks.** -/
theorem build_documentGetter (c : Canvas) (collection : Collection) (colour : String)
    (preset : Option String) :
    (c.build ids (documentGetter collection colour) preset).1.fields.get? variableField =
        some ⟨(c.pickVariable ids preset (Tag.document collection.id).text).1.id, []⟩ ∧
      (c.build ids (documentGetter collection colour) preset).2 =
        (c.pickVariable ids preset (Tag.document collection.id).text).2 :=
  ⟨rfl, rfl⟩

/-- A block of a type that the catalog has a definition of can be made. -/
theorem create_of_definition? {c : Canvas} {catalog : Catalog} (h : catalog.Usable)
    {blockType : String} {d : Definition} (hd : catalog.definition? blockType = some d)
    (preset : Option String) :
    c.create ids catalog blockType preset =
      .ok (ids c.drawn, ((c.draw ids).2.build ids d preset).2.add (ids c.drawn)
        ((c.draw ids).2.build ids d preset).1) := by
  rw [create, h.shared]
  simp only [bind, Except.bind, hd]
  rfl

end Canvas

/-- Taking a block out of the toolbox makes it. -/
theorem Workspace.take_eq {w : Workspace} {catalog : Catalog} (h : catalog.Usable)
    {blockType : String} {d : Definition} (hd : catalog.definition? blockType = some d)
    (preset : Option Variable) :
    w.take ids catalog (.block blockType preset) =
      .ok (some (ids w.canvas.drawn), { w with
        canvas := ((w.canvas.draw ids).2.build ids d (preset.map (·.id))).2.add (ids w.canvas.drawn)
          ((w.canvas.draw ids).2.build ids d (preset.map (·.id))).1 }) := by
  rw [take, create, Canvas.create_of_definition? h hd]

namespace Catalog

variable {c : Catalog} {key : Key}

/-- A definition under a proper key is found by the block type of the key. -/
theorem Usable.definition? (h : c.Usable) (hb : c.Binds key) (hkey : key.Proper) :
    ∃ d, c.definition? key.blockType = some d ∧ Made key d := by
  obtain ⟨d, hd⟩ := Option.isSome_iff_exists.mp hb
  refine ⟨d, ?_, h.sound key d hd⟩
  rw [Catalog.definition?, hkey.ofBlockType?]
  exact hd

/-- The key of a link under which there is a definition is proper. -/
theorem Usable.proper_link (h : c.Usable) {a b : String} (hb : c.Binds (.ofPair a b)) :
    (Key.ofPair a b).Proper := by
  obtain ⟨d, hd⟩ := Option.isSome_iff_exists.mp hb
  have hmade := h.sound _ d hd
  generalize hkey : Key.ofPair a b = key at hmade
  cases hmade with
  | foreach => exact .foreach
  | getAttribute => exact .getAttribute
  | collection collection colour =>
    rcases Key.ofPair_cases a b with he | he <;> cases he.symm.trans hkey
  | link l hfirst hsecond => exact .link hfirst hsecond

/-- The key of a link that is offered is proper. -/
theorem Usable.proper_of_offers (h : c.Usable) {domain : Domain} {l : LinkType}
    (hoffer : c.Offers (.link domain l)) :
    (Key.ofPair l.collections.1 l.collections.2).Proper :=
  hoffer.elim h.proper_link fun hmake => .link hmake.1.1 hmake.1.2

/-- What is offered is bound once it was asked for. -/
theorem binds_of_mem {requests : List Request} {r : Request} (hr : r ∈ requests)
    (h : c.Offers r) : (requests.foldl serve c).Binds r.key :=
  binds_foldl_serve.mpr (h.imp_right fun hmake => ⟨r, hr, rfl, hmake⟩)

end Catalog

/-! ## Entries and the blocks they stand for -/

/-- A block that is as an entry says: it has the type, and if the entry comes with a variable, it
names that variable and puts out what the variable holds. A gap is no block. -/
def Toolbox.Item.Describes (b : Block) : Toolbox.Item → Prop
  | .block blockType preset =>
    b.type = blockType ∧ ∀ v ∈ preset,
      b.fields.get? variableField = some ⟨v.id, []⟩ ∧ b.outputCheck = some [v.type]
  | .separator _ => False

/-- Every entry that is not a gap can be taken out, and gives a new block that is as it says. -/
def Workspace.Yields (w : Workspace) (catalog : Catalog) (items : List Toolbox.Item) : Prop :=
  ∀ item ∈ items, (∃ gap, item = .separator gap) ∨
    ∀ ids : IdSupply, ∃ made b,
      w.take ids catalog item = .ok (some (ids w.canvas.drawn), made) ∧
      made.canvas.block? (ids w.canvas.drawn) = some b ∧ item.Describes b

namespace Workspace

variable {c : Catalog} {key : Key} {w : Workspace}

/-- An entry without a variable gives a block of its type, made of the definition under the key. -/
theorem describes_of_binds (h : c.Usable) (hb : c.Binds key) (hkey : key.Proper) (w : Workspace)
    (ids : IdSupply) :
    ∃ made b, w.take ids c (.block key.blockType none) = .ok (some (ids w.canvas.drawn), made) ∧
      made.canvas.block? (ids w.canvas.drawn) = some b ∧
      (Toolbox.Item.block key.blockType none).Describes b := by
  obtain ⟨d, hd, hmade⟩ := h.definition? hb hkey
  refine ⟨_, _, take_eq h hd none, (Canvas.block?_add ..).trans (if_pos rfl), ?_⟩
  exact ⟨hmade.blockType, nofun⟩

/-- **An entry with a variable gives a getter that is bound to it**, if the variable is there and
its type is what the getter puts out. -/
theorem describes_of_variable (h : c.Usable) {id : String} (hb : c.Binds (.collection id))
    {v : Variable} (hv : v ∈ w.canvas.vars) (htype : Tag.ofText v.type = .document id)
    (ids : IdSupply) :
    ∃ made b, w.take ids c (.block (getterType id) (some v)) =
        .ok (some (ids w.canvas.drawn), made) ∧
      made.canvas.block? (ids w.canvas.drawn) = some b ∧
      (Toolbox.Item.block (getterType id) (some v)).Describes b := by
  have hid : id ≠ "" := (htype ▸ Tag.canonical_ofText v.type : (Tag.document id).Canonical)
  have htext : (Tag.document id).text = v.type := by
    rw [← htype]
    exact Tag.text_ofText (htype ▸ nofun)
  obtain ⟨d, hd, hmade⟩ := h.definition? hb (.collection hid)
  obtain ⟨found, hfound⟩ := Option.isSome_iff_exists.mp (Canvas.findVariable_isSome hv)
  refine ⟨_, _, take_eq h hd (some v), (Canvas.block?_add ..).trans (if_pos rfl), ?_⟩
  obtain ⟨-, collection, colour, rfl, rfl⟩ := hmade.of_getterType hmade.blockType
  refine ⟨rfl, fun v' hv' => ?_⟩
  obtain rfl : v = v' := Option.mem_some_iff.mp hv'
  refine ⟨?_, congrArg (fun text => some [text]) htext⟩
  have hpreset : (w.canvas.draw ids).2.findVariable v.id = some found := hfound
  rw [Option.map_some, (Canvas.build_documentGetter ..).1, Canvas.pickVariable_of_preset hpreset,
    (Canvas.mem_of_findVariable hfound).2]

end Workspace

namespace Propagator

variable (p : Propagator) {c : Catalog}

/-- Every document variable that is listed can be taken out, and so can the attribute getter. A
variable is listed after its definition was supplied, and that stays in the catalog. -/
theorem variableListing_yields (h : c.Usable) (hb : c.Binds .getAttribute) (w : Workspace) :
    w.Yields (p.variableListing c w.canvas.vars).catalog
      (p.variableListing c w.canvas.vars).items := by
  rw [p.variableListing_items h, p.variableListing_catalog h]
  have husable := h.foldl_serve (w.canvas.vars.filterMap p.variableRequest?)
  intro item hitem
  rcases List.mem_append.mp hitem with hitem | hitem
  · obtain ⟨v, hv, hitem⟩ := List.mem_filterMap.mp hitem
    rw [variableItem?] at hitem
    split at hitem
    · rename_i id htype
      split at hitem
      · rename_i hoffer
        cases hitem
        have hrequest : p.variableRequest? v = some (.getter p.domain id) := by
          rw [variableRequest?, htype]
        have hbound := Catalog.binds_of_mem (List.mem_filterMap.mpr ⟨v, hv, hrequest⟩) hoffer
        exact .inr (Workspace.describes_of_variable husable hbound hv htype)
      · cases hitem
    · cases hitem
  · rcases List.mem_pair.mp hitem with rfl | rfl
    · exact .inl ⟨_, rfl⟩
    · exact .inr (Workspace.describes_of_binds husable (Catalog.binds_foldl_serve.mpr (.inl hb))
        .getAttribute w)

/-- Every link that is listed can be taken out. -/
theorem linkListing_yields (h : c.Usable) (w : Workspace) :
    w.Yields (p.linkListing c).catalog (p.linkListing c).items := by
  rw [p.linkListing_items h, p.linkListing_catalog h]
  have husable := h.foldl_serve (p.domain.linkTypes.map (Request.link p.domain))
  intro item hitem
  obtain ⟨l, hl, hitem⟩ := List.mem_filterMap.mp (List.mem_eraseDups.mp hitem)
  rw [linkItem?] at hitem
  split at hitem
  · rename_i hoffer
    cases hitem
    have hbound := Catalog.binds_of_mem (List.mem_map_of_mem hl) hoffer
    exact .inr (Workspace.describes_of_binds husable hbound (husable.proper_link hbound) w)
  · cases hitem

/-- Opening the document variables again lists the same and changes nothing. All that can be
supplied has been supplied the first time. -/
theorem variableListing_again (h : c.Usable) (vars : List Variable) :
    (p.variableListing (p.variableListing c vars).catalog vars).items =
        (p.variableListing c vars).items ∧
      (p.variableListing (p.variableListing c vars).catalog vars).catalog =
        (p.variableListing c vars).catalog := by
  rw [p.variableListing_catalog h]
  have husable := h.foldl_serve (vars.filterMap p.variableRequest?)
  rw [p.variableListing_items husable, p.variableListing_items h, p.variableListing_catalog husable]
  refine ⟨?_, Catalog.foldl_serve_again ..⟩
  congr 2
  funext v
  refine p.variableItem?_congr fun id _ => Catalog.offers_foldl_serve fun r hr => ?_
  obtain ⟨v', -, hr⟩ := List.mem_filterMap.mp hr
  exact p.variableRequest?_domain hr

/-- Opening the links again lists the same and changes nothing. -/
theorem linkListing_again (h : c.Usable) :
    (p.linkListing (p.linkListing c).catalog).items = (p.linkListing c).items ∧
      (p.linkListing (p.linkListing c).catalog).catalog = (p.linkListing c).catalog := by
  rw [p.linkListing_catalog h]
  have husable := h.foldl_serve (p.domain.linkTypes.map (Request.link p.domain))
  rw [p.linkListing_items husable, p.linkListing_items h, p.linkListing_catalog husable]
  refine ⟨?_, Catalog.foldl_serve_again ..⟩
  congr 2
  funext l
  refine p.linkItem?_congr (Catalog.offers_foldl_serve fun r hr => ?_)
  obtain ⟨l', -, rfl⟩ := List.mem_map.mp hr
  rfl

end Propagator

/-- **What the toolbox lists, whatever a catalog was asked for before**, by whichever editors and
for whichever domains. The document variables are those whose getter is there or can be made, in the
order of the variables, and behind a gap the attribute getter; the links are the blocks of the link
types for which there is a block or can be made one, each where it comes up first. Once a category
was opened, every block in it can be taken out and is as listed, and opening it again lists the same
and leaves the catalog as it is. -/
theorem Catalog.toolbox_exact (shade : Float) (requests : List Request) (p : Propagator)
    (w : Workspace) :
    let c := requests.foldl serve (initial shade)
    (p.variableListing c w.canvas.vars).items =
      w.canvas.vars.filterMap (p.variableItem? c) ++
        [.separator 48, .block getAttributeType none] ∧
    (p.linkListing c).items = (p.domain.linkTypes.filterMap (p.linkItem? c)).eraseDups ∧
    ∀ category ∈ [Session.documentVariablesOf p, Session.linksOf p],
      let listing := category c w.canvas
      w.Yields listing.catalog listing.items ∧
      (category listing.catalog w.canvas).items = listing.items ∧
      (category listing.catalog w.canvas).catalog = listing.catalog := by
  intro c
  have husable : c.Usable := (Usable.initial shade).foldl_serve requests
  have hbound : c.Binds .getAttribute := binds_foldl_serve.mpr (.inl rfl)
  refine ⟨p.variableListing_items husable _, p.linkListing_items husable, fun category h => ?_⟩
  rcases List.mem_pair.mp h with rfl | rfl
  · exact ⟨p.variableListing_yields husable hbound w, p.variableListing_again husable _⟩
  · exact ⟨p.linkListing_yields husable w, p.linkListing_again husable⟩

/-- A getter of ports that another editor has asked for is listed where there are no ports. -/
theorem Catalog.toolbox_exact_foreign :
    let port : Variable := ⟨"p", "the port", "port_document"⟩
    let item : Toolbox.Item := .block "variables_get_port_document" (some port)
    let canvas : Canvas := { Canvas.empty with vars := [port] }
    let w : Workspace := { Workspace.empty "inland" with canvas }
    let inland : Propagator := { domain := {}, snapRadius := 28 }
    let listing := inland.variableListing ((initial 0).serve (.getter .harbour "port")) [port]
    item ∈ listing.items ∧ ∃ made b,
      w.take strokes listing.catalog item = .ok (some "|", made) ∧
        made.canvas.block? "|" = some b ∧ item.Describes b := by
  intro port item canvas w inland listing
  obtain ⟨hitems, -, hopened⟩ := toolbox_exact 0 [.getter .harbour "port"] inland w
  obtain ⟨hyields, -⟩ := hopened (Session.documentVariablesOf inland) (by simp)
  have hmem : item ∈ listing.items := by
    rw [show listing.items = _ from hitems]
    decide +kernel
  rcases hyields item hmem with ⟨gap, hgap⟩ | htaken
  · exact absurd hgap (by simp [item])
  · exact ⟨hmem, htaken strokes⟩

end TypedBlocks
