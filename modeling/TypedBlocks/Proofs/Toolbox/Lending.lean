import TypedBlocks.Proofs.Toolbox.Taking

/-!
# What one editor's toolbox lends to another's

A catalog that several editors share answers a request for a definition that is there whichever
domain it was made from. So a category lists what its own domain lets it make, and beyond that what
another editor has opened before (`offers_opened_iff`): the listing of a new catalog is not always
that of a shared one (`Catalog.listings_leak`). `Catalog.listings_lent` says when the two differ.
-/

namespace TypedBlocks

open Definition

/-- The opening of one of the two categories. -/
inductive Opening where
  /-- of the document variables, in a workspace that has these variables -/
  | documents (vars : List Variable)
  | links

namespace Propagator

open Catalog Toolbox

variable (p : Propagator) {c : Catalog}

/-- The catalog after a category was opened. -/
def opened (c : Catalog) : Opening → Catalog
  | .documents vars => (p.variableListing c vars).catalog
  | .links => (p.linkListing c).catalog

/-- What opening a category asks for. -/
def requests : Opening → List Request
  | .documents vars => vars.filterMap p.variableRequest?
  | .links => p.domain.linkTypes.map (Request.link p.domain)

/-- Opening categories is a run of requests. -/
theorem foldl_opened (h : c.Usable) (openings : List Opening) :
    openings.foldl p.opened c = (openings.flatMap p.requests).foldl serve c := by
  induction openings generalizing c with
  | nil => rfl
  | cons o openings ih =>
    have hopened : p.opened c o = (p.requests o).foldl serve c := by
      cases o with
      | documents vars => exact p.variableListing_catalog h vars
      | links => exact p.linkListing_catalog h
    rw [List.foldl_cons, hopened, ih (h.foldl_serve _), List.flatMap_cons, List.foldl_append]

/-- Has one of these openings made the definition of a key, or could it have? Then it is there,
whoever asks for it. -/
def Lends (openings : List Opening) (key : Key) : Prop :=
  ∃ o ∈ openings, ∃ r ∈ p.requests o, r.key = key ∧ r.Makeable

/-- Only getters and links are asked for, and none of those is there at the outset. So a new catalog
offers just what can be made. -/
theorem offers_initial_iff (shade : Float) (r : Request) :
    (initial shade).Offers r ↔ r.Makeable := by
  refine or_iff_right fun hbound => ?_
  obtain ⟨d, hd⟩ := Option.isSome_iff_exists.mp hbound
  rcases get?_initial hd with ⟨hkey, -⟩ | ⟨hkey, -⟩
  · cases r with
    | getter domain id => cases hkey
    | link domain l =>
      rcases Key.ofPair_cases l.collections.1 l.collections.2 with he | he <;>
        cases he.symm.trans hkey
  · cases r with
    | getter domain id => cases hkey
    | link domain l =>
      rcases Key.ofPair_cases l.collections.1 l.collections.2 with he | he <;>
        cases he.symm.trans hkey

/-- **What a shared catalog offers**: what the domain at hand lets it make, and what was lent by
openings over other domains. -/
theorem offers_opened_iff (shade : Float) (openings : List Opening) (r : Request) :
    (openings.foldl p.opened (initial shade)).Offers r ↔ r.Makeable ∨ p.Lends openings r.key := by
  rw [p.foldl_opened (.initial shade), Offers, binds_foldl_serve, or_right_comm]
  refine or_congr (offers_initial_iff shade r) ?_
  simp only [Lends, List.mem_flatMap]
  constructor
  · rintro ⟨r', ⟨o, ho, hr'⟩, hkey, hmake⟩
    exact ⟨o, ho, r', hr', hkey.symm, hmake⟩
  · rintro ⟨o, ho, r', hr', hkey, hmake⟩
    exact ⟨r', ⟨o, ho, hr'⟩, hkey.symm, hmake⟩

/-- The entry of a variable depends on its collection. -/
theorem variableItem?_of_document {v : Variable} {id : String}
    (h : Tag.ofText v.type = .document id) :
    p.variableItem? c v =
      if c.Offers (.getter p.domain id) then some (.block (getterType id) (some v)) else none := by
  rw [variableItem?, h]

/-- Lent getters show just if a variable is listed that has no entry otherwise. -/
theorem variableListing_eq_iff {alone shared : Catalog} (halone : alone.Usable)
    (hshared : shared.Usable) (hmore : ∀ r, alone.Offers r → shared.Offers r)
    (vars : List Variable) :
    (p.variableListing shared vars).items = (p.variableListing alone vars).items ↔
      ∀ v ∈ vars, ∀ id, Tag.ofText v.type = .document id →
        shared.Offers (.getter p.domain id) → alone.Offers (.getter p.domain id) := by
  rw [p.variableListing_items hshared, p.variableListing_items halone, List.append_cancel_right_eq]
  constructor
  · intro heq v hv id htype hoffer
    have hentry := p.variableItem?_of_document htype (c := shared)
    rw [if_pos hoffer] at hentry
    have hmem : Item.block (getterType id) (some v) ∈ vars.filterMap (p.variableItem? alone) :=
      heq ▸ List.mem_filterMap.mpr ⟨v, hv, hentry⟩
    obtain ⟨v', -, hentry'⟩ := List.mem_filterMap.mp hmem
    rw [variableItem?] at hentry'
    split at hentry'
    · rename_i id' htype'
      split at hentry'
      · rename_i hoffer'
        -- the entry shows the variable, and with it the collection
        obtain ⟨-, hpreset⟩ := Item.block.inj (Option.some.inj hentry')
        obtain rfl := Option.some.inj hpreset
        obtain rfl := Tag.document.inj (htype.symm.trans htype')
        exact hoffer'
      · cases hentry'
    · cases hentry'
  · intro h
    refine List.filterMap_congr fun v hv => p.variableItem?_congr fun id htype => ?_
    exact ⟨h v hv id htype, hmore _⟩

/-- Lent links show just if a link type is listed that has no entry otherwise. -/
theorem linkListing_eq_iff {alone shared : Catalog} (halone : alone.Usable)
    (hshared : shared.Usable) (hmore : ∀ r, alone.Offers r → shared.Offers r) :
    (p.linkListing shared).items = (p.linkListing alone).items ↔
      ∀ l ∈ p.domain.linkTypes,
        shared.Offers (.link p.domain l) → alone.Offers (.link p.domain l) := by
  rw [p.linkListing_items hshared, p.linkListing_items halone]
  constructor
  · intro heq l hl hoffer
    have hmem : Item.block (Key.ofPair l.collections.1 l.collections.2).blockType none ∈
        (p.domain.linkTypes.filterMap (p.linkItem? alone)).eraseDups := by
      rw [← heq, List.mem_eraseDups, List.mem_filterMap]
      exact ⟨l, hl, if_pos hoffer⟩
    obtain ⟨l', -, hentry⟩ := List.mem_filterMap.mp (List.mem_eraseDups.mp hmem)
    rw [linkItem?] at hentry
    split at hentry
    · rename_i hoffer'
      -- the entry shows the block type, and with it the pair of collections
      obtain ⟨htype, -⟩ := Item.block.inj (Option.some.inj hentry)
      have hkey : (Request.link p.domain l').key = (Request.link p.domain l).key :=
        Key.injOn_blockType (halone.proper_of_offers hoffer') (hshared.proper_of_offers hoffer)
          htype
      refine (offers_congr ?_ hkey).mp hoffer'
      rfl
    · cases hentry
  · intro h
    congr 1
    exact List.filterMap_congr fun l hl => p.linkItem?_congr ⟨h l hl, hmore _⟩

end Propagator

/-- **What a toolbox lists in a shared catalog.** Beyond what its own domain lets it make, a
category lists what other editors have opened before, in its place, and nothing else. So it lists
what it lists in a new catalog just if nothing is lent that it could not make. -/
theorem Catalog.listings_lent (shade : Float) (p other : Propagator) (vars : List Variable)
    (openings : List Opening) :
    let alone := initial shade
    let shared := openings.foldl other.opened alone
    (∀ c ∈ [alone, shared],
      (p.variableListing c vars).items = vars.filterMap (p.variableItem? c) ++
        [.separator 48, .block getAttributeType none] ∧
      (p.linkListing c).items = (p.domain.linkTypes.filterMap (p.linkItem? c)).eraseDups) ∧
    (∀ r : Request, (alone.Offers r ↔ r.Makeable) ∧
      (shared.Offers r ↔ r.Makeable ∨ other.Lends openings r.key)) ∧
    ((p.variableListing shared vars).items = (p.variableListing alone vars).items ↔
      ∀ v ∈ vars, ∀ id, Tag.ofText v.type = .document id →
        other.Lends openings (.collection id) → p.domain.Defines id) ∧
    ((p.linkListing shared).items = (p.linkListing alone).items ↔
      ∀ l ∈ p.domain.linkTypes, other.Lends openings (.ofPair l.collections.1 l.collections.2) →
        (Request.link p.domain l).Makeable) := by
  intro alone shared
  have halone : alone.Usable := .initial shade
  have hshared : shared.Usable := by
    rw [show shared = _ from other.foldl_opened halone openings]
    exact halone.foldl_serve _
  have hown : ∀ r : Request, alone.Offers r ↔ r.Makeable := Propagator.offers_initial_iff shade
  have hlent : ∀ r : Request, shared.Offers r ↔ r.Makeable ∨ other.Lends openings r.key :=
    other.offers_opened_iff shade openings
  have hmore : ∀ r, alone.Offers r → shared.Offers r := fun r hr =>
    (hlent r).mpr (.inl ((hown r).mp hr))
  have hrest : ∀ r : Request, (shared.Offers r → alone.Offers r) ↔
      (other.Lends openings r.key → r.Makeable) := fun r => by
    rw [hlent, hown, or_imp]
    exact and_iff_right id
  refine ⟨fun c hc => ?_, fun r => ⟨hown r, hlent r⟩, ?_, ?_⟩
  · rcases List.mem_pair.mp hc with rfl | rfl
    · exact ⟨p.variableListing_items halone vars, p.linkListing_items halone⟩
    · exact ⟨p.variableListing_items hshared vars, p.linkListing_items hshared⟩
  · rw [p.variableListing_eq_iff halone hshared hmore]
    exact forall₂_congr fun v _ => forall₂_congr fun id _ => hrest (.getter p.domain id)
  · rw [p.linkListing_eq_iff halone hshared hmore]
    exact forall₂_congr fun l _ => hrest (.link p.domain l)

/-- The fleet knows ships only, and a link to ports that it does not know. -/
def Domain.fleet : Domain where
  collections := [{ id := "ship", name := "Ship" }]
  linkTypes := [{ name := "calls at", collections := ("ship", "port") }]

/-- **Listings leak.** Once a harbour has opened its categories, the fleet lists a port and a link
to ports, which it lists nowhere else. -/
theorem Catalog.listings_leak :
    let fleet : Propagator := { domain := .fleet, snapRadius := 28 }
    let port : Variable := ⟨"p", "the port", "port_document"⟩
    let alone := initial 0
    let shared := [Opening.documents [port], .links].foldl Propagator.harbour.opened alone
    Domain.fleet.checked = .ok .fleet ∧ Domain.harbour.checked = .ok .harbour ∧
    (¬ ∃ c ∈ Domain.fleet.collections, c.id = "port") ∧
    (fleet.variableListing alone [port]).items ≠ (fleet.variableListing shared [port]).items ∧
    (fleet.linkListing alone).items ≠ (fleet.linkListing shared).items := by
  refine ⟨rfl, rfl, by decide, ?_, ?_⟩ <;> decide +kernel

end TypedBlocks
