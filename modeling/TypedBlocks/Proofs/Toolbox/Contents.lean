import TypedBlocks.Proofs.Run.Requests

/-!
# What the toolbox lists

A listing asks the catalog for one definition after the other, and every answer may change the
catalog that the next request goes to. Still each entry depends on the catalog at the outset only:
whether a request is answered (`Catalog.Offers`) is decided by its key and its domain, and serving
requests with the same domain does not change that (`Catalog.offers_serve`). So a listing is a
filter over what it runs through:

* `variableListing_items`, `variableListing_catalog`: the document variables and what opening their
  category does to the catalog;
* `linkListing_items`, `linkListing_catalog`: the same for the links, of which every block is listed
  where it comes up first.
-/

namespace TypedBlocks

open Definition

/-! ## Requests that are answered -/

/-- Does a domain define a collection? -/
def Domain.Defines (d : Domain) (id : String) : Prop := ∃ c ∈ d.collections, c.id = id

instance (d : Domain) (id : String) : Decidable (d.Defines id) :=
  inferInstanceAs (Decidable (∃ c ∈ d.collections, c.id = id))

/-- A domain has the collection of an id just if it has one of that id, and the id is usable. -/
theorem Domain.exists_collection?_iff {d : Domain} {id : String} :
    (∃ c, d.collection? id = .ok c) ↔ d.Defines id := by
  constructor
  · rintro ⟨c, hc⟩
    exact ⟨c, collection?_mem hc, collection?_id hc⟩
  · rintro ⟨c, hmem, rfl⟩
    rw [collection?]
    cases hfind : d.collections.find? (·.id = c.id) with
    | some found => exact ⟨found, rfl⟩
    | none => simpa using List.find?_eq_none.mp hfind c hmem

/-- Can what is asked for be made? A link is only made between ids that collections can have. -/
def Request.Makeable : Request → Prop
  | .getter domain id => domain.Defines id
  | .link domain l =>
    (Collection.isUsableId l.collections.1 = true ∧ Collection.isUsableId l.collections.2 = true) ∧
      domain.Defines l.collections.1 ∧ domain.Defines l.collections.2

instance (r : Request) : Decidable r.Makeable :=
  match r with
  | .getter domain id => inferInstanceAs (Decidable (domain.Defines id))
  | .link domain l => inferInstanceAs (Decidable ((Collection.isUsableId l.collections.1 = true ∧
      Collection.isUsableId l.collections.2 = true) ∧
      domain.Defines l.collections.1 ∧ domain.Defines l.collections.2))

/-- Two requests for one key and one domain: both can be made, or neither. For links, the two ids
may stand the other way round. -/
theorem Request.makeable_congr {r r' : Request} (hdomain : r.domain = r'.domain)
    (hkey : r.key = r'.key) : r.Makeable ↔ r'.Makeable := by
  cases r with
  | getter domain id =>
    cases r' with
    | getter domain' id' =>
      obtain rfl : domain = domain' := hdomain
      obtain rfl := Key.collection.inj hkey
      rfl
    | link domain' l =>
      rcases Key.ofPair_cases l.collections.1 l.collections.2 with he | he <;>
        simp [Request.key, he] at hkey
  | link domain l =>
    cases r' with
    | getter domain' id =>
      rcases Key.ofPair_cases l.collections.1 l.collections.2 with he | he <;>
        simp [Request.key, he] at hkey
    | link domain' l' =>
      obtain rfl : domain = domain' := hdomain
      have hkey : Key.ofPair l.collections.1 l.collections.2 =
          Key.ofPair l'.collections.1 l'.collections.2 := hkey
      simp only [Makeable]
      rcases Key.ofPair_cases l.collections.1 l.collections.2 with he | he <;>
        rcases Key.ofPair_cases l'.collections.1 l'.collections.2 with he' | he' <;>
        rw [he, he', Key.link.injEq] at hkey <;> obtain ⟨h, h'⟩ := hkey <;> rw [h, h']
      · rw [and_comm (a := domain.Defines _), and_comm (a := Collection.isUsableId _ = true)]
      · rw [and_comm (a := domain.Defines _), and_comm (a := Collection.isUsableId _ = true)]

namespace Catalog

variable {c : Catalog} {r r' : Request} {key : Key} {d : Definition}

/-- Does a catalog have a definition under a key? -/
def Binds (c : Catalog) (key : Key) : Prop := (c.definitions.get? key).isSome = true

instance (c : Catalog) (key : Key) : Decidable (c.Binds key) :=
  inferInstanceAs (Decidable ((c.definitions.get? key).isSome = true))

/-- Is there what a request asks for, or can it be made? This is what the toolbox goes by: it lists
what the catalog offers. -/
def Offers (c : Catalog) (r : Request) : Prop := c.Binds r.key ∨ r.Makeable

instance (c : Catalog) (r : Request) : Decidable (c.Offers r) :=
  inferInstanceAs (Decidable (c.Binds r.key ∨ r.Makeable))

/-- A definition that is new is made just if it can be made. -/
theorem exists_ask_of_new (h : c.definitions.get? r.key = none) :
    (∃ s, c.ask r = .ok s) ↔ r.Makeable := by
  cases r with
  | getter domain id =>
    have h : c.definitions.get? (.collection id) = none := h
    rw [Request.Makeable, ← Domain.exists_collection?_iff]
    simp only [ask, getter, h]
    cases domain.collection? id <;> simp
  | link domain l =>
    have h : c.definitions.get? (.ofPair l.collections.1 l.collections.2) = none := h
    simp only [Request.Makeable, ← Domain.exists_collection?_iff]
    simp only [ask, link, h]
    cases hfirst : Collection.isUsableId l.collections.1 with
    | false => simp [hfirst]
    | true =>
      cases hsecond : Collection.isUsableId l.collections.2 with
      | false => simp [hfirst, hsecond]
      | true =>
        cases domain.collection? l.collections.1 <;> cases domain.collection? l.collections.2 <;>
          simp [hfirst, hsecond, bind, Except.bind, pure, Except.pure]

/-- **Which requests are answered**: those for a definition that there is or that can be made. The
domain of the request counts in the second case only. -/
theorem exists_ask_iff : (∃ s, c.ask r = .ok s) ↔ c.Offers r := by
  rw [Offers, Binds]
  cases h : c.definitions.get? r.key with
  | some d => simp [ask_of_get? h]
  | none => simpa using exists_ask_of_new h

/-- Requests for one key and one domain are answered alike. -/
theorem offers_congr (hdomain : r.domain = r'.domain) (hkey : r.key = r'.key) :
    c.Offers r ↔ c.Offers r' := by
  rw [Offers, Offers, hkey, Request.makeable_congr hdomain hkey]

/-- Serving a request binds its key if that can be done, and no other. -/
theorem binds_serve : (c.serve r).Binds key ↔ c.Binds key ∨ (key = r.key ∧ r.Makeable) := by
  rcases c.ask_cases r with ⟨fault, he⟩ | ⟨d, hget, he⟩ | ⟨d, notices, hnew, he, -⟩
  · have hnot : ¬ c.Offers r := by
      rw [← exists_ask_iff, he]
      rintro ⟨s, hs⟩
      cases hs
    rw [serve_of_error he]
    exact ⟨.inl, fun h => h.resolve_right fun hand => hnot (.inr hand.2)⟩
  · rw [serve_of_ok he]
    refine ⟨.inl, fun h => h.elim id ?_⟩
    rintro ⟨rfl, -⟩
    exact Option.isSome_of_eq_some hget
  · have hmake : r.Makeable := (exists_ask_of_new hnew).mp ⟨_, he⟩
    rw [serve_of_ok he]
    simp only [Binds, supply, Table.get?_put]
    by_cases hkey : key = r.key <;> simp [hkey, hmake]

/-- Serving a request with the same domain makes no difference to what is offered. -/
theorem offers_serve (h : r'.domain = r.domain) : (c.serve r').Offers r ↔ c.Offers r := by
  rw [Offers, Offers, binds_serve]
  constructor
  · rintro ((hbound | ⟨hkey, hmake⟩) | hmake)
    · exact .inl hbound
    · exact .inr ((Request.makeable_congr h hkey.symm).mp hmake)
    · exact .inr hmake
  · exact fun hoffer => hoffer.imp_left .inl

/-- What a catalog offers is not changed by requests from the same domain, any number of them: a
definition that they make could have been made anyway. -/
theorem offers_foldl_serve {requests : List Request} (h : ∀ r' ∈ requests, r'.domain = r.domain) :
    (requests.foldl serve c).Offers r ↔ c.Offers r := by
  induction requests generalizing c with
  | nil => rfl
  | cons r' requests ih =>
    rw [List.forall_mem_cons] at h
    rw [List.foldl_cons, ih h.2, offers_serve h.1]

/-- A request changes nothing if its key is bound, or if it cannot be met. -/
theorem serve_eq_self (h : r.Makeable → c.Binds r.key) : c.serve r = c := by
  by_cases hbound : c.Binds r.key
  · obtain ⟨d, hget⟩ := Option.isSome_iff_exists.mp hbound
    exact serve_of_ok (ask_of_get? hget)
  · have hnot : ¬ ∃ s, c.ask r = .ok s := by
      rw [exists_ask_iff]
      rintro (h' | hmake)
      · exact hbound h'
      · exact hbound (h hmake)
    cases he : c.ask r with
    | error fault => exact serve_of_error he
    | ok s => exact absurd ⟨s, he⟩ hnot

/-- Requests for what is there already change nothing, any number of them. -/
theorem foldl_serve_eq_self {requests : List Request}
    (h : ∀ r ∈ requests, r.Makeable → c.Binds r.key) : requests.foldl serve c = c := by
  induction requests with
  | nil => rfl
  | cons r requests ih =>
    rw [List.forall_mem_cons] at h
    rw [List.foldl_cons, serve_eq_self h.1, ih h.2]

/-- What a run of requests binds: what was bound before, and the keys of those requests that can be
met. By induction on the requests. -/
theorem binds_foldl_serve {requests : List Request} :
    (requests.foldl serve c).Binds key ↔
      c.Binds key ∨ ∃ r ∈ requests, key = r.key ∧ r.Makeable := by
  induction requests generalizing c with
  | nil => simp
  | cons r requests ih =>
    rw [List.foldl_cons, ih, binds_serve, List.exists_mem_cons_iff, or_assoc]

/-- **Requests that are made again change nothing**: what could be made is there since the first
time, and what could not still cannot. -/
theorem foldl_serve_again (c : Catalog) (requests : List Request) :
    requests.foldl serve (requests.foldl serve c) = requests.foldl serve c :=
  foldl_serve_eq_self fun r hr hmake => binds_foldl_serve.mpr (.inr ⟨r, hr, rfl, hmake⟩)

/-! ## Catalogs that were only ever asked -/

theorem poisoned_serve (c : Catalog) (r : Request) : (c.serve r).poisoned = c.poisoned := by
  rcases c.ask_cases r with ⟨fault, he⟩ | ⟨d, -, he⟩ | ⟨d, notices, -, he, -⟩
  · rw [serve_of_error he]
  · rw [serve_of_ok he]
  · rw [serve_of_ok he]
    rfl

/-- Serving a request leaves a catalog sound. -/
theorem Sound.serve (h : c.Sound) (r : Request) : (c.serve r).Sound :=
  h.afterAsking fun s hs => by
    cases r with
    | getter domain id => exact h.getter hs
    | link domain l => exact h.link hs

/-- A catalog that can be used: it is not poisoned, and every definition is made the way its key
says. -/
structure Usable (c : Catalog) : Prop where
  sound : c.Sound
  clean : c.poisoned = false

namespace Usable

theorem initial (shade : Float) : (initial shade).Usable := ⟨sound_initial shade, rfl⟩

theorem serve (h : c.Usable) (r : Request) : (c.serve r).Usable :=
  ⟨h.sound.serve r, (c.poisoned_serve r).trans h.clean⟩

/-- A catalog is usable whatever it was asked for. -/
theorem foldl_serve (h : c.Usable) (requests : List Request) :
    (requests.foldl Catalog.serve c).Usable := by
  induction requests generalizing c with
  | nil => exact h
  | cons r requests ih => exact ih (h.serve r)

/-- A usable catalog can be shared, because nobody has poisoned it. -/
theorem shared (h : c.Usable) : c.shared = .ok c := by
  rw [Catalog.shared, h.clean]
  rfl

/-- The definition that is supplied has the block type of the key that was asked for. -/
theorem blockType_of_ask (h : c.Usable) {s : Supplied} (hs : c.ask r = .ok s) :
    s.definition.blockType = r.key.blockType :=
  ((h.sound.serve r) r.key s.definition (get?_serve hs)).blockType

end Usable

end Catalog

/-! ## Listings -/

namespace Propagator

open Toolbox

variable (p : Propagator) {c : Catalog}

/-- What a listing asks for on account of a variable: the getter of its collection, if it holds a
document. -/
def variableRequest? (v : Variable) : Option Request :=
  match Tag.ofText v.type with
  | .document id => some (.getter p.domain id)
  | _ => none

/-- The entry of a variable, if it has one. -/
def variableItem? (c : Catalog) (v : Variable) : Option Item :=
  match Tag.ofText v.type with
  | .document id =>
    if c.Offers (.getter p.domain id) then some (.block (getterType id) (some v)) else none
  | _ => none

/-- The entry of a link type, if it has one. -/
def linkItem? (c : Catalog) (l : LinkType) : Option Item :=
  if c.Offers (.link p.domain l) then
    some (.block (Key.ofPair l.collections.1 l.collections.2).blockType none)
  else none

/-- What a variable is listed as depends on the catalog by what that offers for its collection. -/
theorem variableItem?_congr {c c' : Catalog} {v : Variable}
    (h : ∀ id, Tag.ofText v.type = .document id →
      (c'.Offers (.getter p.domain id) ↔ c.Offers (.getter p.domain id))) :
    p.variableItem? c' v = p.variableItem? c v := by
  rw [variableItem?, variableItem?]
  cases hread : Tag.ofText v.type with
  | document id => simp only [h id hread]
  | _ => rfl

/-- What a link type is listed as depends on the catalog by what that offers for it. -/
theorem linkItem?_congr {c c' : Catalog} {l : LinkType}
    (h : c'.Offers (.link p.domain l) ↔ c.Offers (.link p.domain l)) :
    p.linkItem? c' l = p.linkItem? c l := by
  simp only [linkItem?, h]

theorem variableRequest?_domain {v : Variable} {r : Request} (h : p.variableRequest? v = some r) :
    r.domain = p.domain := by
  rw [variableRequest?] at h
  split at h
  · cases h
    rfl
  · cases h

/-- Listing a variable is serving its request, and adding its entry. -/
theorem addVariable_eq (h : c.Usable) (items : List Item) (notices : List Notice) (v : Variable) :
    (p.addVariable { items, catalog := c, notices } v).items =
        items ++ (p.variableItem? c v).toList ∧
      (p.addVariable { items, catalog := c, notices } v).catalog =
        (p.variableRequest? v).toList.foldl Catalog.serve c := by
  rw [addVariable, variableItem?, variableRequest?]
  cases hread : Tag.ofText v.type with
  | document id =>
    have hshared : p.ensureGetter c id = c.ask (.getter p.domain id) := by
      rw [ensureGetter, h.shared]
      rfl
    simp only [hshared, Option.toList_some, List.foldl_cons, List.foldl_nil]
    cases hs : c.ask (.getter p.domain id) with
    | ok s =>
      have hoffer := Catalog.exists_ask_iff.mp ⟨s, hs⟩
      have htype : s.definition.blockType = getterType id := h.blockType_of_ask hs
      rw [if_pos hoffer, Catalog.serve_of_ok hs, ← htype]
      exact ⟨rfl, rfl⟩
    | error fault =>
      have hnot : ¬ c.Offers (.getter p.domain id) := fun hoffer => by
        obtain ⟨s, hs'⟩ := Catalog.exists_ask_iff.mpr hoffer
        cases hs.symm.trans hs'
      rw [if_neg hnot, Catalog.serve_of_error hs]
      exact ⟨(List.append_nil items).symm, rfl⟩
  | _ => exact ⟨(List.append_nil items).symm, rfl⟩

/-- By induction on the variables: an entry depends on the catalog at the outset only. -/
theorem foldl_addVariable (vars : List Variable) (h : c.Usable) (items : List Item)
    (notices : List Notice) :
    (vars.foldl p.addVariable { items, catalog := c, notices }).items =
        items ++ vars.filterMap (p.variableItem? c) ∧
      (vars.foldl p.addVariable { items, catalog := c, notices }).catalog =
        (vars.filterMap p.variableRequest?).foldl Catalog.serve c := by
  induction vars generalizing c items notices with
  | nil => exact ⟨(List.append_nil items).symm, rfl⟩
  | cons v vars ih =>
    obtain ⟨hitems, hcatalog⟩ := p.addVariable_eq h items notices v
    rw [List.foldl_cons]
    obtain ⟨hrest, hrest'⟩ := ih (h.foldl_serve (p.variableRequest? v).toList)
      (items ++ (p.variableItem? c v).toList)
      (p.addVariable { items, catalog := c, notices } v).notices
    rw [← hitems, ← hcatalog] at hrest
    rw [← hitems, ← hcatalog] at hrest'
    rw [hrest, hrest', hitems, hcatalog]
    have hsame : ∀ v', p.variableItem? ((p.variableRequest? v).toList.foldl Catalog.serve c) v' =
        p.variableItem? c v' := fun v' =>
      p.variableItem?_congr fun id _ => Catalog.offers_foldl_serve fun r' hr' =>
        p.variableRequest?_domain (Option.mem_toList.mp hr')
    simp only [hsame]
    constructor
    · rw [List.append_assoc, List.filterMap_cons]
      cases p.variableItem? c v <;> rfl
    · rw [List.filterMap_cons]
      cases p.variableRequest? v <;> rfl

/-- **The document variables**: an entry for every variable whose getter is offered, in the order of
the variables, and behind a gap the attribute getter. -/
theorem variableListing_items (h : c.Usable) (vars : List Variable) :
    (p.variableListing c vars).items =
      vars.filterMap (p.variableItem? c) ++ [.separator gap, .block getAttributeType none] := by
  rw [variableListing]
  dsimp only
  rw [(p.foldl_addVariable vars h [] []).1, List.nil_append]

/-- Opening the category of document variables is a run of requests. -/
theorem variableListing_catalog (h : c.Usable) (vars : List Variable) :
    (p.variableListing c vars).catalog =
      (vars.filterMap p.variableRequest?).foldl Catalog.serve c :=
  (p.foldl_addVariable vars h [] []).2

/-- Listing a link type is serving its request, and adding its entry if it is new. -/
theorem addLink_eq (h : c.Usable) (items : List Item) (notices : List Notice) (l : LinkType) :
    (p.addLink { items := items.eraseDups, catalog := c, notices } l).items =
        (items ++ (p.linkItem? c l).toList).eraseDups ∧
      (p.addLink { items := items.eraseDups, catalog := c, notices } l).catalog =
        c.serve (.link p.domain l) := by
  have hshared : p.ensureLink c l = c.ask (.link p.domain l) := by
    rw [ensureLink, h.shared]
    rfl
  rw [addLink, linkItem?, hshared]
  cases hs : c.ask (.link p.domain l) with
  | ok s =>
    have hoffer := Catalog.exists_ask_iff.mp ⟨s, hs⟩
    have htype : s.definition.blockType =
        (Key.ofPair l.collections.1 l.collections.2).blockType := h.blockType_of_ask hs
    rw [if_pos hoffer, Catalog.serve_of_ok hs, ← htype]
    refine ⟨?_, rfl⟩
    simp only [Option.toList_some, List.eraseDups_append, List.removeAll, List.mem_eraseDups]
    by_cases hmem : (.block s.definition.blockType none : Item) ∈ items <;>
      simp [hmem, List.eraseDups_cons]
  | error fault =>
    have hnot : ¬ c.Offers (.link p.domain l) := fun hoffer => by
      obtain ⟨s, hs'⟩ := Catalog.exists_ask_iff.mpr hoffer
      cases hs.symm.trans hs'
    rw [if_neg hnot, Catalog.serve_of_error hs]
    exact ⟨by rw [Option.toList_none, List.append_nil], rfl⟩

/-- By induction on the link types, as for variables. -/
theorem foldl_addLink (links : List LinkType) (h : c.Usable) (items : List Item)
    (notices : List Notice) :
    (links.foldl p.addLink { items := items.eraseDups, catalog := c, notices }).items =
        (items ++ links.filterMap (p.linkItem? c)).eraseDups ∧
      (links.foldl p.addLink { items := items.eraseDups, catalog := c, notices }).catalog =
        (links.map (Request.link p.domain)).foldl Catalog.serve c := by
  induction links generalizing c items notices with
  | nil => exact ⟨by rw [List.filterMap_nil, List.append_nil]; rfl, rfl⟩
  | cons l links ih =>
    obtain ⟨hitems, hcatalog⟩ := p.addLink_eq h items notices l
    rw [List.foldl_cons]
    obtain ⟨hrest, hrest'⟩ := ih (h.serve (.link p.domain l)) (items ++ (p.linkItem? c l).toList)
      (p.addLink { items := items.eraseDups, catalog := c, notices } l).notices
    rw [← hitems, ← hcatalog] at hrest
    rw [← hitems, ← hcatalog] at hrest'
    have hsame : ∀ l', p.linkItem? (c.serve (.link p.domain l)) l' = p.linkItem? c l' := fun l' =>
      p.linkItem?_congr (Catalog.offers_serve rfl)
    rw [hrest, hrest', hcatalog]
    simp only [hsame]
    refine ⟨?_, rfl⟩
    rw [List.append_assoc, List.filterMap_cons]
    cases p.linkItem? c l <;> rfl

/-- **The links**: the blocks of the link types that are offered, each where it comes up first.
Whether one is offered is decided at the outset, not when its turn comes. -/
theorem linkListing_items (h : c.Usable) :
    (p.linkListing c).items = (p.domain.linkTypes.filterMap (p.linkItem? c)).eraseDups :=
  (p.foldl_addLink p.domain.linkTypes h [] []).1

/-- Opening the category of links is a run of requests. -/
theorem linkListing_catalog (h : c.Usable) :
    (p.linkListing c).catalog =
      (p.domain.linkTypes.map (Request.link p.domain)).foldl Catalog.serve c :=
  (p.foldl_addLink p.domain.linkTypes h [] []).2

end Propagator

end TypedBlocks
