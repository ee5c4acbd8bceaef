import TypedBlocks.Proofs.Definition.Keys
import TypedBlocks.Proofs.Run.Acts

/-!
# Requests to a catalog

Editors that share a catalog ask it for getters and for links, each with a domain of its own. What
the catalog does is one of two things (`ask_cases`):

* if the key of a request is bound, the definition that is there is supplied, whatever the domain;
* otherwise a definition is made the way the key says, and the key is bound to it.

So a catalog only ever grows (`get?_serve_of_get?`), and a request that is made again, for whichever
domain, is answered as it was before. As long as the domains are checked, the keys that get in are
proper, and those are the ones that block types stand for: a definition that is stored under a key
is found by its block type (`Orderly.definition?`).
-/

namespace TypedBlocks

open Definition

/-- What a catalog can be asked for: the getter of a collection, or the link of a link type, each
with the domain to make it from. -/
inductive Request where
  /-- the getter of a collection -/
  | getter (domain : Domain) (id : String)
  /-- the link of a link type -/
  | link (domain : Domain) (l : LinkType)

namespace Request

/-- The domain that a new definition would be made from. -/
def domain : Request → Domain
  | .getter domain _ => domain
  | .link domain _ => domain

/-- The key of the definition that is asked for. -/
def key : Request → Key
  | .getter _ id => .collection id
  | .link _ l => .ofPair l.collections.1 l.collections.2

end Request

namespace Catalog

variable {c : Catalog} {r : Request} {key : Key} {d : Definition}

/-- The answer to a request. -/
def ask (c : Catalog) : Request → Except Fault Supplied
  | .getter domain id => c.getter domain id
  | .link domain l => c.link domain l

/-- The catalog after a request. -/
def serve (c : Catalog) (r : Request) : Catalog := c.afterAsking (c.ask r)

/-! ## Bound keys and new ones -/

/-- **A definition that is there is supplied**, and nothing changes. It is found before the domain
is looked at. -/
theorem ask_of_get? (h : c.definitions.get? r.key = some d) :
    c.ask r = .ok { definition := d, catalog := c } := by
  cases r with
  | getter domain id =>
    simp only [Request.key] at h
    simp only [ask, getter, h]
  | link domain l =>
    simp only [Request.key] at h
    simp only [ask, link, h]

/-- **All that a request can come to**: an error, the definition that is there, or one that is made
for a key that is new. -/
theorem ask_cases (c : Catalog) (r : Request) :
    (∃ fault, c.ask r = .error fault) ∨
    (∃ d, c.definitions.get? r.key = some d ∧ c.ask r = .ok { definition := d, catalog := c }) ∨
    (∃ d notices, c.definitions.get? r.key = none ∧ c.ask r = .ok (c.supply r.key d notices) ∧
      Made r.key d ∧ (r.domain.checked = .ok r.domain → r.key.Proper)) := by
  cases hs : c.ask r with
  | error fault => exact .inl ⟨fault, rfl⟩
  | ok s =>
    refine .inr ?_
    cases r with
    | getter domain id =>
      change c.getter domain id = .ok s at hs
      rcases getter_eq_ok hs with ⟨d, hget, rfl⟩ | ⟨hget, collection, hmem, rfl, rfl⟩
      · exact .inl ⟨d, hget, rfl⟩
      · refine .inr ⟨_, _, hget, rfl, c.made_makeGetter collection, fun hchecked => ?_⟩
        have husable := Domain.usable_of_checked hchecked hmem
        exact .collection (Collection.isUsableId_iff.mp husable).1
    | link domain l =>
      obtain ⟨name, collections⟩ := l
      change c.link domain ⟨name, collections⟩ = .ok s at hs
      rcases link_eq_ok hs with ⟨d, hget, rfl⟩ | ⟨hget, first, second, rfl, hfirst, hsecond, rfl⟩
      · exact .inl ⟨d, hget, rfl⟩
      · exact .inr ⟨_, _, hget, rfl, .link _ hfirst hsecond, fun _ => .link hfirst hsecond⟩

theorem serve_of_ok {s : Supplied} (h : c.ask r = .ok s) : c.serve r = s.catalog := by
  rw [serve, h, afterAsking]

theorem serve_of_error {fault : Fault} (h : c.ask r = .error fault) : c.serve r = c := by
  rw [serve, h, afterAsking]

/-- What is supplied is stored, under the key of the request. -/
theorem get?_serve {s : Supplied} (h : c.ask r = .ok s) :
    (c.serve r).definitions.get? r.key = some s.definition := by
  rw [serve_of_ok h]
  rcases c.ask_cases r with ⟨fault, he⟩ | ⟨d, hget, he⟩ | ⟨d, notices, -, he, -⟩
  · cases h.symm.trans he
  · cases h.symm.trans he
    exact hget
  · cases h.symm.trans he
    simp [supply, Table.get?_put]

/-! ## Growth -/

/-- **A bound key stays bound to its definition**, whatever is asked for next. A definition is
stored only where there is none. -/
theorem get?_serve_of_get? (h : c.definitions.get? key = some d) (r : Request) :
    (c.serve r).definitions.get? key = some d := by
  rcases c.ask_cases r with ⟨fault, he⟩ | ⟨d', -, he⟩ | ⟨d', notices, hnew, he, -⟩
  · rwa [serve_of_error he]
  · rwa [serve_of_ok he]
  · rw [serve_of_ok he]
    have hne : key ≠ r.key := by
      rintro rfl
      cases h.symm.trans hnew
    simpa [supply, Table.get?_put, hne] using h

theorem get?_foldl_serve (h : c.definitions.get? key = some d) (requests : List Request) :
    (requests.foldl serve c).definitions.get? key = some d := by
  induction requests generalizing c with
  | nil => exact h
  | cons r requests ih => exact ih (get?_serve_of_get? h r)

/-! ## Definitions and their block types -/

/-- Every definition is made the way its key says, and its key is proper. -/
def Orderly (c : Catalog) : Prop :=
  ∀ key d, c.definitions.get? key = some d → Made key d ∧ key.Proper

theorem orderly_initial (shade : Float) : (initial shade).Orderly := by
  intro key d h
  rcases get?_initial h with ⟨rfl, rfl⟩ | ⟨rfl, rfl⟩
  · exact ⟨.getAttribute, .getAttribute⟩
  · exact ⟨.foreach, .foreach⟩

namespace Orderly

/-- **Requests keep a catalog orderly** if their domains are checked. -/
theorem serve (h : c.Orderly) (hr : r.domain.checked = .ok r.domain) : (c.serve r).Orderly := by
  rcases c.ask_cases r with ⟨fault, he⟩ | ⟨d, -, he⟩ | ⟨d, notices, -, he, hmade, hproper⟩
  · rwa [serve_of_error he]
  · rwa [serve_of_ok he]
  · rw [serve_of_ok he]
    intro key d' hget
    simp only [supply, Table.get?_put] at hget
    split at hget
    · rename_i hkey
      cases hget
      exact hkey ▸ ⟨hmade, hproper hr⟩
    · exact h key d' hget

theorem foldl_serve (h : c.Orderly) {requests : List Request}
    (hrequests : ∀ r ∈ requests, r.domain.checked = .ok r.domain) :
    (requests.foldl Catalog.serve c).Orderly := by
  induction requests generalizing c with
  | nil => exact h
  | cons r requests ih =>
    rw [List.forall_mem_cons] at hrequests
    exact ih (h.serve hrequests.1) hrequests.2

/-- A definition is found by its block type. -/
theorem definition? (h : c.Orderly) (hd : c.definitions.get? key = some d) :
    c.definition? d.blockType = some d := by
  obtain ⟨hmade, hproper⟩ := h key d hd
  rw [Catalog.definition?, hmade.blockType, hproper.ofBlockType?]
  exact hd

/-- No other key has a definition of the same block type. -/
theorem key_eq (h : c.Orderly) (hd : c.definitions.get? key = some d) {key' : Key}
    {d' : Definition} (hd' : c.definitions.get? key' = some d') (he : d'.blockType = d.blockType) :
    key' = key := by
  obtain ⟨hmade, hproper⟩ := h key d hd
  obtain ⟨hmade', hproper'⟩ := h key' d' hd'
  refine Key.injOn_blockType hproper' hproper ?_
  rw [← hmade'.blockType, he, hmade.blockType]

end Orderly

/-- **A catalog is consistent, whatever it was asked for**, with whichever domains that passed their
check. A definition stays bound to its key for good; a request that fails changes nothing, and one
that does not is answered with what is stored under its key from then on, as is every other request
with that key, the one for the two ids of a link turned round among them; what is stored is found by
its block type, which is that of its key and of no other, and which shows whether it is a link. -/
theorem requests_consistent (shade : Float) (requests : List Request)
    (hrequests : ∀ r ∈ requests, r.domain.checked = .ok r.domain) :
    let c := requests.foldl serve (initial shade)
    (∀ key d, c.definitions.get? key = some d →
      ∀ later : List Request, (later.foldl serve c).definitions.get? key = some d) ∧
    (∀ r fault, c.ask r = .error fault → c.serve r = c) ∧
    (∀ r s, c.ask r = .ok s →
      (c.serve r).definitions.get? r.key = some s.definition ∧
      ∀ again : Request, again.key = r.key → ∀ later : List Request,
        (later.foldl serve (c.serve r)).ask again =
          .ok { definition := s.definition, catalog := later.foldl serve (c.serve r) }) ∧
    (∀ domain domain' name name' a b, (Request.link domain ⟨name, (a, b)⟩).key =
      (Request.link domain' ⟨name', (b, a)⟩).key) ∧
    ∀ key d, c.definitions.get? key = some d →
      d.blockType = key.blockType ∧ c.definition? d.blockType = some d ∧
      (Tag.isLinkType d.blockType = true ↔ ∃ a b, key = .link a b) ∧
      ∀ key' d', c.definitions.get? key' = some d' → d'.blockType = d.blockType → key' = key := by
  intro c
  have horderly : c.Orderly := (orderly_initial shade).foldl_serve hrequests
  refine ⟨fun key d hd later => get?_foldl_serve hd later, fun r fault he => serve_of_error he,
    fun r s hs => ⟨get?_serve hs, fun again hkey later => ?_⟩,
    fun _ _ _ _ a b => Key.ofPair_comm a b, fun key d hd => ?_⟩
  · refine ask_of_get? ?_
    rw [hkey]
    exact get?_foldl_serve (get?_serve hs) later
  · have hmade := (horderly key d hd).1
    exact ⟨hmade.blockType, horderly.definition? hd, hmade.isLinkType_iff,
      fun key' d' hd' he => horderly.key_eq hd hd' he⟩

/-- The link of ships and ports, and the getter of ships. -/
theorem requests_consistent_harbour :
    (∀ r ∈ [Request.link .harbour ⟨"calls at", ("ship", "port")⟩, .getter .harbour "ship"],
      r.domain.checked = .ok r.domain) ∧
    ∃ d, ([Request.link .harbour ⟨"calls at", ("ship", "port")⟩,
        .getter .harbour "ship"].foldl serve (initial 0)).definition? d.blockType = some d ∧
      d.blockType = "port_ship_link" ∧ Tag.isLinkType d.blockType = true := by
  have hrequests : ∀ r ∈ [Request.link .harbour ⟨"calls at", ("ship", "port")⟩,
      .getter .harbour "ship"], r.domain.checked = .ok r.domain := by
    simp only [List.forall_mem_cons]
    exact ⟨rfl, rfl, nofun⟩
  obtain ⟨-, -, -, -, hstored⟩ := requests_consistent 0 _ hrequests
  obtain ⟨d, hd⟩ : ∃ d, ([Request.link .harbour ⟨"calls at", ("ship", "port")⟩,
      .getter .harbour "ship"].foldl serve (initial 0)).definitions.get? (.link "port" "ship") =
        some d := Option.isSome_iff_exists.mp (by decide +kernel)
  obtain ⟨htype, hfound, hlink, -⟩ := hstored _ d hd
  exact ⟨hrequests, d, hfound, htype, hlink.mpr ⟨_, _, rfl⟩⟩

end Catalog

end TypedBlocks
