import TypedBlocks.Proofs.Definition.Made
import TypedBlocks.Toolbox

/-!
# Sound catalogs

A catalog in which every definition is made the way its key says is *sound*. The one that editors
start out with is, and it stays so whatever is asked of it, by whichever editor: a definition is
only ever added under the key that it is made for. What a catalog cannot make is passed over with a
warning, never with an error.
-/

namespace TypedBlocks

open Definition

namespace Catalog

variable {c : Catalog}

/-- Every definition is made the way its key says. It follows what inputs and outputs the blocks of
a type have. -/
def Sound (c : Catalog) : Prop := ∀ key d, c.definitions.get? key = some d → Made key d

/-- The built-in definitions, and no others, are there from the start. -/
theorem get?_initial {shade : Float} {key : Key} {d : Definition}
    (h : (initial shade).definitions.get? key = some d) :
    key = .getAttribute ∧ d = attributeGetter ∨ key = .foreach ∧ d = foreachLoop := by
  simp only [initial, Table.get?_put, Table.get?_single] at h
  split at h
  · rename_i hkey
    cases h
    exact .inl ⟨hkey, rfl⟩
  · split at h
    · rename_i hkey
      cases h
      exact .inr ⟨hkey, rfl⟩
    · cases h

theorem sound_initial (shade : Float) : (initial shade).Sound := by
  intro key d h
  rcases get?_initial h with ⟨rfl, rfl⟩ | ⟨rfl, rfl⟩
  · exact Made.getAttribute
  · exact Made.foreach

theorem made_makeGetter (c : Catalog) (collection : Collection) :
    Made (.collection collection.id) (c.makeGetter collection).1 := by
  rw [makeGetter]
  split
  · exact Made.collection ..
  · exact Made.collection ..

/-- What a shared catalog supplies is what the catalog itself supplies. -/
theorem of_shared {request : Catalog → Except Fault Supplied} {s : Supplied}
    (hs : (c.shared >>= request) = .ok s) : request c = .ok s := by
  rw [shared] at hs
  split at hs
  · cases hs
  · exact hs

/-- **What a request for a getter supplies**: the getter that is there, or else one that is made for
a collection of the domain. -/
theorem getter_eq_ok {domain : Domain} {id : String} {s : Supplied}
    (hs : c.getter domain id = .ok s) :
    (∃ d, c.definitions.get? (.collection id) = some d ∧ s = { definition := d, catalog := c }) ∨
    c.definitions.get? (.collection id) = none ∧
      ∃ collection ∈ domain.collections, id = collection.id ∧
        s = c.supply (.collection collection.id) (c.makeGetter collection).1
          (c.makeGetter collection).2 := by
  rw [Catalog.getter] at hs
  split at hs
  · rename_i d hget
    cases hs
    exact .inl ⟨d, hget, rfl⟩
  · rename_i hget
    refine .inr ⟨hget, ?_⟩
    split at hs
    · rename_i collection hcollection
      cases hs
      obtain rfl := Domain.collection?_id hcollection
      exact ⟨collection, Domain.collection?_mem hcollection, rfl, rfl⟩
    · cases hs

/-- **What a request for a link supplies**: the link that is there, or else one that is made, for
ids that collections can have. -/
theorem link_eq_ok {domain : Domain} {l : LinkType} {s : Supplied}
    (hs : c.link domain l = .ok s) :
    (∃ d, c.definitions.get? (.ofPair l.collections.1 l.collections.2) = some d ∧
      s = { definition := d, catalog := c }) ∨
    c.definitions.get? (.ofPair l.collections.1 l.collections.2) = none ∧
      ∃ first second : Collection, l.collections = (first.id, second.id) ∧
        Collection.isUsableId first.id = true ∧ Collection.isUsableId second.id = true ∧
        s = c.supply (.ofPair first.id second.id)
          (Definition.link (Key.ofPair first.id second.id).blockType l first second) [] := by
  obtain ⟨name, a, b⟩ := l
  simp only [Catalog.link] at hs
  split at hs
  · rename_i d hget
    cases hs
    exact .inl ⟨d, hget, rfl⟩
  · rename_i hget
    refine .inr ⟨hget, ?_⟩
    split at hs
    · cases hs
    · rename_i hfind
      simp only [List.find?_eq_none, List.mem_cons, List.not_mem_nil, or_false,
        forall_eq_or_imp, forall_eq, Bool.not_eq_true', Bool.not_eq_false] at hfind
      obtain ⟨ha, hb⟩ := hfind
      cases hfirst : domain.collection? a with
      | error fault => simp [hfirst, bind, Except.bind] at hs
      | ok first =>
        cases hsecond : domain.collection? b with
        | error fault => simp [hfirst, hsecond, bind, Except.bind] at hs
        | ok second =>
          simp only [hfirst, hsecond, bind, Except.bind, pure, Except.pure,
            Except.ok.injEq] at hs
          cases hs
          -- what was found has the ids that were asked for, and those are usable
          obtain rfl := Domain.collection?_id hfirst
          obtain rfl := Domain.collection?_id hsecond
          exact ⟨first, second, rfl, ha, hb, rfl⟩

namespace Sound

/-- What a block type stands for is made in one of the four ways. -/
theorem definition? (h : c.Sound) {blockType : String} {d : Definition}
    (hd : c.definition? blockType = some d) : ∃ key, Made key d := by
  obtain ⟨key, -, hget⟩ := Option.bind_eq_some_iff.mp hd
  exact ⟨key, h key d hget⟩

theorem supply (h : c.Sound) {key : Key} {d : Definition} (hd : Made key d)
    (notices : List Notice) : (c.supply key d notices).catalog.Sound := by
  intro other d' hget
  simp only [Catalog.supply, Table.get?_put] at hget
  split at hget
  · rename_i he
    cases hget
    exact he ▸ hd
  · exact h other d' hget

theorem getter (h : c.Sound) {domain : Domain} {id : String} {s : Supplied}
    (hs : c.getter domain id = .ok s) : s.catalog.Sound := by
  rcases getter_eq_ok hs with ⟨d, -, rfl⟩ | ⟨-, collection, -, -, rfl⟩
  · exact h
  · exact h.supply (c.made_makeGetter collection) _

theorem link (h : c.Sound) {domain : Domain} {l : LinkType} {s : Supplied}
    (hs : c.link domain l = .ok s) : s.catalog.Sound := by
  rcases link_eq_ok hs with ⟨d, -, rfl⟩ | ⟨-, first, second, -, hfirst, hsecond, rfl⟩
  · exact h
  · exact h.supply (Made.link _ hfirst hsecond) _

/-! ## Listings -/

theorem variableListing (h : c.Sound) (p : Propagator) (vars : List Variable) :
    (p.variableListing c vars).catalog.Sound := by
  suffices hfold : ∀ listing : Toolbox.Listing, listing.catalog.Sound →
      (vars.foldl p.addVariable listing).catalog.Sound from hfold _ h
  induction vars with
  | nil => exact fun _ h => h
  | cons v vars ih =>
    intro listing hl
    refine ih _ ?_
    rw [Propagator.addVariable]
    split
    · split
      · rename_i hs
        exact hl.getter (of_shared hs)
      · exact hl
    · exact hl

theorem linkListing (h : c.Sound) (p : Propagator) : (p.linkListing c).catalog.Sound := by
  suffices hfold : ∀ (links : List LinkType) (listing : Toolbox.Listing),
      listing.catalog.Sound → (links.foldl p.addLink listing).catalog.Sound from
    hfold _ _ h
  intro links
  induction links with
  | nil => exact fun _ h => h
  | cons l links ih =>
    intro listing hl
    refine ih _ ?_
    rw [Propagator.addLink]
    split
    · rename_i hs
      exact hl.link (of_shared hs)
    · exact hl

end Sound

/-! ## What requests note -/

/-- A request for a getter notes warnings at most. -/
theorem getter_notices {domain : Domain} {id : String} {s : Supplied}
    (hs : c.getter domain id = .ok s) : ∀ n ∈ s.notices, n.isError = false := by
  rcases getter_eq_ok hs with ⟨d, -, rfl⟩ | ⟨-, collection, -, -, rfl⟩
  · nofun
  · simp only [supply, makeGetter]
    split
    · nofun
    · intro n hn
      rw [List.mem_singleton.mp hn]
      rfl

/-- A request for a link notes nothing. -/
theorem link_notices {domain : Domain} {l : LinkType} {s : Supplied}
    (hs : c.link domain l = .ok s) : s.notices = [] := by
  rcases link_eq_ok hs with ⟨d, -, rfl⟩ | ⟨-, first, second, -, -, -, rfl⟩ <;> rfl

end Catalog

namespace Propagator

/-- **Listing the document variables notes warnings at most.** -/
theorem variableListing_notices (p : Propagator) (c : Catalog) (vars : List Variable) :
    ∀ n ∈ (p.variableListing c vars).notices, n.isError = false := by
  suffices hfold : ∀ listing : Toolbox.Listing, (∀ n ∈ listing.notices, n.isError = false) →
      ∀ n ∈ (vars.foldl p.addVariable listing).notices, n.isError = false from hfold _ nofun
  induction vars with
  | nil => exact fun _ h => h
  | cons v vars ih =>
    intro listing hl
    refine ih _ ?_
    rw [addVariable]
    split
    · split
      · rename_i hs
        exact fun n hn => (List.mem_append.mp hn).elim (hl n)
          (Catalog.getter_notices (Catalog.of_shared hs) n)
      · intro n hn
        rcases List.mem_append.mp hn with hn | hn
        · exact hl n hn
        · rw [List.mem_singleton.mp hn]
          rfl
    · exact hl

/-- **Listing the links notes warnings at most.** -/
theorem linkListing_notices (p : Propagator) (c : Catalog) :
    ∀ n ∈ (p.linkListing c).notices, n.isError = false := by
  suffices hfold : ∀ (links : List LinkType) (listing : Toolbox.Listing),
      (∀ n ∈ listing.notices, n.isError = false) →
      ∀ n ∈ (links.foldl p.addLink listing).notices, n.isError = false from hfold _ _ nofun
  intro links
  induction links with
  | nil => exact fun _ h => h
  | cons l links ih =>
    intro listing hl
    refine ih _ ?_
    rw [addLink]
    split
    · rename_i hs
      dsimp only
      rw [Catalog.link_notices (Catalog.of_shared hs), List.append_nil]
      exact hl
    · intro n hn
      rcases List.mem_append.mp hn with hn | hn
      · exact hl n hn
      · rw [List.mem_singleton.mp hn]
        rfl

end Propagator

end TypedBlocks
