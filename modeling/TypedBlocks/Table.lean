/-!
# Tables

A table holds one value per key and keeps its keys in the order in which they came. Its view is
`get?`: every operation is pinned down by what it does to `get?` and to `keys`, and two tables
with the same keys in the same order and the same values are equal (`ext_get?`).
-/

namespace TypedBlocks

/-- Values by key, in the order in which the keys came. No key has two values, by its type. -/
structure Table (κ β : Type) where
  /-- the keys with their values -/
  entries : List (κ × β)
  /-- no key stands twice -/
  nodup : (entries.map (·.1)).Nodup

namespace Table

variable {κ β : Type}

/-- The table without keys. -/
def empty : Table κ β := ⟨[], List.nodup_nil⟩

instance : Inhabited (Table κ β) := ⟨empty⟩

/-- The keys in order. -/
def keys (t : Table κ β) : List κ := t.entries.map (·.1)

/-- The number of keys. -/
def size (t : Table κ β) : Nat := t.entries.length

/-- A table of one key. -/
def single (key : κ) (value : β) : Table κ β := ⟨[(key, value)], by simp⟩

variable [DecidableEq κ]

/-- The value of a key, if the table has it. -/
def get? (t : Table κ β) (key : κ) : Option β := t.entries.lookup key

/-- Changes the value of a key that the table has, in its place; any other key changes nothing. -/
def modify (t : Table κ β) (key : κ) (change : β → β) : Table κ β where
  entries := t.entries.map fun e => if e.1 = key then (e.1, change e.2) else e
  nodup := by
    have h : (t.entries.map fun e => if e.1 = key then (e.1, change e.2) else e).map (·.1) =
        t.entries.map (·.1) := by
      rw [List.map_map]
      exact List.map_congr_left fun e _ => by
        simp only [Function.comp_apply]
        split <;> rfl
    rw [h]
    exact t.nodup

/-- Sets the value of a key: in its place if the table has it, and at the end if it is new. -/
def put (t : Table κ β) (key : κ) (value : β) : Table κ β :=
  if h : key ∈ t.keys then t.modify key fun _ => value
  else
    { entries := t.entries ++ [(key, value)]
      nodup := by
        rw [List.map_append]
        exact List.nodup_append.mpr ⟨t.nodup, by simp, fun a ha b hb hab => by
          simp only [List.map_cons, List.map_nil, List.mem_singleton] at hb
          exact h (hb ▸ hab ▸ ha)⟩ }

/-- Takes a key out. -/
def erase (t : Table κ β) (key : κ) : Table κ β where
  entries := t.entries.filter (·.1 ≠ key)
  nodup := t.nodup.sublist (List.filter_sublist.map _)

/-! ## What the operations do to the view -/

/-- Looking a key up in a list, as a decision on the first entry. -/
theorem lookup_cons_eq (key : κ) (e : κ × β) (rest : List (κ × β)) :
    (e :: rest).lookup key = if key = e.1 then some e.2 else rest.lookup key := by
  obtain ⟨k, v⟩ := e
  by_cases h : key = k
  · rw [List.lookup_cons, beq_iff_eq.2 h, if_pos h]
  · rw [List.lookup_cons, beq_eq_false_iff_ne.2 h, if_neg h]

@[simp] theorem get?_empty (key : κ) : (empty : Table κ β).get? key = none := rfl

@[simp] theorem get?_single (key other : κ) (value : β) :
    (single key value).get? other = if other = key then some value else none := by
  simp [single, get?, lookup_cons_eq]

/-- A key has a value just if the table has the key. -/
theorem get?_isSome_iff {t : Table κ β} {key : κ} : (t.get? key).isSome ↔ key ∈ t.keys := by
  rw [get?, keys, List.lookup_isSome_iff, List.mem_map]
  simp only [beq_iff_eq, @eq_comm _ key]

theorem get?_eq_none_iff {t : Table κ β} {key : κ} : t.get? key = none ↔ key ∉ t.keys := by
  rw [← get?_isSome_iff, Option.not_isSome_iff_eq_none]

@[simp] theorem keys_modify (t : Table κ β) (key : κ) (change : β → β) :
    (t.modify key change).keys = t.keys := by
  simp only [keys, modify, List.map_map]
  exact List.map_congr_left fun e _ => by
    simp only [Function.comp_apply]
    split <;> rfl

/-- Changing a key changes its value and no other. -/
theorem get?_modify (t : Table κ β) (key other : κ) (change : β → β) :
    (t.modify key change).get? other =
      if other = key then (t.get? other).map change else t.get? other := by
  obtain ⟨entries, hnodup⟩ := t
  simp only [get?, modify]
  clear hnodup
  induction entries with
  | nil => simp
  | cons e rest ih =>
    rw [List.map_cons, lookup_cons_eq, lookup_cons_eq, ih]
    by_cases he : e.1 = key
    · by_cases ho : other = key
      · simp [he, ho]
      · simp [he, ho]
    · by_cases ho : other = e.1
      · simp [he, ho]
      · simp [he, ho]

@[simp] theorem get?_modify_self (t : Table κ β) (key : κ) (change : β → β) :
    (t.modify key change).get? key = (t.get? key).map change := by
  simp [get?_modify]

/-- Setting a key sets its value and no other. -/
theorem get?_put (t : Table κ β) (key other : κ) (value : β) :
    (t.put key value).get? other = if other = key then some value else t.get? other := by
  unfold put
  split
  · rename_i h
    rw [get?_modify]
    split
    · rename_i ho
      subst ho
      obtain ⟨v, hv⟩ := Option.isSome_iff_exists.mp (get?_isSome_iff.mpr h)
      rw [hv, Option.map_some]
    · rfl
  · rename_i h
    have hnone := get?_eq_none_iff.mpr h
    obtain ⟨entries, hnodup⟩ := t
    simp only [get?] at hnone ⊢
    rw [List.lookup_append]
    by_cases ho : other = key
    · subst ho
      rw [hnone, if_pos rfl]
      simp [lookup_cons_eq]
    · rw [if_neg ho]
      cases List.lookup other entries <;> simp [lookup_cons_eq, ho]

/-- A key that is set stands where it stood, a new one at the end. -/
theorem keys_put (t : Table κ β) (key : κ) (value : β) :
    (t.put key value).keys = if key ∈ t.keys then t.keys else t.keys ++ [key] := by
  unfold put
  split
  · rw [keys_modify]
  · simp [keys]

/-- Taking a key out takes out its value and no other. -/
theorem get?_erase (t : Table κ β) (key other : κ) :
    (t.erase key).get? other = if other = key then none else t.get? other := by
  obtain ⟨entries, hnodup⟩ := t
  simp only [get?, erase]
  clear hnodup
  induction entries with
  | nil => simp
  | cons e rest ih =>
    rw [List.filter_cons]
    by_cases he : e.1 = key
    · simp only [he, ne_eq, not_true_eq_false, decide_false, Bool.false_eq_true, if_false]
      rw [ih, lookup_cons_eq, he]
      split <;> rfl
    · simp only [he, ne_eq, not_false_eq_true, decide_true, if_true]
      rw [lookup_cons_eq, lookup_cons_eq, ih]
      by_cases ho : other = e.1
      · simp [ho, he]
      · simp [ho]

/-- Tables with the same keys in the same order and the same values are equal. -/
theorem ext_get? {s t : Table κ β} (hkeys : s.keys = t.keys)
    (hget : ∀ key, s.get? key = t.get? key) : s = t := by
  obtain ⟨xs, hx⟩ := s
  obtain ⟨ys, hy⟩ := t
  simp only [keys, get?] at hkeys hget
  congr
  induction xs generalizing ys with
  | nil =>
    cases ys with
    | nil => rfl
    | cons y ys => simp at hkeys
  | cons x xs ih =>
    cases ys with
    | nil => simp at hkeys
    | cons y ys =>
      simp only [List.map_cons, List.cons.injEq, List.nodup_cons] at hkeys hx hy
      obtain ⟨hxy, hrest⟩ := hkeys
      have hv : x.2 = y.2 := by
        have := hget x.1
        simpa [lookup_cons_eq, hxy] using this
      have htail : xs = ys := by
        refine ih hx.2 ys hy.2 hrest fun key => ?_
        by_cases hk : key = x.1
        · have h1 : List.lookup key xs = none := by
            have := @get?_eq_none_iff _ _ _ ⟨xs, hx.2⟩ key
            exact this.mpr (hk ▸ hx.1)
          have h2 : List.lookup key ys = none := by
            have := @get?_eq_none_iff _ _ _ ⟨ys, hy.2⟩ key
            exact this.mpr (by rw [hk, hxy]; exact hy.1)
          rw [h1, h2]
        · have := hget key
          have hk' : key ≠ y.1 := hxy ▸ hk
          simpa [lookup_cons_eq, hk, hk'] using this
      rw [htail, Prod.ext hxy hv]

end Table

end TypedBlocks
