import Mathlib.Data.List.Nodup
import TypedBlocks.Table

/-!
# Tables under maps

The values of a table can be mapped, each with its key at hand, and so can its keys as long as they
stay apart. Changing and setting values commutes with both.
-/

namespace TypedBlocks.Table

variable {κ κ' β γ : Type}

/-- A table with other values; the keys stay. -/
def mapValues (t : Table κ β) (f : κ → β → γ) : Table κ γ where
  entries := t.entries.map fun e => (e.1, f e.1 e.2)
  nodup := by
    rw [List.map_map]
    exact t.nodup

/-- A table with other keys; the values stay. -/
def mapKeys (t : Table κ β) (g : κ → κ') (hg : Function.Injective g) : Table κ' β where
  entries := t.entries.map fun e => (g e.1, e.2)
  nodup := by
    have h := t.nodup.map hg
    rw [List.map_map] at h ⊢
    exact h

/-- A table is its entries; that no key comes twice in them adds nothing. -/
theorem eq_of_entries {s t : Table κ β} (h : s.entries = t.entries) : s = t := by
  cases s
  cases t
  cases h
  rfl

theorem mapValues_mapValues {δ : Type} (t : Table κ β) (f : κ → β → γ) (g : κ → γ → δ) :
    (t.mapValues f).mapValues g = t.mapValues fun key value => g key (f key value) :=
  eq_of_entries (List.map_map ..)

theorem mapValues_self (t : Table κ β) : (t.mapValues fun _ value => value) = t :=
  eq_of_entries (List.map_id _)

@[simp] theorem keys_mapValues (t : Table κ β) (f : κ → β → γ) : (t.mapValues f).keys = t.keys := by
  rw [keys, keys, mapValues, List.map_map]
  rfl

@[simp] theorem keys_mapKeys (t : Table κ β) (g : κ → κ') (hg : Function.Injective g) :
    (t.mapKeys g hg).keys = t.keys.map g := by
  rw [keys, keys, mapKeys, List.map_map, List.map_map]
  rfl

variable [DecidableEq κ] [DecidableEq κ']

@[simp] theorem get?_mapValues (t : Table κ β) (f : κ → β → γ) (key : κ) :
    (t.mapValues f).get? key = (t.get? key).map (f key) := by
  obtain ⟨entries, hnodup⟩ := t
  simp only [get?, mapValues]
  clear hnodup
  induction entries with
  | nil => rfl
  | cons e rest ih =>
    rw [List.map_cons, lookup_cons_eq, lookup_cons_eq, ih]
    split
    · rename_i hkey
      rw [hkey, Option.map_some]
    · rfl

/-- Under a renamed key there is what was under the key. This is where keys have to stay apart. -/
@[simp] theorem get?_mapKeys (t : Table κ β) (g : κ → κ') (hg : Function.Injective g) (key : κ) :
    (t.mapKeys g hg).get? (g key) = t.get? key := by
  obtain ⟨entries, hnodup⟩ := t
  simp only [get?, mapKeys]
  clear hnodup
  induction entries with
  | nil => rfl
  | cons e rest ih =>
    rw [List.map_cons, lookup_cons_eq, lookup_cons_eq, ih]
    simp only [hg.eq_iff]

/-- A change of one value commutes with a change of all, if the two commute on values. -/
theorem mapValues_modify (t : Table κ β) (f : κ → β → γ) (key : κ) (change : β → β)
    (change' : γ → γ) (h : ∀ value, f key (change value) = change' (f key value)) :
    (t.modify key change).mapValues f = (t.mapValues f).modify key change' := by
  apply eq_of_entries
  simp only [mapValues, modify, List.map_map]
  refine List.map_congr_left fun e _ => ?_
  by_cases hkey : e.1 = key
  · simp [hkey, h]
  · simp [hkey]

/-- A change of one value commutes with a change of keys. -/
theorem mapKeys_modify (t : Table κ β) (g : κ → κ') (hg : Function.Injective g) (key : κ)
    (change : β → β) :
    (t.modify key change).mapKeys g hg = (t.mapKeys g hg).modify (g key) change := by
  apply eq_of_entries
  simp only [mapKeys, modify, List.map_map]
  refine List.map_congr_left fun e _ => ?_
  by_cases hkey : e.1 = key
  · simp [hkey]
  · simp [hkey, hg.eq_iff]

/-- What is put into a table is changed with the rest. -/
theorem mapValues_put (t : Table κ β) (f : κ → β → γ) (key : κ) (value : β) :
    (t.put key value).mapValues f = (t.mapValues f).put key (f key value) := by
  have hkeys : key ∈ (t.mapValues f).keys ↔ key ∈ t.keys := by rw [keys_mapValues]
  by_cases h : key ∈ t.keys
  · rw [put, put, dif_pos h, dif_pos (hkeys.mpr h)]
    exact t.mapValues_modify f key (fun _ => value) (fun _ => f key value) fun _ => rfl
  · rw [put, put, dif_neg h, dif_neg (mt hkeys.mp h)]
    exact eq_of_entries List.map_append

theorem mapKeys_put (t : Table κ β) (g : κ → κ') (hg : Function.Injective g) (key : κ)
    (value : β) :
    (t.put key value).mapKeys g hg = (t.mapKeys g hg).put (g key) value := by
  have hkeys : g key ∈ (t.mapKeys g hg).keys ↔ key ∈ t.keys := by
    rw [keys_mapKeys, List.mem_map_of_injective hg]
  by_cases h : key ∈ t.keys
  · rw [put, put, dif_pos h, dif_pos (hkeys.mpr h)]
    exact t.mapKeys_modify g hg key _
  · rw [put, put, dif_neg h, dif_neg (mt hkeys.mp h)]
    exact eq_of_entries List.map_append

end TypedBlocks.Table
