import Mathlib
import TypedBlocks.Proofs.Canvas.Amended
import TypedBlocks.Proofs.Canvas.Variables

/-!
# Names and ids of variables

Every variable has an id of its own, drawn from the supply (`Enrolled`), so what is found under the
id of a variable is that variable. A picker that is not preset to something else is bound to a
variable of the type that it wants (`type_pickVariable_iff`): if there is none yet, one is made, and
that is never mistaken for another, because the name that it is given is the first that is taken by
none (`freshName_first`).
-/

namespace TypedBlocks.Canvas

variable {ids : IdSupply} {c c' : Canvas}

/-! ## Names -/

/-- No name is tried twice. -/
theorem candidateName_injective : Function.Injective candidateName := by
  intro m n h
  rw [candidateName, candidateName] at h
  by_cases hm : m = 0
  · by_cases hn : n = 0
    · rw [hm, hn]
    · rw [if_pos hm, if_neg hn] at h
      exact absurd (String.append_eq_left_iff.mp h.symm) (Nat.repr_ne_empty)
  · by_cases hn : n = 0
    · rw [if_neg hm, if_pos hn] at h
      exact absurd (String.append_eq_left_iff.mp h) (Nat.repr_ne_empty)
    · rw [if_neg hm, if_neg hn, String.append_right_inj, Nat.repr_inj] at h
      exact Nat.succ.inj h

/-- **A new name is the first candidate that is not taken.** There is one more candidate than names
that are taken, so the search comes to an end in time. -/
theorem freshName_first (taken : List String) :
    ∃ n ≤ taken.length, freshName taken = candidateName n ∧ candidateName n ∉ taken ∧
      ∀ m < n, candidateName m ∈ taken := by
  rw [freshName]
  split
  · rename_i n hfind
    obtain ⟨hfree, hmem, hbefore⟩ := List.find?_range_eq_some.mp hfind
    refine ⟨n, Nat.lt_succ_iff.mp (List.mem_range.mp hmem), rfl, by simpa using hfree, ?_⟩
    intro m hm
    simpa using hbefore m hm
  · -- all candidates would be taken, more than there are names
    rename_i hfind
    have hall : (List.range (taken.length + 1)).map candidateName ⊆ taken := by
      intro name hname
      obtain ⟨n, hn, rfl⟩ := List.mem_map.mp hname
      simpa using List.find?_eq_none.mp hfind n hn
    have hnodup : ((List.range (taken.length + 1)).map candidateName).Nodup :=
      List.nodup_range.map candidateName_injective
    have hlength := (hnodup.subperm hall).length_le
    rw [List.length_map, List.length_range] at hlength
    omega

/-- **A new name is taken by none**, whatever names there are: the search for it never runs out. -/
theorem freshName_not_mem (taken : List String) : freshName taken ∉ taken := by
  obtain ⟨n, -, hname, hfree, -⟩ := freshName_first taken
  rw [hname]
  exact hfree

/-- No variable is found under the name that a new one is given. -/
theorem find?_freshName (vars : List Variable) :
    vars.find? (·.name = freshName (vars.map (·.name))) = none := by
  refine List.find?_eq_none.mpr fun v hv he => ?_
  exact freshName_not_mem (vars.map (·.name)) (of_decide_eq_true he ▸ List.mem_map_of_mem hv)

/-! ## Ids -/

/-- Variables have ids of their own, which were drawn. So the next id that is drawn is that of none
of them. -/
structure Enrolled (ids : IdSupply) (c : Canvas) : Prop where
  nodup : (c.vars.map (·.id)).Nodup
  drawn : ∀ v ∈ c.vars, ∃ n, n < c.drawn ∧ ids n = v.id

namespace Enrolled

theorem empty : Enrolled ids empty := ⟨List.nodup_nil, nofun⟩

/-- What is found under the id of a variable is that variable. -/
theorem findVariable (h : Enrolled ids c) {v : Variable} (hv : v ∈ c.vars) :
    c.findVariable v.id = some v := by
  obtain ⟨found, hfound⟩ := Option.isSome_iff_exists.mp (findVariable_isSome hv)
  obtain ⟨hmem, hid⟩ := mem_of_findVariable hfound
  rw [hfound, List.inj_on_of_nodup_map h.nodup hmem hv hid]

/-- A change that no variable comes or goes by. -/
theorem congr (h : Enrolled ids c) (hids : c'.vars.map (·.id) = c.vars.map (·.id))
    (hdrawn : c.drawn ≤ c'.drawn) : Enrolled ids c' := by
  refine ⟨hids ▸ h.nodup, fun v hv => ?_⟩
  have hmem : v.id ∈ c.vars.map (·.id) := hids ▸ List.mem_map_of_mem hv
  obtain ⟨v', hv', hid⟩ := List.mem_map.mp hmem
  obtain ⟨n, hn, hid'⟩ := h.drawn v' hv'
  exact ⟨n, Nat.lt_of_lt_of_le hn hdrawn, hid'.trans hid⟩

/-- A variable is made, under the next id. -/
theorem ensureVariable (hids : Function.Injective ids) (h : Enrolled ids c) (name type : String) :
    Enrolled ids (c.ensureVariable ids name type none).2 := by
  unfold Canvas.ensureVariable
  split
  · exact h
  · refine ⟨?_, fun v hv => ?_⟩
    · simp only [draw, List.map_append, List.map_cons, List.map_nil]
      refine List.nodup_append.mpr ⟨h.nodup, List.nodup_singleton _, fun id hid new hnew he => ?_⟩
      -- the next id is none of those that were drawn before
      obtain ⟨v, hv, rfl⟩ := List.mem_map.mp hid
      obtain ⟨n, hn, hid'⟩ := h.drawn v hv
      rw [List.mem_singleton] at hnew
      exact Nat.ne_of_lt hn (hids (hid'.trans (he.trans hnew)))
    · rcases List.mem_append.mp hv with hv | hv
      · obtain ⟨n, hn, hid⟩ := h.drawn v hv
        exact ⟨n, Nat.lt_succ_of_lt hn, hid⟩
      · rw [List.mem_singleton.mp hv]
        exact ⟨c.drawn, Nat.lt_succ_self _, rfl⟩

theorem pickVariable (hids : Function.Injective ids) (h : Enrolled ids c) (preset : Option String)
    (type : String) : Enrolled ids (c.pickVariable ids preset type).2 := by
  rw [Canvas.pickVariable]
  split
  · exact h
  · split
    · exact h
    · exact h.ensureVariable hids ..

/-- Making a block keeps the ids apart. -/
theorem build (hids : Function.Injective ids) (h : Enrolled ids c) (d : Definition)
    (preset : Option String) : Enrolled ids (c.build ids d preset).2 :=
  build_keeps (fun _ preset type h => h.pickVariable hids preset type) h d preset

/-- A block is made. -/
theorem create (hids : Function.Injective ids) (h : Enrolled ids c) {catalog : Catalog}
    {blockType id : String} {preset : Option String}
    (hmade : c.create ids catalog blockType preset = .ok (id, c')) : Enrolled ids c' := by
  obtain ⟨d, -, -, rfl⟩ := create_eq_ok hmade
  have hdraw : Enrolled ids (c.draw ids).2 := h.congr rfl (Nat.le_succ _)
  exact (hdraw.build hids d preset).congr rfl (Nat.le_refl _)

end Enrolled

/-! ## What a picker is bound to -/

/-- **A picker is bound to a variable of the type that it wants**, just if it is not preset to one
of another. Without a preset that can be found it takes the first variable of its type, or has one
made. -/
theorem type_pickVariable_iff (ids : IdSupply) (c : Canvas) {preset : Option String}
    {type : String} (hne : type ≠ "") :
    (c.pickVariable ids preset type).1.type = type ↔
      ∀ v, preset.bind c.findVariable = some v → v.type = type := by
  rw [pickVariable]
  split
  · rename_i v hpreset
    simp [hpreset]
  · rename_i hpreset
    rw [hpreset]
    refine iff_of_true ?_ (by simp)
    split
    · rename_i v hfind
      rw [if_neg hne] at hfind
      simpa using List.find?_some hfind
    · unfold ensureVariable
      rw [find?_freshName]

end TypedBlocks.Canvas
