import TypedBlocks.Proofs.Definition.Made

/-!
# Variables

Variables are found by their id, the first of one id counts, and none is ever lost:

* `findVariable_retyped`: retyping a variable changes what is found under its id and nothing else;
* `loopVariable?_isSome_iff`: whether a loop names a variable depends on its picker and on the ids
  that there are;
* `build_declared`: making a block appends variables at most, under ids of the supply, and that
  hides no variable that was there (`Declared.findVariable`);
* `build_foreachLoop`: a loop that is made names a variable that is there by then.
-/

namespace TypedBlocks.Canvas

open Definition

variable {ids : IdSupply} {c c' : Canvas}

/-! ## Types of variables -/

/-- Retyping changes the type of the first variable of an id and no other variable. -/
theorem find?_retype (id type other : String) (vars : List Variable) :
    (retype id type vars).find? (·.id = other) =
      if other = id then (vars.find? (·.id = id)).map fun v => { v with type }
      else vars.find? (·.id = other) := by
  induction vars with
  | nil => simp [retype]
  | cons v rest ih =>
    rw [retype]
    by_cases hv : v.id = id
    · by_cases ho : other = id
      · simp [hv, ho]
      · simp [hv, ho, Ne.symm ho]
    · rw [if_neg hv, List.find?_cons, List.find?_cons, List.find?_cons, ih]
      by_cases ho : other = id
      · simp [hv, ho]
      · simp [ho]

/-- Whatever a view shows of variables but their types, retyping keeps it, in the same order. -/
theorem map_retype {γ : Type} {view : Variable → γ}
    (h : ∀ (v : Variable) (type : String), view { v with type } = view v) (id type : String)
    (vars : List Variable) : (retype id type vars).map view = vars.map view := by
  induction vars with
  | nil => rfl
  | cons v rest ih =>
    rw [retype]
    split
    · rw [List.map_cons, List.map_cons, h]
    · rw [List.map_cons, List.map_cons, ih]

/-- Where no variable has an id, none of that id is retyped. -/
theorem retype_eq_self {id : String} {vars : List Variable}
    (h : vars.find? (·.id = id) = none) (type : String) : retype id type vars = vars := by
  induction vars with
  | nil => rfl
  | cons v rest ih => by_cases hv : v.id = id <;> simp_all [retype]

/-- Of two types that a variable is given the last counts. -/
theorem retype_retype (id first second : String) (vars : List Variable) :
    retype id second (retype id first vars) = retype id second vars := by
  induction vars with
  | nil => rfl
  | cons v rest ih => by_cases hv : v.id = id <;> simp [retype, hv, ih]

/-- Variables of different ids can be given their types in either order. -/
theorem retype_comm {id other : String} (h : id ≠ other) (type type' : String)
    (vars : List Variable) :
    retype other type' (retype id type vars) = retype id type (retype other type' vars) := by
  induction vars with
  | nil => rfl
  | cons v rest ih =>
    by_cases hv : v.id = id
    · simp [retype, hv, h]
    · by_cases ho : v.id = other <;> simp [retype, hv, ho, Ne.symm h, ih]

/-- Gives a variable a type. -/
def retyped (c : Canvas) (id type : String) : Canvas := { c with vars := retype id type c.vars }

section Views

variable (c) (id type block name : String)

/-- Retyping shows in the variable that is found under the id, and under no other. It keeps its id
and its name. -/
theorem findVariable_retyped (other : String) :
    (c.retyped id type).findVariable other =
      if other = id then (c.findVariable id).map fun v => { v with type }
      else c.findVariable other :=
  find?_retype ..

@[simp] theorem target?_retyped :
    (c.retyped id type).target? block name = c.target? block name := rfl

@[simp] theorem field?_retyped : (c.retyped id type).field? block name = c.field? block name := rfl

end Views

/-- A variable that is there can be found, or an earlier one of its id. -/
theorem findVariable_isSome {v : Variable} (hv : v ∈ c.vars) : (c.findVariable v.id).isSome := by
  rw [findVariable, List.find?_isSome]
  exact ⟨v, hv, by simp⟩

/-- What is found under an id is one of the variables, and has that id. -/
theorem mem_of_findVariable {id : String} {v : Variable} (h : c.findVariable id = some v) :
    v ∈ c.vars ∧ v.id = id :=
  ⟨List.mem_of_find?_eq_some h, by simpa using List.find?_some h⟩

theorem findVariable_isSome_iff {id : String} :
    (c.findVariable id).isSome ↔ id ∈ c.vars.map (·.id) := by
  rw [findVariable, List.find?_isSome, List.mem_map]
  simp only [decide_eq_true_eq]

/-- The variable that a loop names: the one that is found under the value of its picker. Getters
name theirs in the same way. -/
def loopVariable? (c : Canvas) (loop : String) : Option Variable :=
  (c.field? loop variableField).bind fun field => c.findVariable field.value

/-- A loop names a variable just if its picker has the id of one. -/
theorem loopVariable?_isSome_iff {loop : String} :
    (c.loopVariable? loop).isSome ↔
      ∃ field, c.field? loop variableField = some field ∧ field.value ∈ c.vars.map (·.id) := by
  rw [loopVariable?]
  cases hfield : c.field? loop variableField with
  | none => simp
  | some field => simp [findVariable_isSome_iff]

/-- What a loop that names a variable has in its picker. -/
theorem field_of_loopVariable {loop : String} (hids : ∀ v ∈ c.vars, v.id ≠ "")
    (h : (c.loopVariable? loop).isSome) :
    ∃ field v, c.field? loop variableField = some field ∧ field.value ≠ "" ∧
      c.findVariable field.value = some v := by
  obtain ⟨v, hv⟩ := Option.isSome_iff_exists.mp h
  obtain ⟨field, hfield, hv⟩ := Option.bind_eq_some_iff.mp hv
  obtain ⟨hmem, hid⟩ := mem_of_findVariable hv
  exact ⟨field, v, hfield, hid ▸ hids v hmem, hv⟩

/-! ## New variables -/

/-- Variables that come later hide none that is there. -/
theorem findVariable_append {new : List Variable} (h : c'.vars = c.vars ++ new) {id : String}
    {v : Variable} (hv : c.findVariable id = some v) : c'.findVariable id = some v := by
  rw [findVariable] at hv
  rw [findVariable, h, List.find?_append, hv, Option.some_or]

/-- `c'` has the variables of `c`, and behind them some under ids of the supply. -/
def Declared (ids : IdSupply) (c c' : Canvas) : Prop :=
  ∃ new, c'.vars = c.vars ++ new ∧ ∀ v ∈ new, ∃ n, ids n = v.id

namespace Declared

theorem of_vars (h : c'.vars = c.vars) : Declared ids c c' :=
  ⟨[], by rw [h, List.append_nil], nofun⟩

/-- Declaring more is declaring: what was found under an id is found there still. -/
theorem trans {c'' : Canvas} (h : Declared ids c c') (h' : Declared ids c' c'') :
    Declared ids c c'' := by
  obtain ⟨new, hnew, hids⟩ := h
  obtain ⟨new', hnew', hids'⟩ := h'
  refine ⟨new ++ new', by rw [hnew', hnew, List.append_assoc], fun v hv => ?_⟩
  rcases List.mem_append.mp hv with hv | hv
  · exact hids v hv
  · exact hids' v hv

/-- A variable that was found is found after any number are declared behind it. -/
theorem findVariable (h : Declared ids c c') {id : String} {v : Variable}
    (hv : c.findVariable id = some v) : c'.findVariable id = some v := by
  obtain ⟨new, hnew, -⟩ := h
  exact findVariable_append hnew hv

end Declared

/-- Making sure that there is a variable of a name declares one, or none. -/
theorem ensureVariable_declared (c : Canvas) (name type : String) :
    Declared ids c (c.ensureVariable ids name type none).2 := by
  unfold ensureVariable
  split
  · exact .of_vars rfl
  · refine ⟨[_], rfl, fun v hv => ?_⟩
    rw [List.mem_singleton.mp hv]
    exact ⟨c.drawn, rfl⟩

/-- The variable that was made sure of is there afterwards, whether it was before or not. -/
theorem mem_ensureVariable (c : Canvas) (name type : String) (id : Option String) :
    (c.ensureVariable ids name type id).1 ∈ (c.ensureVariable ids name type id).2.vars := by
  unfold ensureVariable
  split
  · rename_i v hfind
    exact List.mem_of_find?_eq_some hfind
  · exact List.mem_append_right _ (List.mem_singleton.mpr rfl)

/-- Picking a variable declares one, or none: the preset is there, and so may be one of the type. -/
theorem pickVariable_declared (c : Canvas) (preset : Option String) (type : String) :
    Declared ids c (c.pickVariable ids preset type).2 := by
  rw [pickVariable]
  split
  · exact .of_vars rfl
  · split
    · exact .of_vars rfl
    · exact ensureVariable_declared ..

/-- **What a picker is bound to is there**, whether it was preset, found by its type or made. -/
theorem mem_pickVariable (c : Canvas) (preset : Option String) (type : String) :
    (c.pickVariable ids preset type).1 ∈ (c.pickVariable ids preset type).2.vars := by
  rw [pickVariable]
  split
  · rename_i v hpreset
    obtain ⟨id, -, hv⟩ := Option.bind_eq_some_iff.mp hpreset
    exact (mem_of_findVariable hv).1
  · split
    · rename_i v hfind
      split at hfind
      · cases hfind
      · exact List.mem_of_find?_eq_some hfind
    · exact mem_ensureVariable ..

/-- Making a block declares variables at most. -/
theorem build_declared (c : Canvas) (d : Definition) (preset : Option String) :
    Declared ids c (c.build ids d preset).2 :=
  build_keeps (P := Declared ids c) (fun _ _ _ h => h.trans (pickVariable_declared ..))
    (.of_vars rfl) d preset

/-- **A new loop names a variable that there is**, and holds nothing yet. -/
theorem build_foreachLoop (c : Canvas) (preset : Option String) :
    ∃ v, (c.build ids foreachLoop preset).1.fields.get? variableField = some ⟨v.id, []⟩ ∧
      v ∈ (c.build ids foreachLoop preset).2.vars :=
  ⟨(c.pickVariable ids preset "").1, rfl, mem_pickVariable ..⟩

end TypedBlocks.Canvas
