import TypedBlocks.Proofs.Canvas.Views
import TypedBlocks.Proofs.Renaming.Tables

/-!
# Canvases with other ids

The ids of blocks and variables can be exchanged for others throughout a canvas: in the keys, the
plugs, the targets, the variable pickers and the variables. The other texts on a canvas are no ids
and stay, also where they happen to read like one; a dropdown keeps its value.

No operation looks at what an id reads like, other than whether it is empty. So each commutes with
a `Renaming`, which keeps ids apart and the empty text where it is: on the renamed canvas it does
what it does on the canvas, renamed, and it fails with the same fault about the renamed ids.
-/

namespace TypedBlocks

open Definition

/-- Other texts for ids. Two ids stay apart, and the empty text, which is the value of a picker that
names nothing, stays as it is. -/
structure Renaming where
  map : String → String
  injective : Function.Injective map
  map_empty : map "" = ""

instance : CoeFun Renaming fun _ => String → String := ⟨Renaming.map⟩

namespace Renaming

variable (ρ : Renaming)

@[simp] theorem eq_iff {a b : String} : ρ a = ρ b ↔ a = b := ρ.injective.eq_iff

/-- No id is renamed to the empty text, which stands for no variable: a renaming keeps that
apart. -/
@[simp] theorem eq_empty_iff {a : String} : ρ a = "" ↔ a = "" := by
  rw [← ρ.injective.eq_iff (a := a), ρ.map_empty]

/-- The renamed ids of a supply: what it draws under the other names. -/
def supply (ids : IdSupply) : IdSupply := fun n => ρ (ids n)

end Renaming

/-! ## What has ids in it -/

def Plug.rename (ρ : String → String) (plug : Plug) : Plug := { plug with block := ρ plug.block }

def Input.rename (ρ : String → String) (i : Input) : Input := { i with target := i.target.map ρ }

/-- The field of a name: the value of a variable picker is an id. -/
def Field.rename (ρ : String → String) (name : String) (f : Field) : Field :=
  if name = variableField then { f with value := ρ f.value } else f

def Block.rename (ρ : String → String) (b : Block) : Block :=
  { b with
    parent := b.parent.map (Plug.rename ρ)
    inputs := b.inputs.mapValues fun _ => Input.rename ρ
    fields := b.fields.mapValues (Field.rename ρ) }

def Variable.rename (ρ : String → String) (v : Variable) : Variable := { v with id := ρ v.id }

/-- A fault about other blocks and variables. -/
def Fault.rename (ρ : String → String) : Fault → Fault
  | .unplugged block => .unplugged (ρ block)
  | .vacant block input => .vacant (ρ block) input
  | .noBlock id => .noBlock (ρ id)
  | .noInput block input => .noInput (ρ block) input
  | .noField block field => .noField (ρ block) field
  | .noVariable id => .noVariable (ρ id)
  | .misfit child parent input => .misfit (ρ child) (ρ parent) input
  | fault => fault

section Laws

variable (σ ρ : String → String)

/-- Renaming twice is renaming once, by the composition; so for all that holds ids. -/
theorem Input.rename_rename (i : Input) : (i.rename ρ).rename σ = i.rename (σ ∘ ρ) := by
  simp only [rename, Option.map_map]

theorem Input.rename_id (i : Input) : i.rename id = i := by
  simp only [rename, Option.map_id, id_eq]

theorem Field.rename_rename (name : String) (f : Field) :
    (f.rename ρ name).rename σ name = f.rename (σ ∘ ρ) name := by
  unfold rename
  split <;> rfl

theorem Block.rename_rename (b : Block) : (b.rename ρ).rename σ = b.rename (σ ∘ ρ) := by
  simp only [rename, Option.map_map, Table.mapValues_mapValues, Input.rename_rename,
    Field.rename_rename]
  rfl

theorem Block.rename_id (b : Block) : b.rename id = b := by
  have hplug : Plug.rename id = id := rfl
  have hinput : Input.rename id = fun i => i := funext Input.rename_id
  have hfield : Field.rename id = fun _ f => f := funext fun name => funext fun f => ite_self f
  simp only [rename, hplug, hinput, hfield, Option.map_id, id_eq, Table.mapValues_self]

theorem Variable.rename_rename (v : Variable) : (v.rename ρ).rename σ = v.rename (σ ∘ ρ) := rfl

theorem Fault.rename_rename (fault : Fault) :
    (fault.rename ρ).rename σ = fault.rename (σ ∘ ρ) := by
  cases fault <;> rfl

theorem Fault.rename_id (fault : Fault) : fault.rename id = fault := by
  cases fault <;> rfl

end Laws

/-- A result, and the fault if there is none, with other ids. -/
def Renaming.result {α β : Type} (ρ : Renaming) (f : α → β) : Except Fault α → Except Fault β
  | .ok a => .ok (f a)
  | .error fault => .error (fault.rename ρ)

/-- A result that succeeds is renamed by renaming what it succeeded with. -/
@[simp] theorem Renaming.result_ok {α β : Type} (ρ : Renaming) (f : α → β) (a : α) :
    ρ.result f (.ok a) = .ok (f a) := rfl

namespace Canvas

/-- A canvas with other ids: those that blocks and variables have, and those by which blocks name
each other and variables. -/
def rename (ρ : Renaming) (c : Canvas) : Canvas where
  blocks := (c.blocks.mapValues fun _ => Block.rename ρ).mapKeys ρ ρ.injective
  vars := c.vars.map (Variable.rename ρ)
  drawn := c.drawn

end Canvas

variable (ρ : Renaming)

/-! ## Views -/

/-- Only variable pickers have an id as their value, so any other field is renamed to itself. -/
theorem Field.rename_of_ne {ρ : String → String} {name : String} (h : name ≠ variableField)
    (f : Field) : f.rename ρ name = f := if_neg h

/-- The value of a variable picker is the id of a variable, and renamed as such. -/
@[simp] theorem Field.rename_variableField (ρ : String → String) (f : Field) :
    f.rename ρ variableField = { f with value := ρ f.value } := if_pos rfl

@[simp] theorem Block.type_rename (ρ : String → String) (b : Block) :
    (b.rename ρ).type = b.type := rfl

@[simp] theorem Block.tag_rename (ρ : String → String) (b : Block) :
    (b.rename ρ).tag = b.tag := rfl

/-- The target of an input is the id of a block, and renamed as such. -/
theorem Block.target?_rename (b : Block) (input : String) :
    (b.rename ρ).target? input = (b.target? input).map ρ := by
  rw [target?, target?, rename, Table.get?_mapValues]
  cases b.inputs.get? input <;> rfl

namespace Canvas

variable (c : Canvas)

/-- Looking a renamed block up under its new id is looking it up under the old one. -/
@[simp] theorem block?_rename (id : String) :
    (c.rename ρ).block? (ρ id) = (c.block? id).map (Block.rename ρ) := by
  rw [block?, rename, Table.get?_mapKeys, Table.get?_mapValues, block?]

@[simp] theorem target?_rename (block input : String) :
    (c.rename ρ).target? (ρ block) input = (c.target? block input).map ρ := by
  rw [target?_eq_bind, target?_eq_bind, block?_rename]
  cases c.block? block with
  | none => rfl
  | some b => exact b.target?_rename ρ input

@[simp] theorem plug?_rename (block : String) :
    (c.rename ρ).plug? (ρ block) = (c.plug? block).map (Plug.rename ρ) := by
  rw [plug?_eq_bind, plug?_eq_bind, block?_rename]
  cases c.block? block <;> rfl

@[simp] theorem holder?_rename (block : String) :
    (c.rename ρ).holder? (ρ block) = (c.holder? block).map ρ := by
  rw [holder?, holder?, plug?_rename]
  cases c.plug? block <;> rfl

@[simp] theorem field?_rename (block field : String) :
    (c.rename ρ).field? (ρ block) field = (c.field? block field).map (Field.rename ρ field) := by
  rw [field?_eq_bind, field?_eq_bind, block?_rename]
  cases c.block? block with
  | none => rfl
  | some b => exact b.fields.get?_mapValues ..

@[simp] theorem findVariable_rename (id : String) :
    (c.rename ρ).findVariable (ρ id) = (c.findVariable id).map (Variable.rename ρ) := by
  simp only [findVariable, rename, List.find?_map, Function.comp_def, Variable.rename,
    Renaming.eq_iff]

@[simp] theorem tag_rename (block : String) : (c.rename ρ).tag (ρ block) = c.tag block := by
  rw [tag, tag, block?_rename]
  cases c.block? block <;> rfl

/-! ## Connections -/

/-- A renamed canvas draws from the renamed supply what the canvas draws from its own. -/
theorem draw_rename (ids : IdSupply) :
    (c.rename ρ).draw (ρ.supply ids) = (ρ (c.draw ids).1, (c.draw ids).2.rename ρ) := rfl

variable {c ρ}

/-- Changes of a block that correspond make canvases that correspond. -/
theorem modify_rename (id : String) {change change' : Block → Block}
    (h : ∀ b, change' (b.rename ρ) = (change b).rename ρ) :
    (c.rename ρ).modify (ρ id) change' = (c.modify id change).rename ρ := by
  have hblocks := c.blocks.mapValues_modify (fun _ => Block.rename ρ) id change change'
    fun b => (h b).symm
  simp only [modify, rename, hblocks, Table.mapKeys_modify]

end Canvas

theorem Block.setTarget_rename (b : Block) (input : String) (target : Option String) :
    (b.rename ρ).setTarget input (target.map ρ) = (b.setTarget input target).rename ρ := by
  simp only [setTarget, rename, Block.mk.injEq, true_and, and_true]
  rw [b.inputs.mapValues_modify]
  exact fun i => rfl

namespace Canvas

variable (c : Canvas)

theorem plugIn_rename (child parent input : String) :
    (c.rename ρ).plugIn (ρ child) (ρ parent) input = (c.plugIn child parent input).rename ρ := by
  rw [plugIn, plugIn, modify_rename parent fun b => b.setTarget_rename ρ input (some child)]
  exact modify_rename child fun b => by rfl

/-- Taking a block out of the input that holds it does not depend on the ids, nor does the fault
that it fails with if it is plugged in nowhere. -/
theorem release_rename (child : String) :
    (c.rename ρ).release (ρ child) =
      ρ.result (Prod.map (Plug.rename ρ) (rename ρ)) (c.release child) := by
  rw [release, release, block?_rename]
  cases c.block? child with
  | none => rfl
  | some b =>
    simp only [Option.map_some, Block.rename]
    cases b.parent with
    | none => rfl
    | some plug =>
      simp only [Option.map_some, Renaming.result_ok, Except.ok.injEq, Prod.map, Prod.mk.injEq,
        true_and]
      have hchild : ((c.rename ρ).modify (ρ child) fun b => { b with parent := none }) =
          (c.modify child fun b => { b with parent := none }).rename ρ :=
        modify_rename child fun b => by rfl
      rw [hchild]
      exact modify_rename plug.block fun b => b.setTarget_rename ρ plug.input none

theorem pullOut_rename (block : String) :
    (c.rename ρ).pullOut (ρ block) = ρ.result (rename ρ) (c.pullOut block) := by
  rw [pullOut, pullOut, release_rename]
  cases c.release block <;> rfl

theorem clearInput_rename (block input : String) :
    (c.rename ρ).clearInput (ρ block) input = ρ.result (rename ρ) (c.clearInput block input) := by
  rw [clearInput, clearInput, target?_rename]
  cases c.target? block input with
  | none => rfl
  | some target => exact c.pullOut_rename ρ target

/-! ## Blocks and fields -/

theorem setOutputTag_rename (block : String) (tag : Tag) :
    (c.rename ρ).setOutputTag (ρ block) tag = ρ.result (rename ρ) (c.setOutputTag block tag) := by
  rw [setOutputTag, setOutputTag, block?_rename]
  cases c.block? block with
  | none => rfl
  | some b => exact congrArg Except.ok (modify_rename block fun b => by rfl)

theorem move_rename (block : String) (dx dy : Float) :
    (c.rename ρ).move (ρ block) dx dy = ρ.result (rename ρ) (c.move block dx dy) := by
  rw [move, move, block?_rename]
  cases c.block? block with
  | none => rfl
  | some b => exact congrArg Except.ok (modify_rename block fun b => by rfl)

/-- Changing a field commutes with a renaming if the change to the field does. -/
theorem modifyField_rename (block : String) {field : String} {change change' : Field → Field}
    (h : ∀ f, change' (f.rename ρ field) = (change f).rename ρ field) :
    (c.rename ρ).modifyField (ρ block) field change' =
      ρ.result (rename ρ) (c.modifyField block field change) := by
  rw [modifyField, modifyField, block?_rename]
  cases c.block? block with
  | none => rfl
  | some b =>
    simp only [Option.map_some, Block.rename, Table.get?_mapValues]
    cases b.fields.get? field with
    | none => rfl
    | some f =>
      refine congrArg Except.ok (modify_rename block fun b => ?_)
      simp only [Block.rename, Block.mk.injEq, true_and, and_true]
      exact (b.fields.mapValues_modify _ field change change' fun f => (h f).symm).symm

/-- The value of a field that is no variable picker is no id. -/
theorem setField_rename (block : String) {field : String} (hfield : field ≠ variableField)
    (value : String) :
    (c.rename ρ).setField (ρ block) field value =
      ρ.result (rename ρ) (c.setField block field value) :=
  c.modifyField_rename ρ block fun f => by
    rw [Field.rename_of_ne hfield, Field.rename_of_ne hfield]

theorem setChoices_rename (block field : String) (choices : List Choice) :
    (c.rename ρ).setChoices (ρ block) field choices =
      ρ.result (rename ρ) (c.setChoices block field choices) :=
  c.modifyField_rename ρ block fun f => by
    simp only [Field.rename]
    split <;> rfl

/-! ## Variables -/

/-- Retyping the variables of an id and renaming ids can be done in either order. -/
theorem retype_rename (id type : String) (vars : List Variable) :
    retype (ρ id) type (vars.map (Variable.rename ρ)) =
      (retype id type vars).map (Variable.rename ρ) := by
  induction vars with
  | nil => rfl
  | cons v rest ih =>
    simp only [List.map_cons, retype, Variable.rename, Renaming.eq_iff, ih]
    split <;> rfl

theorem retypeVariable_rename (id type : String) :
    (c.rename ρ).retypeVariable (ρ id) type =
      ρ.result (rename ρ) (c.retypeVariable id type) := by
  rw [retypeVariable, retypeVariable, findVariable_rename]
  cases c.findVariable id with
  | none => rfl
  | some v =>
    simp only [Option.map_some, Renaming.result_ok, Except.ok.injEq, rename, Canvas.mk.injEq,
      true_and, and_true]
    exact retype_rename ρ id type c.vars

end Canvas

end TypedBlocks
