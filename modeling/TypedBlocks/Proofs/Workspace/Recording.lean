import Mathlib.Logic.Function.Basic
import TypedBlocks.Proofs.Canvas.Nesting
import TypedBlocks.Proofs.Workspace.Connecting

/-!
# Listeners that only record

A listener that does nothing but look leaves the canvas to the user. Where all listeners are of that
kind, a report is a line in the journal for each of them (`report_of_passive`), so user edits do
what they say: what is in the way of a connection is pulled out, that and nothing else, and the
connection is made (`connect_of_passive`).

`Event.Account` relates what is reported to what has happened: applied one after the other, the
events lead from one assignment of parents to another, and none of them pulls a block out of where
it was not. The report of a connection is an account of what becomes of the canvas
(`account_connectReport`).
-/

namespace TypedBlocks

open Canvas

/-! ## What events say -/

namespace Event

/-- The parents of all blocks after an event, if they were `parents` before it. -/
def apply (parents : String → Option String) (event : Event) : String → Option String :=
  match event.change with
  | .connected parent => Function.update parents event.block (some parent)
  | .disconnected _ => Function.update parents event.block none
  | .other => parents

/-- The events lead from the parents before to those after, and each one that pulls a block out
names the parent that the block has at that point. -/
structure Account (before : String → Option String) (events : List Event)
    (after : String → Option String) : Prop where
  leads : events.foldl apply before = after
  truthful : ∀ earlier event later parent, events = earlier ++ event :: later →
    event.change = .disconnected parent → earlier.foldl apply before event.block = some parent

namespace Account

variable {f g h : String → Option String} {events events' : List Event}

theorem nil (f : String → Option String) : Account f [] f where
  leads := rfl
  truthful := by simp

/-- One event is accounted for if what it says was true: a block that it reports as pulled out of a
parent was plugged in there. -/
theorem single {event : Event}
    (hevent : ∀ parent, event.change = .disconnected parent → f event.block = some parent) :
    Account f [event] (event.apply f) where
  leads := rfl
  truthful := by
    intro earlier event' later parent he hchange
    cases earlier with
    | nil =>
      obtain ⟨rfl, -⟩ := List.cons.inj he
      exact hevent parent hchange
    | cons _ earlier => simp at he

/-- Accounts are put together by letting the second start where the first ends. -/
theorem append (ha : Account f events g) (hb : Account g events' h) :
    Account f (events ++ events') h where
  leads := by rw [List.foldl_append, ha.leads, hb.leads]
  truthful := by
    intro earlier event later parent he hchange
    rcases List.append_eq_append_iff.mp he with ⟨between, rfl, hrest⟩ | ⟨between, rfl, hrest⟩
    · rw [List.foldl_append, ha.leads]
      exact hb.truthful between event later parent hrest hchange
    · cases between with
      | nil =>
        rw [List.append_nil] at ha
        rw [ha.leads]
        exact hb.truthful [] event later parent hrest.symm hchange
      | cons event' between =>
        obtain ⟨rfl, -⟩ := List.cons.inj hrest
        exact ha.truthful earlier event between parent rfl hchange

theorem congr (ha : Account f events g) (hg : ∀ block, h block = g block) :
    Account f events h := by
  rwa [funext hg]

/-- To report a connection needs no account of what was before, and sets one parent. -/
theorem connect (f : String → Option String) (workspace block parent : String) :
    Account f [.connect workspace block parent] (Function.update f block (some parent)) :=
  single nofun

/-- To report a disconnection needs the parent to be the one that is known. -/
theorem disconnect {block parent : String} (hparent : f block = some parent) (workspace : String) :
    Account f [.disconnect workspace block parent] (Function.update f block none) :=
  single fun _ hchange => by
    cases hchange
    exact hparent

end Account

end Event

/-! ## Passive listeners -/

/-- A reaction that looks at the canvas at most. -/
inductive Reaction.Passive : Reaction → Prop
  | done : Passive .done
  | look {next : Canvas → Reaction} (h : ∀ canvas, (next canvas).Passive) : Passive (.look next)

namespace Workspace

variable {ids : IdSupply} {w : Workspace} {child parent input : String}

/-- No listener does more than look. -/
def Passive (w : Workspace) : Prop := ∀ l ∈ w.listeners, ∀ event, (l.2 event).Passive

/-- A reaction that only looks at the canvas does nothing to the workspace. -/
theorem react_of_passive {r : Reaction} (h : r.Passive) (me : String) (w : Workspace) :
    react ids me r w = w := by
  induction h with
  | done => rfl
  | look _ ih => exact ih w.canvas

/-- The workspace when all listeners have been told of some events, one after the other, and have
done nothing. -/
def announce (w : Workspace) (events : List Event) : Workspace :=
  w.record (events.flatMap fun event => w.listeners.map fun l => .told l.1 event)

@[simp] theorem announce_canvas (events : List Event) :
    (w.announce events).canvas = w.canvas := rfl

@[simp] theorem announce_nil : w.announce [] = w := by simp [announce, record]

/-- What becomes of the canvas between two announcements leaves no trace of its own. -/
theorem announce_announce (canvas : Canvas) (events events' : List Event) :
    ({ w.announce events with canvas } : Workspace).announce events' =
      ({ w with canvas } : Workspace).announce (events ++ events') := by
  simp [announce, record]

/-- Where nobody reacts, telling all listeners of an event comes to noting that each was told. -/
theorem foldl_tell {listeners : List (String × Listener)} {event : Event}
    (h : ∀ l ∈ listeners, (l.2 event).Passive) (w : Workspace) :
    listeners.foldl (tell ids event) w = w.record (listeners.map fun l => .told l.1 event) := by
  induction listeners generalizing w with
  | nil => simp [record]
  | cons l listeners ih =>
    rw [List.forall_mem_cons] at h
    rw [List.foldl_cons, tell, react_of_passive h.1, ih h.2]
    simp [record]

/-- **A report to passive listeners is a matter of the journal**: everybody is told, nobody acts,
and canvas and audience stay as they are. -/
theorem report_of_passive (h : w.Passive) (event : Event) :
    report ids w event = w.announce [event] := by
  rw [report, foldl_tell fun l hl => h l hl event]
  simp [announce, record]

/-! ## What listeners hear -/

/-- The event that an entry tells a listener of. -/
def heardBy (listener : String) : Entry → Option Event
  | .told l event => if l = listener then some event else none
  | _ => none

/-- All events that a listener was told of, the oldest first. -/
def heard (w : Workspace) (listener : String) : List Event :=
  w.journal.filterMap (heardBy listener)

/-- What a listener hears of entries that are added is heard after all that it heard before. -/
theorem heard_record (listener : String) (entries : List Entry) :
    (w.record entries).heard listener =
      w.heard listener ++ entries.filterMap (heardBy listener) := by
  simp [heard, record]

/-- Among listeners with ids of their own, each is told of an event once. -/
theorem filterMap_told {listeners : List (String × Listener)}
    (hids : (listeners.map Prod.fst).Nodup) {l : String × Listener} (hl : l ∈ listeners)
    (event : Event) :
    (listeners.map fun other => Entry.told other.1 event).filterMap (heardBy l.1) = [event] := by
  induction listeners with
  | nil => cases hl
  | cons other listeners ih =>
    rw [List.map_cons, List.nodup_cons] at hids
    obtain ⟨hnew, hids⟩ := hids
    rcases List.mem_cons.mp hl with rfl | hl
    · have hrest : ∀ entry ∈ listeners.map fun other => Entry.told other.1 event,
          heardBy l.1 entry = none := by
        intro entry hentry
        obtain ⟨other, hother, rfl⟩ := List.mem_map.mp hentry
        refine if_neg fun he => hnew ?_
        rw [← he]
        exact List.mem_map_of_mem hother
      rw [List.map_cons, List.filterMap_cons, List.filterMap_eq_nil_iff.mpr hrest]
      simp [heardBy]
    · have hne : other.1 ≠ l.1 := by
        intro he
        rw [he] at hnew
        exact hnew (List.mem_map_of_mem hl)
      simpa [heardBy, hne] using ih hids hl

/-- **Every listener hears all that is announced**, in order, and once. The ids of the listeners
have to differ, as they do when they are drawn. -/
theorem heard_announce (hids : (w.listeners.map Prod.fst).Nodup) {l : String × Listener}
    (hl : l ∈ w.listeners) (events : List Event) :
    (w.announce events).heard l.1 = w.heard l.1 ++ events := by
  rw [announce, heard_record, List.filterMap_flatMap]
  simp [filterMap_told hids hl]

/-! ## User edits -/

/-- What is reported when a block is pulled out of where it is, if it is anywhere. -/
def departure (w : Workspace) (block : String) : List Event :=
  (w.canvas.holder? block).toList.map (.disconnect w.id block)

/-- What is reported when an input is freed for a block. -/
def eviction (w : Workspace) (child parent input : String) : List Event :=
  ((w.canvas.target? parent input).filter (· ≠ child)).toList.map (.disconnect w.id · parent)

/-- What is reported when a block is plugged into an input. -/
def connectReport (w : Workspace) (child parent input : String) : List Event :=
  w.departure child ++ w.eviction child parent input ++ [.connect w.id child parent]

/-- Pulling a block out, where nobody reacts, undoes the connection and tells everybody of it. -/
theorem unplug_of_passive (h : w.Passive) {plug : Plug} (hp : w.canvas.plug? child = some plug) :
    w.unplug ids child =
      (({ w with canvas := w.canvas.detach child plug } : Workspace).announce
        [.disconnect w.id child plug.block], .ok ()) := by
  have hdetached : ({ w with canvas := w.canvas.detach child plug } : Workspace).Passive := h
  rw [unplug_eq hp, report_of_passive hdetached]

/-- Making room for a child that is plugged in, where nobody reacts, reports its departure; only its
own plug changes. -/
theorem vacate_of_passive (ids : IdSupply) (h : w.Passive) (child : String) :
    ∃ canvas, w.vacate ids child =
        (({ w with canvas } : Workspace).announce (w.departure child), .ok ()) ∧
      ∀ block, canvas.plug? block = if block = child then none else w.canvas.plug? block := by
  rw [vacate_eq, departure, holder?]
  cases hp : w.canvas.plug? child with
  | none =>
    refine ⟨w.canvas, by simp, fun block => ?_⟩
    by_cases hblock : block = child <;> simp [hblock, hp]
  | some plug =>
    refine ⟨w.canvas.detach child plug, ?_, plug?_detach child plug⟩
    rw [if_neg (Option.some_ne_none plug), unplug_of_passive h hp]
    rfl

/-- Making room in an input, where nobody reacts, reports that what was there is gone, unless that
is the child itself; only one plug other than that of the child changes. -/
theorem evict_of_passive (ids : IdSupply) (h : w.Passive) (child : String) (target : Option String)
    (hp : ∀ occupant, target = some occupant → occupant ≠ child →
      w.canvas.plug? occupant = some ⟨parent, input⟩) :
    ∃ canvas, w.evict ids child target = (({ w with canvas } : Workspace).announce
        ((target.filter (· ≠ child)).toList.map (.disconnect w.id · parent)), .ok ()) ∧
      ∀ block, block ≠ child →
        canvas.plug? block = if target = some block then none else w.canvas.plug? block := by
  cases target with
  | none => exact ⟨w.canvas, by simp [evict], by simp⟩
  | some occupant =>
    by_cases ho : occupant = child
    · refine ⟨w.canvas, by simp [evict, ho, Option.filter], fun block hne => ?_⟩
      rw [if_neg]
      rintro ⟨⟩
      exact hne ho
    · refine ⟨w.canvas.detach occupant ⟨parent, input⟩, ?_, fun block _ => ?_⟩
      · rw [evict_some ids w ho, unplug_of_passive h (hp occupant rfl ho)]
        simp [ho, Option.filter]
      · simp only [plug?_detach, Option.some.injEq, eq_comm]

/-- **Where listeners are passive, clearing both ends of a connection to be** concerns what is
plugged in there, and nothing else. -/
theorem clear_of_passive (ids : IdSupply) (h : w.Passive) (hw : Wired w.canvas)
    (child parent input : String) :
    ∃ canvas, (w.vacate ids child).1.evict ids child (w.canvas.target? parent input) =
        (({ w with canvas } : Workspace).announce
          (w.departure child ++ w.eviction child parent input), .ok ()) ∧
      ∀ block, block ≠ child → canvas.plug? block =
        if w.canvas.target? parent input = some block then none else w.canvas.plug? block := by
  obtain ⟨vacated, hv, hvp⟩ := vacate_of_passive ids h child
  rw [hv]
  have hpassive :
      (({ w with canvas := vacated } : Workspace).announce (w.departure child)).Passive := h
  obtain ⟨cleared, he, hep⟩ := evict_of_passive ids hpassive child (w.canvas.target? parent input)
    fun occupant ht hne => by
      rw [announce_canvas, hvp, if_neg hne]
      exact hw.plug_iff.mpr ht
  refine ⟨cleared, ?_, fun block hne => ?_⟩
  · rw [he, announce_announce]
    rfl
  · rw [hep block hne, announce_canvas, hvp, if_neg hne]

/-- **Where listeners are passive, what fits is plugged in**, in the place of what is there. With
nobody to respond, nothing can be gone before it is pulled out. -/
theorem connect_of_passive (ids : IdSupply) (h : w.Passive) (hw : Wired w.canvas)
    (hfits : Fits w.canvas child parent input) :
    ∃ canvas, w.connect ids child parent input =
        (({ w with canvas } : Workspace).announce (w.connectReport child parent input), .ok ()) ∧
      ∀ block, canvas.holder? block =
        if block = child then some parent
        else if w.canvas.target? parent input = some block then none
        else w.canvas.holder? block := by
  obtain ⟨cleared, hcleared, hplug⟩ := clear_of_passive ids h hw child parent input
  have hexists : (cleared.block? child).isSome := by
    have hpruned := clear_pruned ids w child parent input
    rw [hcleared] at hpruned
    exact (hpruned.block_isSome child).trans hfits.isSome
  refine ⟨cleared.plugIn child parent input, ?_, fun block => ?_⟩
  · rcases connect_cases ids w child parent input with
      ⟨fault, ha, -⟩ | ⟨-, ⟨fault, hfault, -⟩ | ⟨-, he⟩⟩
    · rw [approve_eq_ok_iff.mpr ⟨hfits, rfl⟩] at ha
      cases ha
    · rw [hcleared] at hfault
      cases hfault
    · -- clearing has left the audience as it was, so it is still passive
      rw [he, hcleared, report_of_passive (by exact h), announce_announce]
      rfl
  · rw [holder?_plugIn hexists]
    split
    · rfl
    · rename_i hne
      rw [holder?, hplug block hne]
      split <;> rfl

/-! ## Accounts of user edits -/

/-- What is reported when a block is pulled out is an account of that: one disconnection from where
it was, or nothing if it was nowhere. -/
theorem account_departure (w : Workspace) (block : String) :
    Event.Account w.canvas.holder? (w.departure block)
      (Function.update w.canvas.holder? block none) := by
  rw [departure]
  cases hholder : w.canvas.holder? block with
  | none =>
    rw [Function.update_eq_self_iff.mpr hholder.symm]
    exact .nil _
  | some parent => exact .disconnect hholder w.id

/-- What is reported when an input is freed for a block is an account of that, once the block has
been pulled out. -/
theorem account_eviction (hw : Wired w.canvas) (child parent input : String) :
    Event.Account (Function.update w.canvas.holder? child none) (w.eviction child parent input)
      fun block => if block = child ∨ w.canvas.target? parent input = some block then none
        else w.canvas.holder? block := by
  rw [eviction]
  cases ht : w.canvas.target? parent input with
  | none => exact (Event.Account.nil _).congr fun block => by simp [Function.update_apply]
  | some occupant =>
    by_cases ho : occupant = child
    · -- the child was in that very input, and has been pulled out of it
      have hnothing : (some occupant).filter (· ≠ child) = none := by simp [Option.filter, ho]
      rw [hnothing]
      exact (Event.Account.nil _).congr fun block => by
        simp [Function.update_apply, ho, eq_comm]
    · have hevicted : (some occupant).filter (· ≠ child) = some occupant := by
        simp [Option.filter, ho]
      have hholder : Function.update w.canvas.holder? child none occupant = some parent := by
        rw [Function.update_of_ne ho]
        exact holder?_eq_some.mpr ⟨input, hw.plug_iff.mpr ht⟩
      rw [hevicted]
      refine (Event.Account.disconnect hholder w.id).congr fun block => ?_
      simp only [Function.update_apply, Option.some.injEq]
      split_ifs <;> simp_all

/-- **The report of a connection is an account of it**: the child leaves its place, the other block
leaves the input, and the child has a new parent. -/
theorem account_connectReport (hw : Wired w.canvas) {after : String → Option String}
    (hafter : ∀ block, after block =
      if block = child then some parent
      else if w.canvas.target? parent input = some block then none
      else w.canvas.holder? block) :
    Event.Account w.canvas.holder? (w.connectReport child parent input) after := by
  have hcleared := (w.account_departure child).append (account_eviction hw child parent input)
  refine (hcleared.append (.connect _ w.id child parent)).congr fun block => ?_
  rw [hafter, Function.update_apply]
  split
  · rfl
  · simp [*]

end Workspace

end TypedBlocks
