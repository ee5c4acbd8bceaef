import TypedBlocks.Canvas
import TypedBlocks.Notice

/-!
# Propagation of types

A propagator keeps the tags on a canvas in step with its connections, one event at a time. It
knows a domain and holds nothing about any canvas: what it needs it reads there.

On a connection
* a document in a link gives the link the documents of the other side as its output;
* a list of documents in a loop gives the loop variable the type of one of them, anything else is
  thrown out;
* documents in an attribute getter fill its dropdown with the attributes of their collection.

On a disconnection
* a link that has lost its document is reset: its output is unknown again, it is pulled out of
  whatever holds it, and moved aside;
* an attribute getter that holds nothing goes back to the placeholder.

Pulling a link out is itself a disconnection, which hosts do not report, so the rule for
disconnections is applied to the block that held the link. The link is unknown by then and resets
no further link: `afterDisconnect_eq` says that the depth to which the rule is unrolled does not
matter.
-/

namespace TypedBlocks

/-- What came of handling an event: the canvas, what was passed over or undone, and the fault that
stopped it, if one did. -/
structure Outcome where
  canvas : Canvas
  notices : List Notice := []
  fault : Option Fault := none

namespace Outcome

/-- Nothing to do: the canvas stays, and there is nothing to note. -/
def unchanged (c : Canvas) : Outcome := { canvas := c }

/-- The outcome of an amendment to `c`, which is left as it is if that fails. -/
def ofResult (c : Canvas) : Except Fault Canvas → Outcome
  | .ok c => { canvas := c }
  | .error fault => { canvas := c, fault := some fault }

/-- Goes on unless a fault has stopped it. What was noted before is kept. -/
def andThen (o : Outcome) (next : Canvas → Outcome) : Outcome :=
  match o.fault with
  | some _ => o
  | none => { next o.canvas with notices := o.notices ++ (next o.canvas).notices }

end Outcome

/-- Keeps the tags on a canvas in step with its connections. It has no state: all it knows is the
domain, and how far links are moved. -/
structure Propagator where
  domain : Domain
  /-- how far a link moves when it is reset -/
  snapRadius : Float

namespace Propagator

open Definition

/-! ## On a connection -/

/-- Empties an input whose block does not fit, and notes the reason. An input that is empty already
is left so; that is no fault. -/
def expel (c : Canvas) (parent input : String) (reason : Mismatch) : Outcome :=
  let notices := [.rejected parent input reason]
  match c.clearInput parent input with
  | .ok c => { canvas := c, notices }
  | .error (.unplugged _) => { canvas := c, notices }
  | .error (.vacant _ _) => { canvas := c, notices }
  | .error fault => { canvas := c, notices, fault := some fault }

/-- Gives a link of the given type the documents that it leads to from `collection`. If that is on
neither side of the link, the document is thrown out. -/
def orientLink (c : Canvas) (link blockType collection : String) : Outcome :=
  match (Tag.ofText blockType).across? collection with
  | some other => .ofResult c (c.setOutputTag link (.documentArray other))
  | none => expel c link linkInput (.notLinked collection blockType)

/-- Gives the variable of a loop the type of the elements of its list. Anything but a list of
documents is thrown out. It fails if the loop names no variable. -/
def bindLoop (c : Canvas) (loop : String) (tag : Tag) : Outcome :=
  match tag with
  | .documentArray collection =>
    match c.field? loop variableField with
    | some field =>
      if field.value = "" then
        { canvas := c, fault := some (.noField loop variableField) }
      else .ofResult c (c.retypeVariable field.value (Tag.document collection).text)
    | none => { canvas := c, fault := some (.noField loop variableField) }
  | _ => expel c loop listInput (.notIterable tag)

/-- Offers the attributes of a collection, and selects the one to start with; one without attributes
changes nothing. It fails if the domain has no such collection. -/
def fillAttributes (p : Propagator) (c : Canvas) (getter collection : String) : Outcome :=
  match p.domain.collection? collection with
  | .error fault => { canvas := c, fault := some fault }
  | .ok found =>
    if found.choices.isEmpty then .unchanged c
    else
      (Outcome.ofResult c (c.setChoices getter attributeField found.choices)).andThen fun c =>
        .ofResult c (c.setField getter attributeField found.defaultChoice)

/-- What follows from plugging `child` into `parent`. Nothing does if either is gone. That the child
is there is asked of loops only, not of links and attribute getters. -/
def afterConnect (p : Propagator) (c : Canvas) (child parent : String) : Outcome :=
  match c.block? child, c.block? parent with
  | some childBlock, some parentBlock =>
    let tag := childBlock.tag
    let first : Outcome :=
      if Tag.isLinkType parentBlock.type then
        match tag with
        | .document collection => orientLink c parent parentBlock.type collection
        | _ => .unchanged c
      else if parentBlock.type = foreachType ∧ c.target? parent listInput = some child then
        bindLoop c parent tag
      else .unchanged c
    first.andThen fun c =>
      if parentBlock.type = getAttributeType then
        match tag.collection? with
        | some collection => p.fillAttributes c parent collection
        | none => .unchanged c
      else .unchanged c
  | _, _ => .unchanged c

/-! ## On a disconnection -/

/-- Puts a getter whose input is empty back to the placeholder. One that holds something by now is
left alone, and so is one that shows the placeholder. -/
def clearAttributes (c : Canvas) (getter : String) : Outcome :=
  if (c.target? getter documentInput).isSome then .unchanged c
  else
    match c.field? getter attributeField with
    | none => { canvas := c, fault := some (.noField getter attributeField) }
    | some field =>
      if field.choices = placeholder ∧ field.value = notApplicable then .unchanged c
      else
        (Outcome.ofResult c (c.setChoices getter attributeField placeholder)).andThen fun c =>
          .ofResult c (c.setField getter attributeField notApplicable)

/-- Resets a link that holds no document: its output becomes unknown, it leaves the block that
holds it, and `next` is told of that. A link that is unknown or holds a block again is left alone.
-/
def releaseLink (p : Propagator) (next : Canvas → String → String → Outcome) (c : Canvas)
    (link : String) : Outcome :=
  if (c.tag link).isUnknown ∨ (c.target? link linkInput).isSome then .unchanged c
  else
    let holder := c.holder? link
    (Outcome.ofResult c (c.setOutputTag link .unknown)).andThen fun c =>
      match c.pullOut link with
      | .error (.unplugged _) => .unchanged c
      | .error fault => { canvas := c, fault := some fault }
      | .ok c =>
        (Outcome.ofResult c (c.move link p.snapRadius p.snapRadius)).andThen fun c =>
          match holder with
          | some holder => next c link holder
          | none => .unchanged c

/-- What follows from pulling `child` out of `parent`, where `next` is what follows from pulling a
reset link out of its holder. A block that is gone counts as unknown. -/
def disconnectWith (p : Propagator) (next : Canvas → String → String → Outcome) (c : Canvas)
    (child parent : String) : Outcome :=
  match c.block? parent with
  | none => .unchanged c
  | some parentBlock =>
    let first : Outcome :=
      if (c.tag child).isDocument ∧ Tag.isLinkType parentBlock.type then p.releaseLink next c parent
      else .unchanged c
    first.andThen fun c =>
      if parentBlock.type = getAttributeType then clearAttributes c parent else .unchanged c

/-- What follows from pulling `child` out of `parent`. A link that is reset is pulled out of its
holder, so the rule is applied to that as well, and then no more. -/
def afterDisconnect (p : Propagator) : Canvas → String → String → Outcome :=
  p.disconnectWith (p.disconnectWith fun c _ _ => .unchanged c)

/-- Pulling out what is no document resets no link, so `next` is not asked. -/
theorem disconnectWith_congr (p : Propagator) {c : Canvas} {child : String}
    (h : (c.tag child).isDocument = false) (next other : Canvas → String → String → Outcome)
    (parent : String) :
    p.disconnectWith next c child parent = p.disconnectWith other c child parent := by
  simp [disconnectWith, h]

/-- By the time that `next` is told of it, the link that was reset is no document. -/
theorem releaseLink_congr (p : Propagator) {next other : Canvas → String → String → Outcome}
    (h : ∀ c link holder, (c.tag link).isDocument = false →
      next c link holder = other c link holder)
    (c : Canvas) (link : String) : p.releaseLink next c link = p.releaseLink other c link := by
  unfold releaseLink
  split
  · rfl
  · cases hset : c.setOutputTag link .unknown with
    | error fault => rfl
    | ok c1 =>
      simp only [Outcome.ofResult, Outcome.andThen]
      cases hpull : c1.pullOut link with
      | error fault => cases fault <;> rfl
      | ok c2 =>
        cases hmove : c2.move link p.snapRadius p.snapRadius with
        | error fault => simp [hmove]
        | ok c3 =>
          cases hholder : c.holder? link with
          | none => rfl
          | some holder =>
            have htag : (c3.tag link).isDocument = false := by
              rw [Canvas.tag_move hmove, Canvas.tag_pullOut hpull, Canvas.tag_setOutputTag hset]
              decide
            simp [hmove, h c3 link holder htag]

/-- Unrolled twice, the rule no longer depends on what follows. -/
theorem disconnectWith_twice (p : Propagator)
    (next other : Canvas → String → String → Outcome) :
    p.disconnectWith (p.disconnectWith next) = p.disconnectWith (p.disconnectWith other) := by
  funext c child parent
  have h : ∀ c link holder, (c.tag link).isDocument = false →
      p.disconnectWith next c link holder = p.disconnectWith other c link holder :=
    fun c link holder h => p.disconnectWith_congr h next other holder
  simp only [disconnectWith, p.releaseLink_congr h]

/-- The rule for disconnections, applied to itself. -/
theorem afterDisconnect_eq (p : Propagator) :
    p.afterDisconnect = p.disconnectWith p.afterDisconnect :=
  p.disconnectWith_twice _ _

/-! ## Events -/

/-- What follows from an event, its fault not yet dealt with: the rule for what it says. -/
def respond (p : Propagator) (c : Canvas) (e : Event) : Outcome :=
  match e.change with
  | .connected parent => p.afterConnect c e.block parent
  | .disconnected parent => p.afterDisconnect c e.block parent
  | .other => .unchanged c

/-- Handles an event. A fault is noted and goes no further; a collection that the domain does not
have is worth no more than a warning. -/
def handle (p : Propagator) (c : Canvas) (e : Event) : Canvas × List Notice :=
  let o := p.respond c e
  match o.fault with
  | none => (o.canvas, o.notices)
  | some (.noCollection id) =>
    (o.canvas, o.notices ++ [.skippedRefresh (.noCollection id)])
  | some fault => (o.canvas, o.notices ++ [.failed e fault])

end Propagator

end TypedBlocks
