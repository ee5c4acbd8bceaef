import TypedBlocks.LogFilter
import TypedBlocks.Main
import TypedBlocks.Proofs.Canvas.Amended
import TypedBlocks.Proofs.Canvas.Making
import TypedBlocks.Proofs.Canvas.Nesting
import TypedBlocks.Proofs.Canvas.Variables
import TypedBlocks.Proofs.Canvas.Wiring
import TypedBlocks.Proofs.Catalog.Sound
import TypedBlocks.Proofs.Propagator.Amending
import TypedBlocks.Proofs.Propagator.Faults
import TypedBlocks.Proofs.Propagator.Rules
import TypedBlocks.Proofs.Run.Acts
import TypedBlocks.Proofs.Run.Attended
import TypedBlocks.Proofs.Run.Connecting
import TypedBlocks.Proofs.Run.Events
import TypedBlocks.Proofs.Run.Loops
import TypedBlocks.Proofs.Run.Order
import TypedBlocks.Proofs.Run.Wiring
import TypedBlocks.Proofs.Session.Edits
import TypedBlocks.Proofs.Session.Looping
import TypedBlocks.Proofs.Session.Responses
import TypedBlocks.Proofs.Session.Rings
import TypedBlocks.Proofs.Session.Settled
import TypedBlocks.Proofs.Session.Settling
import TypedBlocks.Proofs.Session.Steps
import TypedBlocks.Proofs.TagText
import TypedBlocks.Proofs.Workspace.Connecting
import TypedBlocks.Proofs.Workspace.Nesting
import TypedBlocks.Proofs.Run.Nesting
import TypedBlocks.Proofs.Run.Sharing
import TypedBlocks.Proofs.Run.Strays
import TypedBlocks.Proofs.Tag.Canonical
import TypedBlocks.Proofs.Definition.Keys
import TypedBlocks.Proofs.Run.Requests
import TypedBlocks.Proofs.Workspace.Recording
import TypedBlocks.Proofs.Run.Journal
import TypedBlocks.Proofs.Toolbox.Contents
import TypedBlocks.Proofs.Toolbox.Taking
import TypedBlocks.Proofs.Toolbox.Lending
import TypedBlocks.Proofs.Canvas.Names
import TypedBlocks.Proofs.Canvas.Replugging
import TypedBlocks.Proofs.Propagator.Repeating
import TypedBlocks.Proofs.Propagator.Footprint
import TypedBlocks.Proofs.Run.Unison
import TypedBlocks.Proofs.Run.Footprint
import TypedBlocks.Proofs.Session.Independence
import TypedBlocks.Proofs.Run.Independence
import TypedBlocks.Proofs.Session.Getters
import TypedBlocks.Proofs.Run.Getters
import TypedBlocks.Proofs.Renaming.Tables
import TypedBlocks.Proofs.Renaming.Canvas
import TypedBlocks.Proofs.Renaming.Making
import TypedBlocks.Proofs.Renaming.Rules
import TypedBlocks.Proofs.Renaming.Session
import TypedBlocks.Proofs.Renaming.Supplies
import TypedBlocks.Proofs.Renaming.Replay
import TypedBlocks.Proofs.Json.Exchange
import TypedBlocks.Proofs.Catalog.Spellings
import TypedBlocks.Proofs.Workspace.Roster
import TypedBlocks.Proofs.Run.Roster
import TypedBlocks.Proofs.Session.RoundTrips
import TypedBlocks.Proofs.Run.RoundTrips
import TypedBlocks.Proofs.Tag.Plurals
import TypedBlocks.Proofs.Colour.Shading
import TypedBlocks.Proofs.Replay.Failing
import TypedBlocks.Proofs.Canvas.Pickers
import TypedBlocks.Proofs.Run.Pickers
