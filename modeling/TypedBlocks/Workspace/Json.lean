import TypedBlocks.Canvas.Json
import TypedBlocks.Number.Layout
import TypedBlocks.Workspace

/-!
# Workspaces as JSON

A workspace is written with its blocks and its variables; its audience is not. Blocks stand in the
order of their ids.
-/

namespace TypedBlocks

/-- A double as JSON, `null` where JSON has no number for it. -/
def Json.float (x : Float) : Json := .ofOption .number (Numeral.ofFloat? x)

/-- A workspace as JSON. -/
def Workspace.toJson (w : Workspace) : Json :=
  .record
    [("id", .text w.id),
      ("blocks", .record ((inNameOrder w.canvas.blocks).map fun e => (e.1, e.2.toJson Json.float))),
      ("variables", .array (w.canvas.vars.map Variable.toJson))]

end TypedBlocks
