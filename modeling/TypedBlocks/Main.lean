import TypedBlocks.CommandLine
import TypedBlocks.Domain.Json
import TypedBlocks.Json.Pretty
import TypedBlocks.Replay
import TypedBlocks.Workspace.Json

/-!
# The replay command

Reads a domain and a script, replays the script, and prints the workspace that results or writes
it to a file.
-/

namespace TypedBlocks.Command

/-- The characters that ids are drawn from. -/
def idCharacters : Array Char :=
  "_-0123456789abcdefghijklmnopqrstuvwxyzABCDEFGHIJKLMNOPQRSTUVWXYZ".toList.toArray

/-- A supply of ids that begin with the same random characters and are told apart by a number. -/
def randomIds : IO IdSupply := do
  let bytes ← IO.getRandomBytes 12
  let beginning := bytes.toList.map fun b => idCharacters[b.toNat % 64]?.getD '_'
  return fun n => String.ofList beginning ++ "-" ++ Nat.repr n

/-- Stops with a fault, and what it was caused by. -/
def fail (fault : String) (cause : Option String) : IO UInt32 := do
  let stderr ← IO.getStderr
  stderr.putStrLn ("Error: " ++ fault)
  match cause with
  | some cause => stderr.putStrLn ("\nCaused by:\n    " ++ cause)
  | none => pure ()
  return 1

/-- Writes the result of a replay. -/
def write (output : Option String) (workspace : Workspace) : IO UInt32 := do
  let text := workspace.toJson.pretty
  match output with
  | some path => IO.FS.writeFile path text
  | none => (← IO.getStdout).putStrLn text
  return 0

/-- Replays the script of a call. -/
def replay (call : CommandLine.Call) (settings : Settings) (model script : String) : IO UInt32 := do
  match Domain.ofJsonText model with
  | .error fault => fail fault.message none
  | .ok domain =>
    match Replay.Script.ofJsonText script with
    | .error fault => fail fault.message none
    | .ok script =>
      let ids ← randomIds
      match Replay.replay ids (ids 1000000000) settings domain script with
      | (_, .error failure) => fail failure.summary (some failure.cause.message)
      | (s, .ok ()) => write call.output s.editor.workspace

/-- Runs the command. -/
def run (arguments : List String) : IO UInt32 := do
  match CommandLine.read arguments with
  | .error fault =>
    (← IO.getStderr).putStrLn fault.message
    return 2
  | .ok call =>
    let snapRadius ← IO.getEnv Settings.snapRadiusKey
    let shade ← IO.getEnv Settings.shadeKey
    match Settings.ofEnvironment snapRadius shade with
    | .error fault => fail fault.message none
    | .ok settings =>
      match ← (IO.FS.readFile call.model).toBaseIO with
      | .error cause => fail ("failed to read model " ++ call.model) (some cause.toString)
      | .ok model =>
        match ← (IO.FS.readFile call.script).toBaseIO with
        | .error cause => fail ("failed to read script " ++ call.script) (some cause.toString)
        | .ok script => replay call settings model script

end TypedBlocks.Command

/-- Replays a script of edits and shows the workspace that results. -/
def main (arguments : List String) : IO UInt32 :=
  TypedBlocks.Command.run arguments
