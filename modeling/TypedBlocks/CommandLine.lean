/-!
# The command line

A replay is called with two paths and, if the result is not to be printed, a third. Each option is
given by its long or short name, the value as the next argument or, behind a long name, after an
equals sign. No option may be given twice.
-/

namespace TypedBlocks.CommandLine

/-- What a replay is called with. -/
structure Arguments where
  /-- path of the domain -/
  model : Option String := none
  /-- path of the script -/
  script : Option String := none
  /-- path of the result -/
  output : Option String := none

/-- Why a command line was refused. -/
inductive UsageFault where
  | unexpected (argument : String)
  | missingValue (option : String)
  | repeated (option : String)
  | missing (option : String)

/-- The text of a fault, with how the command is to be called. -/
def UsageFault.message (f : UsageFault) : String :=
  let fault :=
    match f with
    | .unexpected argument => "unexpected argument '" ++ argument ++ "' found"
    | .missingValue option => "a value is required for '--" ++ option ++ "' but none was supplied"
    | .repeated option => "the argument '--" ++ option ++ "' cannot be used multiple times"
    | .missing option => "the following required arguments were not provided: --" ++ option
  "error: " ++ fault ++ "\n\nUsage: [OPTIONS] --model <MODEL> --script <SCRIPT> [--output <OUTPUT>]"

/-- The option that an argument names, and the value that it holds itself. -/
def option? (argument : String) : Option (String × Option String) :=
  let named := [("-m", "model"), ("-s", "script"), ("-o", "output"), ("--model", "model"),
    ("--script", "script"), ("--output", "output")]
  match named.lookup argument with
  | some option => some (option, none)
  | none =>
    ["model", "script", "output"].findSome? fun option =>
      ((("--" ++ option ++ "=").toList.isPrefixOf? argument.toList).map String.ofList).map
        fun value => (option, some value)

namespace Arguments

/-- The value of an option. -/
def get? (a : Arguments) (option : String) : Option String :=
  if option = "model" then a.model else if option = "script" then a.script else a.output

/-- Sets the value of an option. -/
def set (a : Arguments) (option value : String) : Arguments :=
  if option = "model" then { a with model := some value }
  else if option = "script" then { a with script := some value }
  else { a with output := some value }

/-- Sets an option that must not have been set. -/
def setNew (a : Arguments) (option value : String) : Except UsageFault Arguments :=
  match a.get? option with
  | some _ => .error (.repeated option)
  | none => .ok (a.set option value)

/-- Reads the rest of a command line. -/
def readFrom (a : Arguments) : List String → Except UsageFault Arguments
  | [] => .ok a
  | argument :: rest =>
    match option? argument with
    | none => .error (.unexpected argument)
    | some (option, some value) => do (← a.setNew option value).readFrom rest
    | some (option, none) =>
      match rest with
      | [] => .error (.missingValue option)
      | value :: rest => do (← a.setNew option value).readFrom rest

end Arguments

/-- A complete command line: the paths of the domain and the script, and that of the result. -/
structure Call where
  model : String
  script : String
  output : Option String

/-- Reads a command line. -/
def read (arguments : List String) : Except UsageFault Call := do
  let a ← ({} : Arguments).readFrom arguments
  match a.model, a.script with
  | none, _ => .error (.missing "model")
  | _, none => .error (.missing "script")
  | some model, some script => .ok { model, script, output := a.output }

end TypedBlocks.CommandLine
