import SpaGateway.CommandLine
import SpaGateway.Config.Json
import SpaGateway.Json.Printer

/-!
# The program

The program reads its arguments, the variable `SPA_TARGET` and the configuration file that
the arguments name, and shows the configuration that they make together, with the address of
the spa it is for. Arguments that are not accepted end it with status 2, a configuration that
does not come about with status 1.
-/

namespace SpaGateway

namespace CommandLine

/-- A short notice for whoever gave arguments that were not accepted. -/
def UsageError.notice : UsageError → String
  | unknownArgument => "unexpected argument"
  | invalidValue => "an option lacks its value"
  | valueValidation => "an option has a value of the wrong kind"
  | argumentConflict => "an option is given twice"
  | tooManyValues => "a flag takes no value"
  | displayHelp => helpText
  | displayVersion => "spa-gateway"
where
  helpText : String :=
    String.intercalate "\n" ("Options:" :: Setting.all.map fun s => "  --" ++ s.name)

/-- The status that the program ends with after a usage error. -/
def UsageError.status : UsageError → UInt32
  | displayHelp | displayVersion => 0
  | _ => 2

/-- The contents of a file, or nothing if it cannot be read as text. -/
def readContents (path : String) : IO (Option String) := do
  try return some (← IO.FS.readFile path) catch _ => return none

/-- Shows the configuration that the options make. -/
def showConfig (options : Options) : IO UInt32 := do
  let contents ← match options.config with
    | some path => readContents path
    | none => pure none
  match options.configure contents with
  | .error e =>
    IO.eprintln ("Error: " ++ e.message)
    return 1
  | .ok config =>
    IO.println ("Spa at " ++ config.completeTarget)
    IO.println config.toJson.render
    return 0

end CommandLine

end SpaGateway

open SpaGateway in
/-- Runs the program. -/
def main (arguments : List String) : IO UInt32 := do
  match CommandLine.read arguments (← IO.getEnv "SPA_TARGET") with
  | .ok options => CommandLine.showConfig options
  | .error e =>
    if e.status = 0 then IO.println e.notice else IO.eprintln ("error: " ++ e.notice)
    return e.status
