import GuardedDispatch.Demo

/-! # The command line

Runs the demonstration on the configuration file that the first argument names, or on the one at the
usual place, with the settings of the environment and of the file of variables. -/

open GuardedDispatch

/-- The **content** of a file, if it can be read. -/
def contentOfFile (path : String) : IO (Option ByteArray) := do
  match ← (IO.FS.readBinFile path).toBaseIO with
  | .ok content => return some content
  | .error _ => return none

/-- The variables of the environment that settings come from. -/
def settingsVariables : IO (List (String × String)) := do
  let convention : Settings.Convention := {}
  let names := ({} : Settings).fields.map fun field => (convention.namePrefix ++ field.1).toUpper
  let found ← names.mapM fun name => return (name, ← IO.getEnv name)
  return found.filterMap fun (name, value) => value.map (name, ·)

/-- Print a transcript; the answer is the exit status. -/
def printTranscript (transcript : Transcript) : IO UInt32 := do
  for line in transcript.lines do
    IO.println line
  match transcript.failure with
  | none => return 0
  | some failure =>
    IO.eprintln failure.message
    return 1

/-- Run the **demonstration**. -/
def main (arguments : List String) : IO UInt32 := do
  let environment ← settingsVariables
  let file := (← contentOfFile ".env").map fun content => Text.Utf8.decodeLossy content.toList
  match Settings.read { environment, file } with
  | .error failure =>
    IO.eprintln failure.message
    return 1
  | .ok settings =>
    let path := arguments.headD settings.guardsConfig.shown
    let content := (← contentOfFile path).map (·.toList)
    printTranscript (Demo.transcript settings path content)
