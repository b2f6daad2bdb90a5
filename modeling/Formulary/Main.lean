import Formulary.CommandLine.Program

/-!
# The executable

Hands the arguments, the settings that the environment decides and the standard input to
`CommandLine.execute` and prints what comes back. It cannot tell where a failure arose.
-/

namespace Formulary

/-- The variables of the environment that decide settings, with their values. -/
def readEnvironment : IO (List (String × String)) := do
  let names := ["LOG_LEVEL", "APP_TITLE", "APP_VERSION"].map ("EQUATIONKIT_" ++ ·)
  let values ← names.mapM fun name => return (← IO.getEnv name).map fun value => (name, value)
  return values.filterMap fun entry => entry

/-- Prints a report and gives its exit code. -/
def printReport (r : CommandLine.Report) : IO UInt32 := do
  for line in r.output do
    IO.println line
  for line in r.errors do
    IO.eprintln line
  match r.exit with
  | .code n => return n.toUInt32
  | .crash c =>
    IO.eprintln c.message
    return 1

end Formulary

/-- Runs the program on the arguments of the process. The standard input is read only if the
command takes its expression from there. -/
def main (arguments : List String) : IO UInt32 := do
  let environment ← Formulary.readEnvironment
  let input ←
    if Formulary.CommandLine.readsInput arguments then (← IO.getStdin).readToEnd else pure ""
  let settings := Formulary.Settings.ofEnvironment environment
  Formulary.printReport
    (Formulary.CommandLine.execute { arguments, input, settings, trace := fun _ => [] })
