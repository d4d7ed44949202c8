import StorageGateway.Options.Arguments
import StorageGateway.Options.Setup

/-!
# The command line

The program reads its options from the arguments and from the environment. It reports where it is
to listen and which service it calls, or why it cannot: the exit status is 2 when the arguments
are refused and 1 when the options that they give are of no use.

## Main definitions

* `CommandLine.usage`: the settings as arguments.
* `main`: reads the options and reports.
-/

namespace StorageGateway.CommandLine

/-- The settings as arguments, one in a line. -/
def usage : List String := "Options:" :: Setting.all.map fun s => "  " ++ s.display

/-- The lines for usable options. -/
def summary (o : Options) (base : Url) : List String :=
  ["address: " ++ o.host, "port: " ++ toString o.port, "service: " ++ base.render]

/-- The exit status, the lines for the output and those for the errors. -/
def report (arguments : List String) (environment : String → Option String) :
    UInt32 × List String × List String :=
  match Arguments.read arguments environment with
  | .error .helpAsked => (0, usage, [])
  | .error .versionAsked => (0, ["StorageGateway"], [])
  | .error refusal => (2, [], refusal.message?.toList)
  | .ok options =>
    match options.baseUrl with
    | .ok base => (0, summary options base, [])
    | .error refusal => (1, [], [refusal.message])

/-- The variables of the environment that give settings. -/
def readEnvironment : IO (List (String × String)) :=
  Setting.all.filterMapM fun s => do
    return (← IO.getEnv s.environmentName).map fun text => (s.environmentName, text)

end StorageGateway.CommandLine

open StorageGateway in
/-- Reads the options and reports. -/
def main (arguments : List String) : IO UInt32 := do
  let given ← CommandLine.readEnvironment
  let (status, output, errors) :=
    CommandLine.report arguments fun name => given.lookup name
  output.forM fun line => IO.println line
  errors.forM fun line => IO.eprintln line
  return status
