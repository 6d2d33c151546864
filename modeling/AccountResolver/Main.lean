import AccountResolver.Program

/-!
# Command line

Reads the arguments, the variables and the files that the program asks for, and
prints what its run comes to.
-/

namespace AccountResolver.Main

/-- The variables that the program reads beside those of its settings. -/
def otherVariables : List String :=
  ["KUBERNETES_SERVICE_HOST", "KUBERNETES_SERVICE_PORT", Log.Filter.variableName]

def readEnvironment : IO Environment := do
  let names := CommandLine.Setting.all.map (·.variableName) ++ otherVariables
  let pairs ← names.filterMapM fun n => do
    return (← IO.getEnv n).map fun v => (n, v)
  return .ofList pairs

def readFiles (paths : List String) : IO Files := do
  let pairs ← paths.filterMapM fun (p : String) => do
    try return some (p, (← IO.FS.readBinFile p).toList)
    catch _ => return none
  return .ofList pairs

def namedFiles (c : Config) : List String :=
  c.nats.creds :: c.kube.caFile.toList

def run (arguments : List String) : IO UInt32 := do
  let values ← readEnvironment
  let bindings ← readFiles [Program.bindingsFile]
  let e := (Program.environment? (.alone values bindings)).getD values
  let named := match CommandLine.read arguments e with
    | .ok c => namedFiles c
    | .error _ => []
  let files ← readFiles (Program.bindingsFile :: named)
  let report := Program.run (.alone values files) arguments
  for l in report.log do IO.println (l.text report.format)
  for t in report.printed do IO.print t
  for l in report.errorLines do IO.eprintln l
  return report.exit.toUInt32

end AccountResolver.Main

def main (arguments : List String) : IO UInt32 := AccountResolver.Main.run arguments
