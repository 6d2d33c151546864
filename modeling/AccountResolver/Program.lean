import AccountResolver.CommandLine.Help
import AccountResolver.CommandLine.Read
import AccountResolver.Environment
import AccountResolver.Log.Line
import AccountResolver.Surroundings
import AccountResolver.Text.Escapes
import AccountResolver.Text.Split

/-!
# The program

What a run of the program comes to: its log, what else it prints, and its exit
code. The command line is read first, then the configuration is checked, then the
API client is built, and last the connection to the cluster is made.
-/

namespace AccountResolver.Program

structure Report where
  format : LogFormat := .text
  log : List Log.Line := []
  printed : List String := []
  errors : List String := []
  exit : Nat := 0
deriving Inhabited

namespace Report

def linesOf (s : String) : List String := (Text.lines s.toList).map String.ofList

def logged (r : Report) : List Log.Line := r.log.map fun l => l.head r.format

/-- The other lines that are printed: those in which messages go on, and those beside the
log. -/
def lines (r : Report) : List String :=
  (r.log.flatMap fun l => l.continued r.format) ++ r.printed.flatMap linesOf

def errorLines (r : Report) : List String := r.errors.flatMap linesOf

end Report

def ending (f : Failure) : String := "Error: " ++ f.message

def refuse (e : Environment) : CommandLine.Fault → Report
  | .help long => { printed := [CommandLine.help e long] }
  | .version => { printed := [CommandLine.versionText] }
  | f => { errors := [f.message], exit := 2 }

/-- What a run comes to that breaks off, with what has been noted before. -/
def breakOff (notes : List String) (reason : String) : Report :=
  { errors := notes ++ ["\n" ++ reason], exit := 101 }

def announcement (c : Config) : List Log.Line :=
  [⟨.info, "NATS: " ++ c.nats.url⟩,
   ⟨.info, "Probes: " ++ c.probeListen.text⟩,
   ⟨.info, "Reconcile workers: " ++ Decimal.text c.workers.toNat ++ ", resync every " ++
     Decimal.text c.resyncSeconds.toNat ++ "s"⟩]

def probeFailure (s : Surroundings) (c : Config) : List Log.Line :=
  match s.listen c.probeListen with
  | .ok _ => []
  | .error detail =>
    [⟨.warn, "Probe server error: " ++ (Failure.ofSystem detail).message⟩]

/-- What a configuration comes to: the log before it is filtered, the errors and the exit
code. A connection that is made lasts until the program is told to stop. -/
def serve (s : Surroundings) (e : Environment) (c : Config) :
    List Log.Line × List String × Nat :=
  match c.check with
  | .error p => ([⟨.error, "Configuration error: " ++ p.message⟩], [], 1)
  | .ok _ =>
    match Kube.Client.build c.kube e s.files with
    | .error f => (announcement c, [ending f], 1)
    | .ok _ =>
      match Nats.connect s.files s.cluster c.nats with
      | .error f =>
        (announcement c ++ probeFailure s c ++
          [⟨.error, "NATS account server failed: " ++ f.message⟩], [ending f], 1)
      | .ok _ =>
        (announcement c ++ [⟨.info, "Received shutdown signal"⟩] ++ probeFailure s c ++
          [⟨.info, "Shut down cleanly"⟩], [], 0)

def bindingsFile : String := ".env"

/-- The environment with the bindings of the file, if there can be one. -/
def environment? (s : Surroundings) : Option Environment :=
  match s.files.read bindingsFile with
  | .ok file => Environment.DotEnv.load? s.environment file
  | .error _ => some s.environment

def runIn (s : Surroundings) (e : Environment) (arguments : List String) : Report :=
  match CommandLine.read arguments e with
  | .error f => refuse e f
  | .ok c =>
    let o := Log.Filter.ofSettings e c.logLevel
    if o.isTorn then breakOff o.notes Log.DirectiveFault.torn.message
    else
      let (log, errors, exit) := serve s e c
      { format := c.logFormat
        log := log.filter fun l => o.filter.admits Log.Filter.programTarget l.level
        errors := o.notes ++ errors
        exit }

def run (s : Surroundings) (arguments : List String) : Report :=
  match environment? s with
  | some e => runIn s e arguments
  | none => breakOff [] "failed to set environment variable"

end AccountResolver.Program
