import AccountResolver.CommandLine.Setting
import AccountResolver.Environment
import AccountResolver.Probe

/-!
# Help and version

The help lists every setting with what it is for, the variable of the
environment with its present value, and its default. In brief it tells this on
one line, at length in paragraphs.
-/

namespace AccountResolver.CommandLine

def Setting.about : Setting → String
  | natsUrl => "NATS server URL"
  | natsCreds => "NATS user credentials file (JWT + nkey seed)"
  | natsClientCert => "Client certificate for mutual TLS (requires --nats-client-key)"
  | natsClientKey => "Client key for mutual TLS (requires --nats-client-cert)"
  | natsCa => "Custom root CA for the NATS server certificate"
  | natsClientName => "Client name reported to the NATS server"
  | kubeApiUrl => "Kubernetes API server URL (defaults to the in-cluster service address)"
  | kubeTokenFile => "Bearer token file for the Kubernetes API"
  | kubeCaFile => "CA bundle for the Kubernetes API server certificate"
  | watchNamespace => "Only watch NatsAccounts in this namespace (all namespaces when unset)"
  | probeListen => "Listen address for the health probe server"
  | resyncInterval => "Seconds between full resyncs of all NatsAccount resources"
  | reconcileWorkers => "Number of concurrent reconcile workers"
  | logLevel => "Log level (trace, debug, info, warn, error)"
  | logFormat => "Log output format"

def Setting.more? : Setting → Option String
  | resyncInterval =>
    some ("Each resync reconciles every resource, and each reconcile publishes a claims " ++
      "update for its account.")
  | _ => none

/-- The values that a setting can have, where they can be listed. -/
def Setting.choices : Setting → List String
  | logFormat => [LogFormat.text.name, LogFormat.json.name]
  | _ => []

/-- What can be told of a setting in brackets: its variable with the present value, its
default and its choices. -/
def Setting.remarks (e : Environment) (s : Setting) : List String :=
  ["[env: " ++ s.variableName ++ "=" ++ (e.value? s.variableName).getD "" ++ "]"] ++
    (match s.default? with
      | some d => ["[default: " ++ d ++ "]"]
      | none => []) ++
    (match s.choices with
      | [] => []
      | cs => ["[possible values: " ++ ", ".intercalate cs ++ "]"])

/-- A text in bold, as a terminal shows it. An escape sequence that is open before it ends. -/
def bold (s : String) : String := "\x1b[1m" ++ s ++ "\x1b[0m"

/-- A text whose lines after the first are moved in by ten blanks. -/
def indented (s : String) : String :=
  String.ofList (s.toList.flatMap fun c =>
    if c = '\n' then '\n' :: List.replicate 10 ' ' else [c])

def Setting.explained (e : Environment) (long : Bool) (s : Setting) : String :=
  if long then
    "\n\n".intercalate
      ([s.about] ++ s.more?.toList ++ ["\n".intercalate (s.remarks e)])
  else " ".intercalate (s.about :: s.remarks e)

def entries (e : Environment) (long : Bool) : List (String × String) :=
  (Setting.all.map fun s =>
      ("      " ++ bold ("--" ++ s.option) ++ " <" ++ s.variableName ++ ">",
        s.explained e long)) ++
    [("  " ++ bold "-h" ++ ", " ++ bold "--help",
        if long then "Print help (see a summary with '-h')"
        else "Print help (see more with '--help')"),
     ("  " ++ bold "-V" ++ ", " ++ bold "--version", "Print version")]

/-- The help. Everything shows without its escape sequences, values of the environment as
well. -/
def help (e : Environment) (long : Bool) : String :=
  Text.withoutEscapes
    ("Serves NatsAccount JWTs to a NATS cluster's account resolver\n\nUsage: " ++
      Probe.serviceName ++ " [OPTIONS] " ++ Setting.natsCreds.usage ++ "\n\nOptions:\n" ++
      (if long then "\n\n" else "\n").intercalate
        ((entries e long).map fun x => x.1 ++ indented ("\n" ++ x.2)) ++ "\n")

def versionText : String := Probe.serviceName ++ " " ++ Probe.version ++ "\n"

end AccountResolver.CommandLine
