import AccountResolver.Config
import AccountResolver.Text.Escapes
import AccountResolver.Text.Split

/-!
# Settings

Each setting is given by an option of the command line, by a variable of the
environment, or by its default. A draft holds the values given so far; a
configuration is a draft with the defaults filled in.
-/

namespace AccountResolver.CommandLine

/-- The settings, in the order in which they are listed. -/
inductive Setting where
  | natsUrl
  | natsCreds
  | natsClientCert
  | natsClientKey
  | natsCa
  | natsClientName
  | kubeApiUrl
  | kubeTokenFile
  | kubeCaFile
  | watchNamespace
  | probeListen
  | resyncInterval
  | reconcileWorkers
  | logLevel
  | logFormat
deriving DecidableEq, Repr, Inhabited

namespace Setting

def all : List Setting :=
  [natsUrl, natsCreds, natsClientCert, natsClientKey, natsCa, natsClientName, kubeApiUrl,
    kubeTokenFile, kubeCaFile, watchNamespace, probeListen, resyncInterval, reconcileWorkers,
    logLevel, logFormat]

/-- The name of a setting's option, without the dashes before it. -/
def option : Setting → String
  | natsUrl => "nats-url"
  | natsCreds => "nats-creds"
  | natsClientCert => "nats-client-cert"
  | natsClientKey => "nats-client-key"
  | natsCa => "nats-ca"
  | natsClientName => "nats-client-name"
  | kubeApiUrl => "kube-api-url"
  | kubeTokenFile => "kube-token-file"
  | kubeCaFile => "kube-ca-file"
  | watchNamespace => "watch-namespace"
  | probeListen => "probe-listen"
  | resyncInterval => "resync-interval-secs"
  | reconcileWorkers => "reconcile-workers"
  | logLevel => "log-level"
  | logFormat => "log-format"

/-- The environment variable of a setting, which also stands for the value of its option. -/
def variableName : Setting → String
  | natsUrl => "NATS_URL"
  | natsCreds => "NATS_CREDS"
  | natsClientCert => "NATS_CLIENT_CERT"
  | natsClientKey => "NATS_CLIENT_KEY"
  | natsCa => "NATS_CA"
  | natsClientName => "NATS_CLIENT_NAME"
  | kubeApiUrl => "KUBE_API_URL"
  | kubeTokenFile => "KUBE_TOKEN_FILE"
  | kubeCaFile => "KUBE_CA_FILE"
  | watchNamespace => "WATCH_NAMESPACE"
  | probeListen => "PROBE_LISTEN"
  | resyncInterval => "RESYNC_INTERVAL_SECS"
  | reconcileWorkers => "RECONCILE_WORKERS"
  | logLevel => "LOG_LEVEL"
  | logFormat => "LOG_FORMAT"

def usage (s : Setting) : String := "--" ++ s.option ++ " <" ++ s.variableName ++ ">"

def named? (option : String) : Option Setting := all.find? fun s => s.option == option

end Setting

/-! ### Values -/

inductive NumberFault where
  | empty
  | badDigit
  | tooLarge
deriving DecidableEq, Repr, Inhabited

def NumberFault.message : NumberFault → String
  | .empty => "cannot parse integer from empty string"
  | .badDigit => "invalid digit found in string"
  | .tooLarge => "number too large to fit in target type"

/-- Reads digits after a number `n`. The first character that is no digit, or makes the
number too large, is the one reported. -/
def readDigits : Nat → List Char → Except NumberFault Nat
  | n, [] => .ok n
  | n, c :: cs =>
    if Decimal.isDigit c then
      if 10 * n + Decimal.digitValue c < UInt64.size then
        readDigits (10 * n + Decimal.digitValue c) cs
      else .error .tooLarge
    else .error .badDigit

/-- Reads a number of 64 bits. A plus sign may stand before its digits. -/
def readNumber (s : List Char) : Except NumberFault UInt64 :=
  match s with
  | [] => .error .empty
  | ['+'] => .error .badDigit
  | '+' :: ds => (readDigits 0 ds).map Nat.toUInt64
  | ds => (readDigits 0 ds).map Nat.toUInt64

/-- What is wrong with a command line and its environment, or what they ask for instead of
a configuration. -/
inductive Fault where
  | help (long : Bool)
  | version
  | missing
  | unknown (argument : String)
  | repeated (s : Setting)
  | noValue (s : Setting)
  | noSuchValue (s : Setting) (value : String)
  | badValue (s : Setting) (value reason : String)
  | surplusValue (option value : String)
deriving DecidableEq, Repr, Inhabited

namespace Fault

/-- What is quoted of a value: the value without its escape sequences. -/
def quoted (value : String) : String := "'" ++ Text.withoutEscapes value ++ "'"

def message : Fault → String
  | help _ => ""
  | version => ""
  | missing =>
    "error: the following required arguments were not provided:\n  " ++ Setting.natsCreds.usage
  | unknown argument => "error: unexpected argument " ++ quoted argument ++ " found"
  | repeated s => "error: the argument '" ++ s.usage ++ "' cannot be used multiple times"
  | noValue s => "error: a value is required for '" ++ s.usage ++ "' but none was supplied"
  | noSuchValue s value => "error: invalid value " ++ quoted value ++ " for " ++ quoted s.usage
  | badValue s value reason =>
    "error: invalid value " ++ quoted value ++ " for " ++ quoted s.usage ++ ": " ++ reason
  | surplusValue option value =>
    "error: unexpected value " ++ quoted value ++ " for " ++ quoted option ++
      " found; no more were expected"

/-- The first line of the wording; what a fault quotes may hold line breaks. -/
def headline (f : Fault) : String := Text.firstLine f.message

end Fault

/-! ### Drafts -/

structure Draft where
  natsUrl : Option String := none
  natsCreds : Option String := none
  natsClientCert : Option String := none
  natsClientKey : Option String := none
  natsCa : Option String := none
  natsClientName : Option String := none
  kubeApiUrl : Option String := none
  kubeTokenFile : Option String := none
  kubeCaFile : Option String := none
  watchNamespace : Option String := none
  probeListen : Option Network.SocketAddress := none
  resyncInterval : Option UInt64 := none
  reconcileWorkers : Option UInt64 := none
  logLevel : Option String := none
  logFormat : Option LogFormat := none
deriving DecidableEq, Repr, Inhabited

namespace Draft

def isSet (d : Draft) : Setting → Bool
  | .natsUrl => d.natsUrl.isSome
  | .natsCreds => d.natsCreds.isSome
  | .natsClientCert => d.natsClientCert.isSome
  | .natsClientKey => d.natsClientKey.isSome
  | .natsCa => d.natsCa.isSome
  | .natsClientName => d.natsClientName.isSome
  | .kubeApiUrl => d.kubeApiUrl.isSome
  | .kubeTokenFile => d.kubeTokenFile.isSome
  | .kubeCaFile => d.kubeCaFile.isSome
  | .watchNamespace => d.watchNamespace.isSome
  | .probeListen => d.probeListen.isSome
  | .resyncInterval => d.resyncInterval.isSome
  | .reconcileWorkers => d.reconcileWorkers.isSome
  | .logLevel => d.logLevel.isSome
  | .logFormat => d.logFormat.isSome

def path (s : Setting) (value : String) : Except Fault String :=
  if value = "" then .error (.noValue s) else .ok value

def number (s : Setting) (value : String) : Except Fault UInt64 :=
  match readNumber value.toList with
  | .ok n => .ok n
  | .error f => .error (.badValue s value f.message)

def address (s : Setting) (value : String) : Except Fault Network.SocketAddress :=
  match Network.SocketAddress.ofString? value with
  | some x => .ok x
  | none => .error (.badValue s value "invalid socket address syntax")

def format (s : Setting) (value : String) : Except Fault LogFormat :=
  if value = LogFormat.text.name then .ok .text
  else if value = LogFormat.json.name then .ok .json
  else if value = "" then .error (.noValue s)
  else .error (.noSuchValue s value)

def set (d : Draft) (s : Setting) (value : String) : Except Fault Draft :=
  match s with
  | .natsUrl => .ok { d with natsUrl := some value }
  | .natsCreds => (path s value).map fun v => { d with natsCreds := some v }
  | .natsClientCert => .ok { d with natsClientCert := some value }
  | .natsClientKey => .ok { d with natsClientKey := some value }
  | .natsCa => .ok { d with natsCa := some value }
  | .natsClientName => .ok { d with natsClientName := some value }
  | .kubeApiUrl => .ok { d with kubeApiUrl := some value }
  | .kubeTokenFile => (path s value).map fun v => { d with kubeTokenFile := some v }
  | .kubeCaFile => (path s value).map fun v => { d with kubeCaFile := some v }
  | .watchNamespace => .ok { d with watchNamespace := some value }
  | .probeListen => (address s value).map fun v => { d with probeListen := some v }
  | .resyncInterval => (number s value).map fun v => { d with resyncInterval := some v }
  | .reconcileWorkers => (number s value).map fun v => { d with reconcileWorkers := some v }
  | .logLevel => .ok { d with logLevel := some value }
  | .logFormat => (format s value).map fun v => { d with logFormat := some v }

/-- Gives a setting a value from the command line, where it may be given once only. -/
def give (d : Draft) (s : Setting) (value : String) : Except Fault Draft :=
  if d.isSet s then .error (.repeated s) else d.set s value

end Draft

/-! ### Defaults -/

def defaultNatsUrl : String := "nats://127.0.0.1:4222"

def defaultClientName : String := "nats-account-resolver"

def defaultProbeListen : Network.SocketAddress := .v4 ⟨0, 0, 0, 0⟩ 8081

def defaultResyncInterval : UInt64 := 600

def defaultWorkers : UInt64 := 2

def defaultLogLevel : String := "info"

def defaultLogFormat : LogFormat := .text

def Setting.default? : Setting → Option String
  | natsUrl => some defaultNatsUrl
  | natsClientName => some defaultClientName
  | probeListen => some defaultProbeListen.text
  | resyncInterval => some (Decimal.text defaultResyncInterval.toNat)
  | reconcileWorkers => some (Decimal.text defaultWorkers.toNat)
  | logLevel => some defaultLogLevel
  | logFormat => some defaultLogFormat.name
  | _ => none

def Draft.finish (d : Draft) : Except Fault Config :=
  match d.natsCreds with
  | none => .error .missing
  | some creds =>
    .ok
      { nats :=
          { url := d.natsUrl.getD defaultNatsUrl
            creds
            clientCert := d.natsClientCert
            clientKey := d.natsClientKey
            ca := d.natsCa
            clientName := d.natsClientName.getD defaultClientName }
        kube :=
          { apiUrl := d.kubeApiUrl
            tokenFile := d.kubeTokenFile
            caFile := d.kubeCaFile
            ns := d.watchNamespace }
        probeListen := d.probeListen.getD defaultProbeListen
        resyncSeconds := d.resyncInterval.getD defaultResyncInterval
        workers := d.reconcileWorkers.getD defaultWorkers
        logLevel := d.logLevel.getD defaultLogLevel
        logFormat := d.logFormat.getD defaultLogFormat }

end AccountResolver.CommandLine
