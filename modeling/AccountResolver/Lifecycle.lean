/-!
# Connection lifecycle

The lifecycle follows the one run that owns the connection to the cluster: its
phase, and a gate that opens once, when the connection is made, and then holds
the connection's handle for ever. Probes are answered from it.
-/

namespace AccountResolver

inductive LinkStatus where
  | connected
  | reconnecting
  | disconnected
deriving DecidableEq, Repr, Inhabited

/-- How far the run that owns the connection has got. -/
inductive Phase where
  | idle
  | connecting
  | connected
  | exited
deriving DecidableEq, Repr, Inhabited

inductive Connection where
  | uninitialized
  | connecting
  | ready
  | reconnecting
  | disconnected
deriving DecidableEq, Repr, Inhabited

def Connection.name : Connection → String
  | .uninitialized => "uninitialized"
  | .connecting => "connecting"
  | .ready => "ready"
  | .reconnecting => "reconnecting"
  | .disconnected => "disconnected"

inductive ProbeFailure where
  | notLive
  | notInitialised
  | reconnecting
  | disconnected
deriving DecidableEq, Repr, Inhabited

def ProbeFailure.message : ProbeFailure → String
  | .notLive => "Not connected to NATS: run loop has exited"
  | .notInitialised => "NATS client not initialised yet"
  | .reconnecting => "NATS is reconnecting"
  | .disconnected => "NATS is not connected"

/-- The phase of the run and the handle behind the gate. -/
structure Lifecycle (η : Type) where
  phase : Phase := .idle
  gate : Option η := none

namespace Lifecycle

variable {η : Type}

def fresh : Lifecycle η := {}

instance : Inhabited (Lifecycle η) := ⟨fresh⟩

def beginRun (l : Lifecycle η) : Lifecycle η := { l with phase := .connecting }

/-- A run ends, whichever way. -/
def endRun (l : Lifecycle η) : Lifecycle η := { l with phase := .exited }

/-- Offers a handle to the gate. The first one opens it, and moves a connecting
run to connected; later ones change nothing. Gate and phase are two writes, the gate
first, and taken as one turn here: a probe between them, which sees the gate open and
the run still connecting, is none of the moments of a history. -/
def offer (l : Lifecycle η) (handle : η) : Lifecycle η :=
  match l.gate with
  | some _ => l
  | none =>
    { phase := if l.phase = .connecting then .connected else l.phase, gate := some handle }

def isClosed (l : Lifecycle η) : Bool := l.gate.isNone

def hasExited (l : Lifecycle η) : Bool := l.phase == .exited

/-- The reported state, given what each handle says about itself. -/
def connection (l : Lifecycle η) (status : η → LinkStatus) : Connection :=
  match l.phase with
  | .idle => .uninitialized
  | .connecting => .connecting
  | .exited => .disconnected
  | .connected =>
    match l.gate.map status with
    | some .connected => .ready
    | _ => .reconnecting

/-- Liveness: the run has not ended. -/
def liveness (l : Lifecycle η) : Except ProbeFailure Unit :=
  if l.hasExited then .error .notLive else .ok ()

/-- Readiness: the gate is open, the run has not ended and the connection behind
the gate says that it is connected. -/
def readiness (l : Lifecycle η) (status : η → LinkStatus) : Except ProbeFailure Unit :=
  match l.gate with
  | none => .error .notInitialised
  | some handle =>
    if l.hasExited then .error .disconnected
    else
      match status handle with
      | .connected => .ok ()
      | .reconnecting => .error .reconnecting
      | .disconnected => .error .disconnected

end Lifecycle

end AccountResolver
