import LatencyHarness.Readiness.Watch
import LatencyHarness.Reclaim

/-! The services that a run has launched, from launch to teardown.

A service is tracked from the moment it is spawned, before anything is waited for; so whatever
interrupts its start, the teardown finds it. One that outlives the kill signal stays tracked for
the next teardown. -/
namespace LatencyHarness

/-- A launched service. -/
structure Tracked where
  pid : Pid
  port : Port
  command : String
  /-- how it ended, if it did so before it was ready -/
  exited : Option WaitStatus
  deriving DecidableEq, Repr

/-- What a supervisor goes by. -/
structure Supervision (σ : Type) where
  workingDir : Path
  ports : List Port
  patterns : List Pattern
  pollInterval : Millis
  teardown : StopTimeouts
  reclaimer : Reclaimer σ

def Supervision.ofConfig [Pattern.Wording] {σ : Type} (c : Config) (r : Reclaimer σ) :
    Except ConfigError (Supervision σ) := do
  return ⟨c.workingDir, c.ports, ← c.sweep, c.pollInterval, c.teardown, r⟩

/-- The tracked services, and how often a teardown has run. -/
structure Supervisor (σ : Type) where
  session : Session σ
  tracked : Role → Option Tracked
  passes : Nat

namespace Supervisor

variable {σ : Type}

/-- A supervisor that has launched nothing. -/
def start (s : Session σ) : Supervisor σ := ⟨s, fun _ => none, 0⟩

def isTracked (s : Supervisor σ) (role : Role) : Bool := (s.tracked role).isSome

/-- The tracked roles in start order. -/
def trackedRoles (s : Supervisor σ) : List Role := Role.startOrder.filter s.isTracked

/-- The supervisor with another entry for a role. -/
def withEntry (s : Supervisor σ) (role : Role) (entry : Option Tracked) : Supervisor σ :=
  { s with tracked := fun r => if r = role then entry else s.tracked r }

end Supervisor

abbrev Supervising (σ : Type) := EStateM Halt (Supervisor σ)

instance {σ : Type} : MonadLift (Task σ) (Supervising σ) where
  monadLift t := fun s =>
    match t s.session with
    | .ok a n => .ok a { s with session := n }
    | .error e n => .error e { s with session := n }

/-- A service that is ready. -/
structure Started where
  role : Role
  pid : Pid
  port : Port
  deriving DecidableEq, Repr

/-- What a teardown has done. -/
structure TeardownSummary where
  /-- the services that have ended -/
  stopped : List (Role × WaitStatus)
  /-- the services that were left for the next teardown when it was their turn -/
  lingering : List Role
  reclaim : ReclaimReport
  deriving DecidableEq, Repr

namespace Supervising

variable {σ : Type} [Host σ]

/-- Spawns a service, records it in a pidfile and tracks it. -/
def launch (v : Supervision σ) (spec : ServiceSpec) :
    Supervising σ (Except SystemError Pid) := do
  match ← (Task.perform (Host.spawn v.workingDir spec.launch) : Task σ _) with
  | .error e => return .error e
  | .ok pid =>
    let command := spec.launch.display
    (Task.emit (.launched spec.role pid) : Task σ _)
    let _ ← (Task.inFolder (Pidfile.write spec.role ⟨pid, spec.port, command⟩) : Task σ _)
    modify (·.withEntry spec.role (some ⟨pid, spec.port, command, none⟩))
    return .ok pid

/-- Notes the outcome of the wait for a tracked service. -/
def conclude (spec : ServiceSpec) (pid : Pid) (reader : LineReader) :
    ReadinessOutcome → Supervising σ (Except StartError Started)
  | .ready => do
    (Task.startForwarder ⟨pid, spec.role.name, reader⟩ : Task σ _)
    (Task.emit (.ready spec.role pid) : Task σ _)
    return .ok ⟨spec.role, pid, spec.port⟩
  | .processExited status => do
    modify fun s => s.withEntry spec.role ((s.tracked spec.role).map ({ · with exited := some status }))
    (Task.emit (.exitedEarly spec.role status) : Task σ _)
    return .error (.notReady spec.role (.processExited status))
  | .timedOut => do
    (Task.emit (.readinessTimedOut spec.role) : Task σ _)
    return .error (.notReady spec.role .timedOut)

/-- The wait for a service's marker. -/
def watchOf (v : Supervision σ) (spec : ServiceSpec) : Watch :=
  ⟨spec.role.name, spec.marker, spec.startupTimeout, v.pollInterval⟩

/-- Launches a service and waits until it is ready. The role must not be tracked. -/
def start (v : Supervision σ) (spec : ServiceSpec) : Supervising σ (Except StartError Started) := do
  if (← get).isTracked spec.role then
    throw (.crashed s!"{spec.role.name} is already tracked; refusing to start it twice")
  match ← launch v spec with
  | .error e => return .error (.launch spec.role e)
  | .ok pid =>
    let (reader, outcome) ← ((watchOf v spec).run pid (.ofStreams true true) : Task σ _)
    conclude spec pid reader outcome

/-- Forgets a service that has ended, with its pidfile. -/
def forget (role : Role) (pid : Pid) : Supervising σ Unit := do
  (Task.stopForwarder pid : Task σ _)
  let _ ← (Task.inFolder (Pidfile.delete role) : Task σ _)
  modify (·.withEntry role none)

/-- The status of a tracked service after an attempt to end it, if it has ended. -/
def endStatus (v : Supervision σ) (role : Role) (t : Tracked) : Task σ (Option WaitStatus) := do
  match t.exited with
  | some status =>
    Task.emit (.foundEnded t.pid)
    return some status
  | none =>
    match ← Task.shutdown t.pid v.teardown with
    | .ok status => return status
    | .error _ =>
      Task.emit (.stopFailed role)
      return none

/-- Ends a tracked service. -/
def stop (v : Supervision σ) (role : Role) (t : Tracked) : Supervising σ (Option WaitStatus) := do
  match ← (endStatus v role t : Task σ _) with
  | some status =>
    (Task.emit (.stopped role status) : Task σ _)
    forget role t.pid
    return some status
  | none =>
    (Task.emit (.survived role) : Task σ _)
    return none

/-- Ends the tracked services among some roles: those that have ended, and those that have
not. -/
def stopAll (v : Supervision σ) :
    List Role → Supervising σ (List (Role × WaitStatus) × List Role)
  | [] => return ([], [])
  | role :: roles => do
    match (← get).tracked role with
    | none => stopAll v roles
    | some t =>
      let status ← stop v role t
      let (stopped, lingering) ← stopAll v roles
      match status with
      | some s => return ((role, s) :: stopped, lingering)
      | none => return (stopped, role :: lingering)

/-- Forgets the services that the reclamation has finished off. -/
def forgetReaped : List Role → Supervising σ Unit
  | [] => return
  | role :: roles => do
    match (← get).tracked role with
    | none => pure ()
    | some t =>
      match ← (Task.ask (Host.exitStatus? t.pid) : Task σ _) with
      | .ok (some status) =>
        (Task.emit (.reaped role status) : Task σ _)
        forget role t.pid
      | _ => pure ()
    forgetReaped roles

/-- Ends every tracked service, then reclaims the managed ports. -/
def teardownAll (v : Supervision σ) : Supervising σ TeardownSummary := do
  modify fun s => { s with passes := s.passes + 1 }
  (Task.emit .teardownBegun : Task σ _)
  let (stopped, lingering) ← stopAll v Role.startOrder
  let report ← (v.reclaimer.reclaim v.ports v.patterns : Task σ _)
  forgetReaped Role.startOrder
  return ⟨stopped, lingering, report⟩

/-- Lets go of what is still tracked: each such process is killed. -/
def abandon : List Role → Supervising σ Unit
  | [] => return
  | role :: roles => do
    match (← get).tracked role with
    | none => pure ()
    | some t => (Task.release t.pid : Task σ _)
    abandon roles

end Supervising

end LatencyHarness
