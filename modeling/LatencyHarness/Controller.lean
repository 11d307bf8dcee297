import LatencyHarness.Client
import LatencyHarness.Preconditions
import LatencyHarness.Report
import LatencyHarness.Supervisor

/-! A whole run: the checks, the ports, the two services, the client, the teardown.

The run drives itself forward until it fails, is interrupted or is done. If it has left its first
state or was interrupted, it is torn down, once. -/
namespace LatencyHarness

/-- What a run goes by. -/
structure Plan (σ : Type) where
  config : Config
  patterns : List Pattern
  escalationPatterns : List Pattern
  supervision : Supervision σ

namespace Plan

/-- The plan of a configuration that holds together. -/
def ofConfig [Pattern.Wording] {σ : Type} (c : Config) (r : Reclaimer σ) :
    Except HarnessError (Plan σ) :=
  Except.mapError HarnessError.ofConfig do
    c.validate
    return ⟨c, ← c.sweep, ← c.escalation, ← Supervision.ofConfig c r⟩

def reclaimer {σ : Type} (p : Plan σ) : Reclaimer σ := p.supervision.reclaimer

end Plan

/-- Where a run stands: its services, its client if it is running, its state, and whether it has
been torn down. -/
structure Controller (σ : Type) where
  supervisor : Supervisor σ
  client : Option Pid
  state : RunState
  tornDown : Bool

/-- A run that has not begun. -/
def Controller.start {σ : Type} (s : Session σ) : Controller σ :=
  ⟨.start s, none, .preflightCleanup, false⟩

abbrev Running (σ : Type) := EStateM Halt (Controller σ)

instance {σ : Type} : MonadLift (Supervising σ) (Running σ) where
  monadLift t := fun s =>
    match t s.supervisor with
    | .ok a n => .ok a { s with supervisor := n }
    | .error e n => .error e { s with supervisor := n }

namespace Running

variable {σ : Type} [Host σ]

/-- Lets a task be a step of the run. -/
def task {α : Type} (t : Task σ α) : Running σ α := liftM (liftM t : Supervising σ α)

def print (text : String) : Running σ Unit := task (Task.print text)

/-- Goes over to a state, unless the run is in it. -/
def transition (next : RunState) : Running σ Unit := do
  let before := (← get).state
  if before ≠ next then
    task (Task.emit (.stateChanged before next))
    modify ({ · with state := next })

/-! ### Preflight -/

/-- The ports among some that are not free, each looked at by itself. -/
def busyPorts (r : Reclaimer σ) : List Port → Task σ (List Port)
  | [] => return []
  | p :: ps => do
    let free ← r.areFree [p]
    let rest ← busyPorts r ps
    return if free then rest else p :: rest

/-- Frees the managed ports; a pass that is not enough is followed by one escalation. -/
def preflight (p : Plan σ) : Task σ (Except HarnessError Unit) := do
  let ports := p.config.ports
  Task.print s!"🧹 Cleaning up ports {portsText ports}..."
  let _ ← p.reclaimer.reclaim ports p.patterns
  if ← p.reclaimer.areFree ports then
    Task.emit .portsFree
    return .ok ()
  Task.print "⚠️  Ports still in use, forcing cleanup..."
  let _ ← p.reclaimer.escalate ports p.escalationPatterns
  let busy ← busyPorts p.reclaimer ports
  if busy.isEmpty then
    Task.emit .portsFree
    return .ok ()
  for b in ← p.reclaimer.bindings busy do
    Task.emit (.portStillHeld b.port b.owner)
  return .error (.portConflict busy)

/-! ### The way forward -/

/-- Starts the service of a role. -/
def startService (p : Plan σ) (role : Role) : Running σ (Except HarnessError Unit) := do
  let spec := p.config.service role
  print s!"🚀 Starting {role.name} ({spec.launch.display})..."
  match ← (Supervising.start p.supervision spec : Supervising σ _) with
  | .error e => return .error (.startup e)
  | .ok started =>
    print s!"✅ {role.name} is ready on port {started.port.toNat} (PID {started.pid.toNat})"
    return .ok ()

/-- Starts the services of some roles in order, up to the first that does not start. -/
def startServices (p : Plan σ) : List Role → Running σ (Except HarnessError Unit)
  | [] => return .ok ()
  | role :: roles => do
    transition (.starting role)
    match ← startService p role with
    | .error e => return .error e
    | .ok () => startServices p roles

/-- Waits for the client to end. -/
def awaitClient (pid : Pid) : Running σ (Except HarnessError Unit) := do
  match ← task (Client.wait pid) with
  | .error e => return .error e
  | .ok () =>
    print "✅ Client finished"
    return .ok ()

/-- Launches the client and waits for it to end. From its launch on it is held by the run. -/
def launchClient (p : Plan σ) : Running σ (Except HarnessError Unit) := do
  match ← task (Client.spawn p.config.workingDir p.config.clientLaunch) with
  | .error e => return .error e
  | .ok pid =>
    modify ({ · with client := some pid })
    awaitClient pid

/-- Runs the client to its end. -/
def runClient (p : Plan σ) : Running σ (Except HarnessError Unit) := do
  transition .runningClient
  let targets := " and ".intercalate p.config.endpoints
  print s!"🚀 Running client against {targets}..."
  launchClient p

/-- The run up to its teardown. -/
def drive (p : Plan σ) : Running σ (Except HarnessError Unit) := do
  transition .preflightCleanup
  match ← task (Preconditions.check p.config) with
  | .error e => return .error e
  | .ok version =>
    task (Task.emit (.runnerFound version))
    match ← task (preflight p) with
    | .error e => return .error e
    | .ok () =>
      match ← startServices p Role.startOrder with
      | .error e => return .error e
      | .ok () => runClient p

def setInterruptible (allowed : Bool) : Running σ Unit :=
  task (modify ({ · with interruptible := allowed }))

def isCancelled : Running σ Bool := task do
  Task.listen
  return (← get).cancelled

/-- What becomes of a way forward that has been halted: an interruption is an outcome of it. -/
def afterHalt : Halt → Running σ (Except HarnessError Unit)
  | .interrupted => return .error .interrupted
  | e => throw e

/-- Drives the run, unless and until shutdown is requested. -/
def driveUntilShutdown (p : Plan σ) : Running σ (Except HarnessError Unit) := do
  if ← isCancelled then return .error .interrupted
  setInterruptible true
  let outcome ← tryCatch (drive p) afterHalt
  setInterruptible false
  return outcome

/-! ### Teardown -/

/-- Ends the client and lets go of it. -/
def stopClient (timeouts : StopTimeouts) (pid : Pid) : Task σ Unit := do
  match ← Task.shutdown pid timeouts with
  | .ok (some status) =>
    Task.emit (.clientStopped status)
    return
  | .ok none => Task.emit (.clientLingers pid)
  | .error _ => Task.emit .clientStopFailed
  Task.release pid

/-- Ends the client, if one has been launched. -/
def endClient (timeouts : StopTimeouts) : Running σ Unit := do
  match (← get).client with
  | none => pure ()
  | some pid =>
    modify ({ · with client := none })
    task (stopClient timeouts pid)

/-- Stops the services, and says which of them are left and what the sweep has killed. -/
def stopServices (v : Supervision σ) : Running σ Unit := do
  let summary ← (Supervising.teardownAll v : Supervising σ _)
  for role in summary.lingering do
    print s!"⚠️  {role.name} did not exit; left to the port sweep"
  if summary.reclaim.anyKilled then
    task (Task.emit (.leftoversKilled summary.reclaim.killed.length))

/-- Stops everything that runs, at most once in a run. -/
def teardown (p : Plan σ) : Running σ Unit := do
  if (← get).tornDown then
    task (Task.emit .alreadyTornDown)
    return
  modify ({ · with tornDown := true })
  transition .tearingDown
  print "🧹 Stopping services..."
  endClient p.config.teardown
  stopServices p.supervision

/-! ### The whole run -/

/-- The outcome after the teardown: a request for shutdown fails a run that was good so far. -/
def finalOutcome (outcome : Except HarnessError Unit) : Running σ (Except HarnessError Unit) := do
  match outcome with
  | .error e => return .error e
  | .ok () =>
    if ← isCancelled then
      print s!"❌ {HarnessError.interrupted.message}"
      return .error .interrupted
    return .ok ()

/-- Ends the run with a verdict. -/
def conclude (outcome : Except HarnessError Unit) : Running σ Unit := do
  match outcome with
  | .ok () =>
    transition (.done .success)
    print "✅ Run completed successfully"
  | .error _ =>
    transition (.done .failure)
    print "❌ Run failed"

/-- The text of a failure, if the outcome is one. -/
def failureText : Except HarnessError Unit → Option String
  | .ok () => none
  | .error e => some e.message

/-- Says why the way forward has failed, if it has. -/
def sayFailure : Except HarnessError Unit → Running σ Unit
  | .ok () => return
  | .error e => print s!"❌ {e.message}"

/-- Whether the way forward has been interrupted. -/
def isInterruption : Except HarnessError Unit → Bool
  | .error .interrupted => true
  | _ => false

/-- Tears the run down, unless it has failed before anything could be launched. -/
def cleanUp (p : Plan σ) (outcome : Except HarnessError Unit) : Running σ Unit := do
  let launched := (← get).state ≠ .preflightCleanup
  if launched || isInterruption outcome then teardown p

/-- Ends the run and reports on it. -/
def report (startedAt : Timestamp) (outcome : Except HarnessError Unit) :
    Running σ RunReport := do
  let outcome ← finalOutcome outcome
  conclude outcome
  let s ← get
  let finishedAt ← task (Task.ask Host.wallClock)
  (Supervising.abandon Role.startOrder : Supervising σ _)
  return ⟨s.state, failureText outcome, .ofNat s.supervisor.passes, startedAt, finishedAt⟩

/-- A run from its beginning to its report. -/
def run (p : Plan σ) : Running σ RunReport := do
  let startedAt ← task (Task.ask Host.wallClock)
  let outcome ← driveUntilShutdown p
  sayFailure outcome
  cleanUp p outcome
  report startedAt outcome

end Running

end LatencyHarness
