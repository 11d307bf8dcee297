import LatencyHarness.Failure
import LatencyHarness.RunState

/-! What a run shows of itself: the lines on the console, the log, and the steps that reach other
processes. Each is one event with what it is about; the wording is in one place. -/
namespace LatencyHarness

inductive Level where
  | debug
  | info
  | warn
  deriving DecidableEq, Repr

def Level.name : Level → String
  | debug => "DEBUG"
  | info => "INFO"
  | warn => "WARN"

/-- The signals that the harness sends. -/
inductive Signal where
  | term
  | kill
  deriving DecidableEq, Repr

namespace Signal

def number : Signal → Nat
  | term => 15
  | kill => 9

end Signal

/-- Whom a signal is for: one process, or the group that a process leads. -/
inductive Recipient where
  | process (pid : Pid)
  | group (leader : Pid)
  deriving DecidableEq, Repr

/-- A process to be killed, with the reason. -/
structure Target where
  pid : Pid
  reason : String
  deriving DecidableEq, Repr

/-- One thing that a run does or finds out. -/
inductive Event where
  | line (text : String)
  /-- the preconditions hold -/
  | runnerFound (version : String)
  /-- the managed ports have been seen to be free -/
  | portsFree
  | sent (signal : Signal) (recipient : Recipient)
  | asked (ports : List Port) (patterns : List String)
  | stateChanged (before after : RunState)
  | launched (role : Role) (pid : Pid)
  | ready (role : Role) (pid : Pid)
  | exitedEarly (role : Role) (status : WaitStatus)
  | readinessTimedOut (role : Role)
  /-- a teardown of the services begins -/
  | teardownBegun
  | alreadyTornDown
  /-- a process had ended before its turn to be stopped came: it gets no signal -/
  | foundEnded (pid : Pid)
  | undecodableLine
  | statusUnknown
  | stopped (role : Role) (status : WaitStatus)
  | stopFailed (role : Role)
  | survived (role : Role)
  | reaped (role : Role) (status : WaitStatus)
  | clientStarting
  | clientLaunched (pid : Pid)
  | clientExited (status : WaitStatus)
  | clientStopped (status : WaitStatus)
  | clientLingers (pid : Pid)
  | clientStopFailed
  | groupUnreachable
  | signalFailed (signal : Signal)
  | graceElapsed (pid : Pid)
  | shutdownRequested
  | probeUnavailable (probe : String)
  | listenerFound (tool : String) (port : Port) (pid : Pid)
  | killed (probe : String) (target : Target)
  | alreadyGone (pid : Pid)
  | killFailed (pid : Pid)
  | settling (killed : Nat)
  | escalating (ports : List Port)
  | recordStale (role : Role)
  | recordRecycled (role : Role)
  | recordRemains (role : Role)
  | portHeld (port : Port)
  | tryingBind (port : Port)
  | ownerUnknown (port : Port)
  | portStillHeld (port : Port) (owner : Option Pid)
  | leftoversKilled (count : Nat)
  deriving DecidableEq, Repr

namespace Event

/-- The console line of an event, if it is one. -/
def console? : Event → Option String
  | line t => some t
  | runnerFound v => some s!"✅ Found {v}"
  | portsFree => some "✅ Ports are free"
  | _ => none

/-- The level and the words with which an event is logged, if it is. -/
def logged? : Event → Option (Level × String)
  | line _ | runnerFound _ | portsFree => none
  | sent _ _ | asked _ _ | clientLaunched _ | teardownBegun | foundEnded _ => none
  | stateChanged a b => some (.info, s!"Run state changed: {a.message} -> {b.message}")
  | launched _ _ => some (.info, "Dependency launched")
  | ready _ _ => some (.info, "Dependency ready")
  | exitedEarly _ _ => some (.warn, "Dependency exited before becoming ready")
  | readinessTimedOut _ => some (.warn, "Dependency readiness timed out")
  | alreadyTornDown => some (.debug, "Teardown already ran, skipping")
  | undecodableLine => some (.warn, "error decoding output line")
  | statusUnknown => some (.warn, "failed to poll process status")
  | stopped _ _ => some (.info, "Dependency stopped")
  | stopFailed _ => some (.warn, "Failed to stop dependency")
  | survived _ => some (.warn, "Dependency survived SIGKILL, leaving it to the sweep")
  | reaped _ _ => some (.debug, "Lingering dependency reaped after reclamation")
  | clientStarting => some (.info, "Starting client")
  | clientExited _ => some (.debug, "Client exited")
  | clientStopped _ => some (.debug, "Client stopped")
  | clientLingers _ => some (.warn, "Client did not exit; left to the port sweep")
  | clientStopFailed => some (.warn, "Failed to stop client")
  | groupUnreachable => some (.debug, "group signal failed, signalling pid")
  | signalFailed .term => some (.debug, "SIGTERM failed")
  | signalFailed .kill => some (.debug, "SIGKILL failed")
  | graceElapsed _ => some (.debug, "graceful timeout elapsed, escalating to SIGKILL")
  | shutdownRequested => some (.info, "Shutdown signal received")
  | probeUnavailable _ => some (.debug, "Probe unavailable, skipping")
  | listenerFound tool _ _ => some (.debug, s!"{tool} reports listener")
  | killed _ _ => some (.info, "Killed process")
  | alreadyGone _ => some (.debug, "Process already gone")
  | killFailed _ => some (.warn, "Failed to kill process")
  | settling _ => some (.info, "Reclamation killed processes, letting sockets settle")
  | escalating _ => some (.warn, "Ports still busy, escalating reclamation")
  | recordStale _ => some (.debug, "Removing stale PID file (process gone)")
  | recordRecycled _ => some (.debug, "PID reused by another process, removing PID file")
  | recordRemains _ => some (.warn, "Failed to remove stale PID file")
  | portHeld _ => some (.debug, "Port is held")
  | tryingBind _ => some (.debug, "Socket table unavailable, trying a bind")
  | ownerUnknown _ => some (.debug, "Socket table unavailable")
  | portStillHeld _ _ => some (.warn, "Port still held after escalation")
  | leftoversKilled _ => some (.info, "Teardown sweep killed leftover processes")

/-- The log line of an event, if it is logged at one of the levels. -/
def logLine? (levels : List Level) (e : Event) : Option String :=
  match e.logged? with
  | some (level, text) => if level ∈ levels then some s!"{level.name} {text}" else none
  | none => none

end Event

/-- The events of a run, the newest first. -/
abbrev Journal := List Event

namespace Journal

def console (j : Journal) : List String := j.reverse.filterMap Event.console?

def log (levels : List Level) (j : Journal) : List String :=
  j.reverse.filterMap (Event.logLine? levels)

/-- What the probes that take note of it have been asked: the ports and the patterns. -/
def questions (j : Journal) : List (List Port × List String) :=
  j.reverse.filterMap fun
    | .asked ports patterns => some (ports, patterns)
    | _ => none

/-- The events that have come since the journal was `old`. -/
def since (j old : Journal) : Journal := j.take (j.length - old.length)

end Journal

end LatencyHarness
