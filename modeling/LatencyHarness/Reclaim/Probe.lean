import LatencyHarness.Reclaim.SocketTable
import LatencyHarness.Session

/-! The ways of finding processes that are in the way: by the ports they hold, by their command
lines, and by the pidfiles that name them.

A probe that cannot run says so; what it has found is then lost, and only that. -/
namespace LatencyHarness

open Text.Utf8 (Bytes decodeLossy)

/-- What a reclamation looks for. -/
structure Request where
  ports : List Port
  patterns : List Pattern

/-- A way of finding processes to kill. -/
structure Probe (σ : Type) where
  name : String
  discover : Request → Task σ (Except SystemError (List Target))

/-- No tool may take longer. -/
def toolLimit : Millis := 5000

variable {σ : Type} [Host σ]

/-- Runs a tool for its output. Its exit status does not matter. -/
def runTool (program : String) (args : List String) :
    Task σ (Except SystemError Captured) := do
  match ← Task.capture ⟨program, args⟩ toolLimit with
  | some r => return r
  | none => return .error (.custom .timedOut s!"{program} did not finish within 5s")

/-! ### By port -/

/-- The processes that hold a port, as the listing tool `program` prints them. -/
def portOwners (program : String) (port : Port) : Task σ (Except SystemError (List Pid)) := do
  let r ← runTool program ["-ti", s!":{port.toNat}"]
  return r.map fun c => SocketTable.ofLines (decodeLossy c.out)

namespace Probe

/-- Notes the holders of a port and makes targets of them. -/
def report (tool : String) (port : Port) (owners : List Pid) : Task σ (List Target) :=
  owners.mapM fun pid => do
    Task.emit (.listenerFound tool port pid)
    return ⟨pid, s!"holds port {port.toNat} ({tool})"⟩

/-- Asks for one port after the other. The first question that fails ends it. -/
def lsofTargets (program : String) : List Port → Task σ (Except SystemError (List Target))
  | [] => return .ok []
  | port :: ports => do
    match ← portOwners program port with
    | .error e => return .error e
    | .ok owners =>
      let found ← report "lsof" port owners
      let rest ← lsofTargets program ports
      return rest.map (found ++ ·)

def lsof (program : String) : Probe σ where
  name := "lsof"
  discover q := lsofTargets program q.ports

/-- Asks once for the table of all listening sockets. -/
def netstat (program : String) : Probe σ where
  name := "netstat"
  discover q := do
    match ← runTool program ["-tulpn"] with
    | .error e => return .error e
    | .ok c =>
      let table := decodeLossy c.out
      let found ← q.ports.mapM fun port => report "netstat" port (SocketTable.owners port table)
      return .ok found.flatten

/-! ### By command line -/

/-- The target that a process is, if it is another process, has a command line and that matches
one of the patterns. -/
def patternTarget? (self : Pid) (patterns : List Pattern) (p : ProcessEntry) : Option Target :=
  if p.isThread || p.pid == self || p.commandLine.isEmpty then none
  else (patterns.find? (·.isMatch p.commandLine)).map fun m => ⟨p.pid, s!"matches /{m.text}/"⟩

/-- The matching processes in the order of their ids. -/
def patternTargets (self : Pid) (patterns : List Pattern) (table : List ProcessEntry) :
    List Target :=
  (table.filterMap (patternTarget? self patterns)).mergeSort fun a b => a.pid ≤ b.pid

def pattern : Probe σ where
  name := "process-pattern"
  discover q := do
    let self ← Task.ask Host.selfPid
    return .ok (patternTargets self q.patterns (← Task.ask Host.processes))

/-! ### By pidfile -/

/-- Whether the process is there at all. -/
def isAlive (pid : Pid) : Task σ Bool := do
  match osPid? pid with
  | none => return false
  | some n => Task.ask (Host.hasProcess n)

/-- The command line of a process, if it is in the process table. -/
def commandLine? (pid : Pid) : Task σ (Option String) := do
  let table ← Task.ask Host.processes
  return (table.find? (·.pid == pid)).map (·.commandLine)

/-- Whether a command line is that of the recorded process: it holds the recorded command or
matches a pattern. -/
def recognises (recorded : String) (patterns : List Pattern) (commandLine : String) : Bool :=
  let command := Text.trim recorded.toList
  (!command.isEmpty && Text.occursIn command commandLine.toList) ||
    Pattern.anyMatch patterns commandLine

/-- Whether a process still looks like the recorded one. -/
def isOurs (pid : Pid) (recorded : String) (patterns : List Pattern) : Task σ Bool := do
  return (← commandLine? pid).any (recognises recorded patterns)

/-- Removes the pidfile of a process that is not there any more. -/
def dropRecord (role : Role) : Task σ Unit := do
  match ← Task.inFolder (Pidfile.delete role) with
  | .ok () => return
  | .error _ => Task.emit (.recordRemains role)

/-- The target that a recorded process is, if it is alive and still ours. If not, its pidfile is
removed. -/
def recordTarget? (patterns : List Pattern) (role : Role) (r : PidRecord) :
    Task σ (Option Target) := do
  if !(← isAlive r.pid) then
    Task.emit (.recordStale role)
    dropRecord role
    return none
  if !(← isOurs r.pid r.command patterns) then
    Task.emit (.recordRecycled role)
    dropRecord role
    return none
  return some ⟨r.pid, s!"recorded {role.name} (port {r.port.toNat})"⟩

def pidfile : Probe σ where
  name := "pidfile"
  discover q := do
    match ← Task.inFolder Pidfile.list with
    | .error e => return .error e
    | .ok records =>
      return .ok (← records.filterMapM fun (role, r) => recordTarget? q.patterns role r)

end Probe

end LatencyHarness
