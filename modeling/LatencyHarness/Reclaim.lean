import LatencyHarness.Reclaim.Probe
import LatencyHarness.Shutdown

/-! Freeing ports by killing whoever holds them, and telling whether they are free.

A pass runs every probe in order and kills what it finds. Nothing here fails: a probe that cannot
run and a process that cannot be killed are noted and passed over. -/
namespace LatencyHarness

/-- What a reclamation has killed. -/
structure ReclaimReport where
  anyKilled : Bool
  killed : List Target
  deriving DecidableEq, Repr

namespace ReclaimReport

def empty : ReclaimReport := ⟨false, []⟩

def merge (a b : ReclaimReport) : ReclaimReport := ⟨a.anyKilled || b.anyKilled, a.killed ++ b.killed⟩

end ReclaimReport

/-- A port with the process that holds it, if one is known. -/
structure PortBinding where
  port : Port
  owner : Option Pid
  deriving DecidableEq, Repr

/-- The means of a reclamation. -/
structure Reclaimer (σ : Type) where
  probes : List (Probe σ)
  /-- finds the processes of a sweep by pattern alone -/
  sweeper : Probe σ
  /-- the tool that lists the holders of a port -/
  socketTool : String
  pacing : ReclaimPacing

namespace Reclaimer

variable {σ : Type} [Host σ]

/-- The standard probes: two socket tools, command lines and pidfiles. -/
def standard (pacing : ReclaimPacing) : Reclaimer σ where
  probes := [.lsof "lsof", .netstat "netstat", .pattern, .pidfile]
  sweeper := .pattern
  socketTool := "lsof"
  pacing := pacing

/-- Kills the targets that have not been seen before and are not protected, with a pause after
each kill. -/
def killTargets (pause : Millis) (probe : String) (seen : List Pid) :
    List Target → Task σ ReclaimReport
  | [] => return .empty
  | t :: ts => do
    let known := seen.contains t.pid
    let seen := t.pid :: seen
    if known || (← Task.isProtected t.pid) then return ← killTargets pause probe seen ts
    match ← Task.forceKill t.pid with
    | .ok true =>
      Task.emit (.killed probe t)
      Task.sleep pause
      return .merge ⟨true, [t]⟩ (← killTargets pause probe seen ts)
    | .ok false => Task.emit (.alreadyGone t.pid)
    | .error _ => Task.emit (.killFailed t.pid)
    killTargets pause probe seen ts

/-- Kills what a probe finds. -/
def runProbe (pacing : ReclaimPacing) (p : Probe σ) (q : Request) : Task σ ReclaimReport := do
  match ← p.discover q with
  | .ok targets => killTargets pacing.killPause p.name [] targets
  | .error _ =>
    Task.emit (.probeUnavailable p.name)
    return .empty

def runProbes (pacing : ReclaimPacing) (q : Request) : List (Probe σ) → Task σ ReclaimReport
  | [] => return .empty
  | p :: ps => do
    let a ← runProbe pacing p q
    let b ← runProbes pacing q ps
    return a.merge b

/-- A pass over all probes, and a pause for sockets to settle if anything was killed. -/
def reclaim (r : Reclaimer σ) (ports : List Port) (patterns : List Pattern) :
    Task σ ReclaimReport := do
  let report ← runProbes r.pacing ⟨ports, patterns⟩ r.probes
  if report.anyKilled then
    Task.emit (.settling report.killed.length)
    Task.sleep r.pacing.settleDelay
  return report

/-- Kills what matches the patterns, whichever ports it holds. -/
def sweep (r : Reclaimer σ) (patterns : List Pattern) : Task σ ReclaimReport :=
  runProbe r.pacing r.sweeper ⟨[], patterns⟩

/-- A sweep, a pause and a full pass. -/
def escalate (r : Reclaimer σ) (ports : List Port) (patterns : List Pattern) :
    Task σ ReclaimReport := do
  Task.emit (.escalating ports)
  let a ← r.sweep patterns
  Task.sleep r.pacing.escalationPause
  let b ← r.reclaim ports patterns
  return a.merge b

/-- Whether no process is seen to hold a port. Where the tool cannot tell, an attempt to bind
decides. -/
def isFree (r : Reclaimer σ) (port : Port) : Task σ Bool := do
  match ← portOwners r.socketTool port with
  | .ok [] => return true
  | .ok _ =>
    Task.emit (.portHeld port)
    return false
  | .error _ =>
    Task.emit (.tryingBind port)
    Task.ask (Host.bindable port)

/-- Whether all ports are free; those after the first that is not are not looked at. -/
def areFree (r : Reclaimer σ) : List Port → Task σ Bool
  | [] => return true
  | p :: ps => do
    if ← r.isFree p then r.areFree ps else return false

/-- The holder of each port; none where the tool cannot tell. -/
def bindings (r : Reclaimer σ) (ports : List Port) : Task σ (List PortBinding) :=
  ports.mapM fun port => do
    match ← portOwners r.socketTool port with
    | .ok owners => return ⟨port, owners.head?⟩
    | .error _ =>
      Task.emit (.ownerUnknown port)
      return ⟨port, none⟩

end Reclaimer

end LatencyHarness
