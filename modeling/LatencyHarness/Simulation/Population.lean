import LatencyHarness.Reclaim

/-! A population of processes: a host on which nothing happens but that signals end processes.

Nobody is born here and nothing is waited for. One of the processes is out of reach. -/
namespace LatencyHarness.Simulation

structure Population where
  living : List ProcessEntry
  deriving DecidableEq, Repr

namespace Population

/-- The process of the harness itself. -/
def home : Pid := 2

/-- A process of someone else, which may not be signalled. -/
def foreign : Pid := 104

def isAlive (p : Population) (pid : Pid) : Bool := p.living.any (·.pid == pid)

/-- Ends a process, if it is there and may be signalled. -/
def strike (pid : Pid) (p : Population) : Except SystemError Unit × Population :=
  if !p.isAlive pid then (.error (.errno 3), p)
  else if pid = foreign then (.error (.errno 1), p)
  else (.ok (), ⟨p.living.filter (·.pid != pid)⟩)

instance : Host Population where
  patience _ := 20
  selfPid _ := home
  ownGroup _ := home
  now _ := 0
  wallClock _ := ⟨⟨2024, 5, 1⟩, 0, 0⟩
  isFile _ _ := true
  bindable _ _ := true
  hasProcess n p := p.living.any (·.pid.toNat == n)
  processes p := p.living
  observe _ p := p
  await _ _ _ p := p
  news? p := (none, p)
  spawn _ _ p := (.error (.errno 11), p)
  spawn_le hspawn := by cases hspawn
  exitStatus? _ _ := .ok none
  signal _ r p :=
    match r with
    | .process pid => p.strike pid
    | .group _ => (.error (.errno 3), p)
  firstStream p := (.out, p)
  look _ _ p := (⟨[], .ended⟩, p)
  capture _ _ p := (some (.error .notFound), p)

/-- A probe that finds those of some processes that are alive. -/
def finder (name : String) (pids : List Pid) : Probe Population where
  name := name
  discover _ := do
    let found ← Task.ask fun p => pids.filter p.isAlive
    return .ok (found.map fun pid => ⟨pid, name⟩)

/-- A probe that cannot run. -/
def broken (name : String) : Probe Population where
  name := name
  discover _ := return .error .notFound

end Population

end LatencyHarness.Simulation
