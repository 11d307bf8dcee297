import LatencyHarness.Supervisor

/-! A host with one child that another process holds.

While its holder is alive the child stays where no signal reaches it, as one does that waits for a
device: a kill signal is kept for it until then. A wait with a limit takes as long as it may. -/
namespace LatencyHarness.Simulation

structure Captive where
  clock : Instant
  isLaunched : Bool
  /-- whether a kill signal has been sent to the child -/
  isDoomed : Bool
  /-- whether the process that holds the child is alive -/
  isHeld : Bool
  deriving DecidableEq, Repr

namespace Captive

/-- The process group that the harness is in. -/
def home : Pid := 2

def child : Pid := 7

def holder : Pid := 9

/-- The host before the child is launched. -/
def blank : Captive := ⟨0, false, false, true⟩

def status? (pid : Pid) (c : Captive) : Option WaitStatus :=
  if pid = child ∧ c.isDoomed ∧ ¬ c.isHeld then some (.ofSignal Signal.kill.number) else none

/-- What a kill signal does. The termination signal does nothing here. -/
def strike (r : Recipient) (c : Captive) : Captive :=
  if r = .process holder then { c with isHeld := false }
  else if r = .process child ∨ r = .group child then { c with isDoomed := true }
  else c

instance : Host Captive where
  patience _ := 20
  selfPid _ := home
  ownGroup _ := home
  now c := c.clock
  wallClock _ := ⟨⟨2024, 5, 1⟩, 0, 0⟩
  isFile _ _ := true
  bindable _ _ := true
  hasProcess _ _ := true
  processes c := if c.isHeld then [⟨holder, false, ["bin/holder"]⟩] else []
  observe _ c := c
  await _ limit _ c := { c with clock := max c.clock (limit.getD c.clock) }
  news? c := (none, c)
  spawn _ _ c :=
    if c.isLaunched then (.error (.errno 11), c) else (.ok child, { c with isLaunched := true })
  spawn_le hspawn := by
    split at hspawn
    · cases hspawn
    · cases hspawn
      decide
  exitStatus? pid c := .ok (c.status? pid)
  signal s r c := (.ok (), if s = .kill then c.strike r else c)
  firstStream c := (.out, c)
  look _ _ c := (⟨[], .pending⟩, c)
  capture _ _ c := (none, c)

/-! ### A teardown on the host -/

def spec : ServiceSpec := ⟨.server2, ⟨"bin/server2", []⟩, "listening", 3004, 50⟩

/-- The pattern of a text without special characters. -/
def literal (text : String) : Pattern :=
  ⟨text, text.toList.foldr (fun c e => .cat (.oneOf (.single c)) e) .empty⟩

def supervision : Supervision Captive :=
  ⟨.ofString "/w", [], [literal "holder"], 20, ⟨40, 60⟩,
    { Reclaimer.standard {} with probes := [.pattern] }⟩

end Captive

end LatencyHarness.Simulation
