import LatencyHarness.Session

/-! A host with one child that holds out.

The child takes no notice of the termination signal, and a kill signal takes some time to end it. A
wait with a limit takes as long as it may. -/
namespace LatencyHarness.Simulation

structure Holdout where
  clock : Instant
  isLaunched : Bool
  /-- when the child ends, if that is settled -/
  deadAt : Option Instant
  deriving DecidableEq, Repr

namespace Holdout

/-- The process group that the harness is in. -/
def home : Pid := 2

def child : Pid := 7

/-- The time that the kill signal takes. -/
def delay : Millis := 40

/-- The host before the child is launched. -/
def blank : Holdout := ⟨0, false, none⟩

def status? (pid : Pid) (h : Holdout) : Option WaitStatus :=
  if pid = child ∧ h.deadAt.any (· ≤ h.clock) then some (.ofSignal Signal.kill.number) else none

/-- Whether the recipient of a signal is the child or its group. -/
def reaches (r : Recipient) : Bool := r == .process child || r == .group child

def hit (signal : Signal) (r : Recipient) (h : Holdout) : Holdout :=
  if signal = .kill ∧ reaches r then { h with deadAt := h.deadAt <|> some (h.clock + delay) } else h

instance : Host Holdout where
  patience _ := 20
  selfPid _ := home
  ownGroup _ := home
  now h := h.clock
  wallClock _ := ⟨⟨2024, 5, 1⟩, 0, 0⟩
  isFile _ _ := true
  bindable _ _ := true
  hasProcess _ _ := false
  processes _ := []
  observe _ h := h
  await _ limit _ h := { h with clock := max h.clock (limit.getD h.clock) }
  news? h := (none, h)
  spawn _ _ h :=
    if h.isLaunched then (.error (.errno 11), h) else (.ok child, { h with isLaunched := true })
  spawn_le hspawn := by
    split at hspawn
    · cases hspawn
    · cases hspawn
      decide
  exitStatus? pid h := .ok (h.status? pid)
  signal s r h := (.ok (), h.hit s r)
  firstStream h := (.out, h)
  look _ _ h := (⟨[], .ended⟩, h)
  capture _ _ h := (none, h)

end Holdout

end LatencyHarness.Simulation
