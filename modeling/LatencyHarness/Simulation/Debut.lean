import LatencyHarness.Simulation.Script
import LatencyHarness.Supervisor

/-! A script whose child can be launched: the host of a start that goes well.

What the child will write, and when, is known beforehand. -/
namespace LatencyHarness.Simulation

structure Debut where
  script : Script
  deriving DecidableEq, Repr

namespace Debut

/-- What the script does is done here. -/
def play {α : Type} (f : Script → α × Script) (d : Debut) : α × Debut :=
  ((f d.script).1, ⟨(f d.script).2⟩)

instance : Host Debut where
  patience d := Host.patience d.script
  selfPid d := Host.selfPid d.script
  ownGroup d := Host.ownGroup d.script
  now d := Host.now d.script
  wallClock d := Host.wallClock d.script
  isFile p d := Host.isFile p d.script
  bindable p d := Host.bindable p d.script
  hasProcess n d := Host.hasProcess n d.script
  processes d := Host.processes d.script
  observe e d := ⟨Host.observe e d.script⟩
  await w limit cut d := ⟨Host.await w limit cut d.script⟩
  news? d := play Host.news? d
  spawn _ _ d := (.ok Script.child, d)
  spawn_le hspawn := by
    cases hspawn
    decide
  exitStatus? pid d := Host.exitStatus? pid d.script
  signal s r d := play (Host.signal s r) d
  firstStream d := play Host.firstStream d
  look pid s d := play (Host.look pid s) d
  capture l limit d := play (Host.capture l limit) d

def unread (stream : Stream) (d : Debut) : Text.Utf8.Bytes := d.script.unread stream

end Debut

end LatencyHarness.Simulation
