import LatencyHarness.RunState
import LatencyHarness.Timestamp

/-! The summary of a run. -/
namespace LatencyHarness

structure RunReport where
  state : RunState
  failure : Option String
  teardownPasses : UInt32
  startedAt : Timestamp
  finishedAt : Timestamp
  deriving DecidableEq, Repr

namespace RunReport

def succeeded (r : RunReport) : Bool := r.state = .done .success

/-- The exit status of the whole program: 0 for a success, 1 otherwise. -/
def exitCode (r : RunReport) : Nat := if r.succeeded then 0 else 1

end RunReport

end LatencyHarness
