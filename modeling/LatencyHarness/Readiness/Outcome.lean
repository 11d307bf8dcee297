import LatencyHarness.WaitStatus

/-! The three ways a wait for a readiness marker can end. -/
namespace LatencyHarness

inductive ReadinessOutcome where
  | ready
  | timedOut
  | processExited (status : WaitStatus)
  deriving DecidableEq, Repr

def ReadinessOutcome.message : ReadinessOutcome → String
  | ready => "ready"
  | timedOut => "timed out waiting for readiness marker"
  | processExited s => s!"process exited early ({s.message})"

end LatencyHarness
