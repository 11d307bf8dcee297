import LatencyHarness.Role

/-! The phases of a run and the verdict it ends with. -/
namespace LatencyHarness

inductive Verdict where
  | success
  | failure
  deriving DecidableEq, Repr

namespace Verdict

def name : Verdict → String
  | success => "Success"
  | failure => "Failure"

/-- The word for the verdict in a written report. -/
def tag : Verdict → String
  | success => "success"
  | failure => "failure"

def all : List Verdict := [success, failure]

end Verdict

/-- Where a run stands. -/
inductive RunState where
  | preflightCleanup
  | startingDependencyA
  | startingDependencyB
  | runningClient
  | tearingDown
  | done (verdict : Verdict)
  deriving DecidableEq, Repr

namespace RunState

/-- The state while a role is being started. -/
def starting : Role → RunState
  | .server2 => startingDependencyA
  | .server1 => startingDependencyB

def message : RunState → String
  | preflightCleanup => "preflight cleanup"
  | startingDependencyA => "starting dependency A"
  | startingDependencyB => "starting dependency B"
  | runningClient => "running client"
  | tearingDown => "tearing down"
  | done .success => "done (success)"
  | done .failure => "done (failure)"

end RunState

end LatencyHarness
