import LatencyHarness.Output.Reading
import LatencyHarness.Shutdown

/-! The client: run once in the foreground, with its output shown. -/
namespace LatencyHarness.Client

variable {σ : Type} [Host σ]

/-- Starts the client. -/
def spawn (workingDir : Path) (launch : Launch) : Task σ (Except HarnessError Pid) := do
  Task.emit .clientStarting
  match ← Task.perform (Host.spawn workingDir launch) with
  | .error e =>
    return .error (.clientFailure s!"failed to launch '{launch.display}': {e.message}")
  | .ok pid =>
    Task.emit (.clientLaunched pid)
    return .ok pid

/-- Shows up to `fuel` lines of the client's output, until it closes. -/
def stream (pid : Pid) : Nat → LineReader → Task σ Unit
  | 0, _ => throw .exhausted
  | fuel + 1, r => do
    let (r, bytes) ← Reading.lineUntilClosed pid r
    match bytes with
    | none => return
    | some b =>
      Task.print (Task.echoText "Client" (Text.Utf8.decodeLossy b))
      stream pid fuel r

/-- Whether the client's end is a success. -/
def verdict (status : WaitStatus) : Except HarnessError Unit :=
  if status.isSuccess then .ok ()
  else .error (.clientFailure s!"client exited with {status.message}")

/-- Shows the client's output until it closes, then judges how the client ended. -/
def wait (pid : Pid) : Task σ (Except HarnessError Unit) := do
  stream pid (← Task.ask Host.patience) (.ofStreams true true)
  match ← Task.waitExit pid none with
  | .ok (some status) =>
    Task.emit (.clientExited status)
    return verdict status
  | .ok none => throw .exhausted
  | .error e => return .error (.clientFailure s!"failed to wait for client: {e.message}")

end LatencyHarness.Client
