import LatencyHarness.Session

/-! Ending processes: a child of ours by asking first, any other process by force. -/
namespace LatencyHarness

namespace Task

variable {σ : Type} [Host σ]

/-- Waits until a child has ended, for its status. None if the limit passes first. -/
def waitExit (pid : Pid) (limit : Option Millis) :
    Task σ (Except SystemError (Option WaitStatus)) := do
  match ← ask (Host.exitStatus? pid) with
  | .ok none =>
    let now ← ask Host.now
    await (.exit pid) (limit.map (now + ·))
    ask (Host.exitStatus? pid)
  | r => return r

/-- Signals a process alone. One that is gone needs no signal. -/
def signalProcess (pid : Pid) (signal : Signal) : Task σ Unit := do
  match ← send signal (.process pid) with
  | .ok () => return
  | .error (.errno 3) => return
  | .error _ => emit (.signalFailed signal)

/-- Signals the group that a process leads, or the process alone if the group cannot be reached
or is our own. An id that the operating system cannot be asked about is not signalled. -/
def signalTree (pid : Pid) (signal : Signal) : Task σ Unit := do
  if (osPid? pid).isNone then return ← emit (.signalFailed signal)
  if (← ask Host.ownGroup) ≠ pid then
    match ← send signal (.group pid) with
    | .ok () => return
    | .error _ => emit .groupUnreachable
  signalProcess pid signal

/-- Kills a child and its group, then waits for its end. -/
def endByForce (pid : Pid) (limit : Millis) :
    Task σ (Except SystemError (Option WaitStatus)) := do
  emit (.graceElapsed pid)
  signalTree pid .kill
  let _ ← send .kill (.process pid)
  waitExit pid (some limit)

/-- Ends a child and whatever it has started in its group: the termination signal, a wait, the
kill signal, another wait. None if the child outlives both waits. -/
def shutdown (pid : Pid) (timeouts : StopTimeouts) :
    Task σ (Except SystemError (Option WaitStatus)) := do
  match ← ask (Host.exitStatus? pid) with
  | .error e => return .error e
  | .ok (some status) =>
    emit (.foundEnded pid)
    return .ok (some status)
  | .ok none => pure ()
  signalTree pid .term
  match ← waitExit pid (some timeouts.graceful) with
  | .ok none => endByForce pid timeouts.forceful
  | r => return r

/-- Kills a child whose owner lets go of it, if it has not ended. -/
def release (pid : Pid) : Task σ Unit := do
  match ← ask (Host.exitStatus? pid) with
  | .ok (some _) => return
  | _ => let _ ← send .kill (.process pid)

/-- Whether a process must never be signalled: the kernel's own, the first one, and ourselves. -/
def isProtected (pid : Pid) : Task σ Bool := return pid ≤ 1 || pid == (← ask Host.selfPid)

/-- Kills a process that is not a child of ours. False if it is protected or already gone. -/
def forceKill (pid : Pid) : Task σ (Except SystemError Bool) := do
  if ← isProtected pid then return .ok false
  if (osPid? pid).isNone then return .error (.custom .invalidInput Text.NumeralError.tooLarge.message)
  match ← send .kill (.process pid) with
  | .ok () => return .ok true
  | .error (.errno 3) => return .ok false
  | .error e => return .error (.custom .other e.message)

end Task

end LatencyHarness
