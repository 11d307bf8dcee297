import LatencyHarness.Config
import LatencyHarness.Journal
import LatencyHarness.Output.LineReader
import LatencyHarness.Timestamp

/-! The machine that a run works on, as far as a run can see it.

A host is any state with these operations. Of what they answer nothing is assumed but that a child
has an id of the operating system, so what is shown of a run holds whatever the services, the client
and the other processes do. -/
namespace LatencyHarness

open Text.Utf8 (Bytes)

/-- What a program that was run to its end has left. -/
structure Captured where
  status : WaitStatus
  out : Bytes
  err : Bytes
  deriving Repr

/-- A row of the process table. -/
structure ProcessEntry where
  pid : Pid
  isThread : Bool
  arguments : List String
  deriving DecidableEq, Repr

/-- The command line as one text. -/
def ProcessEntry.commandLine (p : ProcessEntry) : String := " ".intercalate p.arguments

/-- What a wait is for. -/
inductive Wait where
  | nothing
  | exit (pid : Pid)
  | output (pid : Pid)
  deriving DecidableEq, Repr

/-- News from outside that concern the run as a whole. -/
inductive News where
  /-- the run's shutdown token has been cancelled -/
  | cancelled
  /-- the harness has got an interrupt or termination signal -/
  | signalled
  deriving DecidableEq, Repr

class Host (σ : Type) where
  /-- The number of waits that no loop of a run needs to exceed here. -/
  patience : σ → Nat
  selfPid : σ → Pid
  /-- The process group the harness is in. -/
  ownGroup : σ → Pid
  /-- The monotonic clock. -/
  now : σ → Instant
  wallClock : σ → Timestamp
  isFile : Path → σ → Bool
  bindable : Port → σ → Bool
  /-- Whether a null signal reaches the process. -/
  hasProcess : Nat → σ → Bool
  processes : σ → List ProcessEntry
  /-- Is told every event of the run. -/
  observe : Event → σ → σ
  /-- Lets time pass until what is waited for has happened, the limit is reached or, if the wait
  may be cut short, there are news. -/
  await : Wait → Option Instant → Bool → σ → σ
  news? : σ → Option News × σ
  /-- Starts a program as a child in the directory, at the head of its own process group. -/
  spawn : Path → Launch → σ → Except SystemError Pid × σ
  /-- The id of a child is one that the operating system can be asked about. -/
  spawn_le : ∀ {dir launch h pid}, (spawn dir launch h).1 = .ok pid → pid.toNat ≤ maxOsPid
  /-- The status of a child, if it is known to have ended. -/
  exitStatus? : Pid → σ → Except SystemError (Option WaitStatus)
  signal : Signal → Recipient → σ → Except SystemError Unit × σ
  /-- Which of two streams to look at first. -/
  firstStream : σ → Stream × σ
  look : Pid → Stream → σ → Arrival × σ
  /-- Runs a program to its end, or until the limit has passed. -/
  capture : Launch → Option Millis → σ → Option (Except SystemError Captured) × σ

end LatencyHarness
