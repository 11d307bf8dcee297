import LatencyHarness.Output.Reading
import LatencyHarness.Readiness.Outcome
import LatencyHarness.Text.Search

/-! Waiting until a service is ready: until a line of its output holds the marker.

Each round takes note of the clock, the process and the output, in this order, and
`Observation.verdict` says whether that decides the outcome. -/
namespace LatencyHarness

open Text.Utf8 (Bytes)

/-- How long one attempt to read may take. -/
def readWindow : Millis := 20

/-- What to wait for, and how. -/
structure Watch where
  /-- in front of each echoed line -/
  label : String
  marker : String
  timeout : Millis
  /-- the pause after a round that brought no usable line -/
  pollInterval : Millis
  deriving DecidableEq, Repr

/-- What a round finds out: whether the deadline has come, else how the process ended if it has,
else the line that was read. -/
inductive Observation where
  | late
  | dead (status : WaitStatus)
  | read (bytes : Option Bytes)
  deriving DecidableEq, Repr

/-- The outcome that an observation decides, if it decides any. -/
def Observation.verdict (marker : List Char) : Observation → Option ReadinessOutcome
  | late => some .timedOut
  | dead status => some (.processExited status)
  | read none => none
  | read (some bytes) =>
    match Text.Utf8.decode bytes with
    | .ok line => if Text.occursIn marker line then some .ready else none
    | .error _ => none

namespace Watch

variable {σ : Type} [Host σ]

/-- The seconds of the monotonic clock are a signed 64-bit number. -/
def clockLimit : Instant := (Text.maxI64 + 1) * 1000

/-- The instant at which the wait times out. -/
def deadline (w : Watch) : Task σ Instant := do
  let d := (← Task.ask Host.now) + w.timeout
  if d < clockLimit then return d
  else throw (.crashed "overflow when adding duration to instant")

/-- Takes note of the output. -/
def readLine (pid : Pid) (wait : Millis) (r : LineReader) : Task σ (LineReader × Observation) := do
  let (r, bytes) ← Reading.line pid wait r
  return (r, .read bytes)

/-- Finds out what a round has to go by. -/
def observe (pid : Pid) (deadline : Instant) (r : LineReader) :
    Task σ (LineReader × Observation) := do
  let now ← Task.ask Host.now
  if deadline ≤ now then return (r, .late)
  match ← Task.ask (Host.exitStatus? pid) with
  | .ok (some status) => return (r, .dead status)
  | .ok none => pure ()
  | .error _ => Task.emit .statusUnknown
  readLine pid (min readWindow (deadline - now)) r

/-- Echoes the line of a round, without blanks at its end. -/
def echo (w : Watch) : Observation → Task σ Unit
  | .read (some bytes) =>
    match Text.Utf8.decode bytes with
    | .ok line => Task.print (Task.echoText w.label (Text.trimEnd line))
    | .error _ => Task.emit .undecodableLine
  | _ => return ()

/-- Whether a round is followed by a pause: a line that could be read is not. -/
def pauses : Observation → Bool
  | .read (some bytes) => !(Text.Utf8.decode bytes).isOk
  | _ => true

/-- Goes through up to `fuel` rounds, until one decides. -/
def rounds (w : Watch) (pid : Pid) (deadline : Instant) :
    Nat → LineReader → Task σ (LineReader × ReadinessOutcome)
  | 0, _ => throw .exhausted
  | fuel + 1, r => do
    let (r, o) ← observe pid deadline r
    w.echo o
    match o.verdict w.marker.toList with
    | some outcome => return (r, outcome)
    | none =>
      if pauses o then
        Task.sleep (min w.pollInterval (deadline - (← Task.ask Host.now)))
      rounds w pid deadline fuel r

/-- Waits for the outcome. The reader stays where the outcome was decided. -/
def run (w : Watch) (pid : Pid) (r : LineReader) : Task σ (LineReader × ReadinessOutcome) := do
  let d ← w.deadline
  w.rounds pid d (← Task.ask Host.patience) r

end Watch

end LatencyHarness
