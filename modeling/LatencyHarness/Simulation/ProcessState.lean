import LatencyHarness.Host
import LatencyHarness.Simulation.Program

/-! The processes of a simulated machine, dead or alive. -/
namespace LatencyHarness.Simulation

open Text.Utf8 (Bytes)

/-- What follows the unread bytes of a stream. -/
inductive PipeEnd where
  | openEnd
  | ended
  | failed
  deriving DecidableEq, Repr

/-- One output stream of a process. -/
structure Pipe where
  unread : Bytes
  tail : PipeEnd
  deriving DecidableEq, Repr

namespace Pipe

def empty : Pipe := ⟨[], .openEnd⟩

/-- What a look at the stream brings, and what it leaves. -/
def look (p : Pipe) : Arrival × Pipe :=
  let feed := Text.LineBreak.byte.feed
  match p.unread.dropWhile (· ≠ feed) with
  | _ :: rest => (⟨p.unread.takeWhile (· ≠ feed) ++ [feed], .lineFeed⟩, { p with unread := rest })
  | [] =>
    let stop := match p.tail with
      | .openEnd => Stop.pending
      | .ended => .ended
      | .failed => .failed
    (⟨p.unread, stop⟩, { p with unread := [] })

end Pipe

structure ProcessState where
  pid : Pid
  group : Pid
  /-- the program and its arguments, as the process table shows them -/
  arguments : List String
  term : TermResponse
  /-- when and how it ends or has ended, as far as that is settled -/
  finish : Option (Instant × WaitStatus)
  /-- the code it exits with when it is released -/
  releaseCode : Option Int
  /-- the process that has to be dead before the parent learns of the end -/
  holder : Option Pid
  /-- whether the streams end with the process -/
  ownsPipes : Bool
  out : Pipe
  err : Pipe
  deriving Repr

namespace ProcessState

def isAlive (p : ProcessState) (now : Instant) : Bool :=
  match p.finish with
  | some (t, _) => now < t
  | none => true

/-- The process dying at `now`, if it has not before. -/
def die (p : ProcessState) (now : Instant) (status : WaitStatus) : ProcessState :=
  if p.isAlive now then { p with finish := some (now, status) } else p

def pipe (p : ProcessState) : Stream → Pipe
  | .out => p.out
  | .err => p.err

def setPipe (p : ProcessState) (s : Stream) (q : Pipe) : ProcessState :=
  match s with
  | .out => { p with out := q }
  | .err => { p with err := q }

/-- A stream as it is at `now`. -/
def pipeAt (p : ProcessState) (now : Instant) (s : Stream) : Pipe :=
  let q := p.pipe s
  if p.ownsPipes && !p.isAlive now && q.tail = .openEnd then { q with tail := .ended } else q

end ProcessState

/-- What the process table shows of an argument: the text without ASCII blanks around it. -/
def shownArgument (s : String) : String :=
  let blank := fun (c : Char) => c = ' ' || ('\t' ≤ c && c ≤ '\r' && c ≠ '\x0b')
  String.ofList ((s.toList.dropWhile blank).reverse.dropWhile blank).reverse

/-- The arguments that the process table shows: those that are not blank. -/
def shownArguments (args : List String) : List String :=
  (args.map shownArgument).filter (! ·.isEmpty)

end LatencyHarness.Simulation
