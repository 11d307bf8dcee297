import LatencyHarness.Output.LineReader
import LatencyHarness.WaitStatus

/-! What the programs of a simulated machine do when they are run. -/
namespace LatencyHarness.Simulation

open Text.Utf8 (Bytes)

/-- A write of a program. -/
inductive Write where
  | bytes (stream : Stream) (content : Bytes)
  /-- each argument on a line of the standard output -/
  | arguments
  deriving DecidableEq, Repr

/-- What the termination signal does to a process. -/
inductive TermResponse where
  | dies
  | ignores
  | exits (code : Int)
  deriving DecidableEq, Repr

/-- How a program ends by itself once everything is written. -/
inductive Ending where
  | exit (code : Int)
  | signal (number : Nat)
  /-- it goes on for half a minute -/
  | lasting
  /-- it goes on until it is released -/
  | onRelease (code : Int)
  deriving DecidableEq, Repr

/-- What a program does. -/
structure Behaviour where
  writes : List Write
  term : TermResponse
  /-- it starts a process in its own group -/
  grandchild : Bool
  /-- it starts a process in a group of that process's own -/
  escapee : Bool
  /-- its parent does not learn of its end as long as a helper process lives -/
  unreapable : Bool
  ending : Ending
  deriving DecidableEq, Repr

/-- A tool that answers questions. -/
inductive Tool where
  | hangs
  /-- the texts for each last argument: the first for the first question with it, and so on; the
  last is repeated -/
  | answers (texts : List (String × List Bytes))
  | prints (text : Bytes)
  deriving DecidableEq, Repr

/-- What is found under the name of a program. -/
inductive Program where
  | notExecutable
  | behaves (b : Behaviour)
  | tool (t : Tool)
  deriving DecidableEq, Repr

namespace Behaviour

def encodeLine (s : String) : Bytes := Text.Utf8.encode (s.toList ++ ['\n'])

/-- What a write puts on a stream. -/
def written (args : List String) (s : Stream) : Write → Bytes
  | .bytes t content => if t = s then content else []
  | .arguments => if s = .out then args.flatMap encodeLine else []

/-- All that is written on a stream. -/
def output (b : Behaviour) (args : List String) (s : Stream) : Bytes :=
  b.writes.flatMap (written args s)

end Behaviour

end LatencyHarness.Simulation
