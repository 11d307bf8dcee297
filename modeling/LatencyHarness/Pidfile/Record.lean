import LatencyHarness.Ids
import LatencyHarness.SystemError
import LatencyHarness.Text.Blank
import LatencyHarness.Text.Lines
import LatencyHarness.Text.Numeral

/-! What a pidfile says: the process id, the port and the launch command, a line each. -/
namespace LatencyHarness

open Text

structure PidRecord where
  pid : Pid
  port : Port
  /-- by which the process is recognised later -/
  command : String
  deriving DecidableEq, Repr

namespace PidRecord

/-- The first line that does not say what it has to. -/
inductive Fault where
  | pid
  | port
  deriving DecidableEq, Repr

def Fault.message : Fault → String
  | pid => "missing or invalid PID"
  | port => "missing or invalid port"

def render (r : PidRecord) : List Char :=
  numeral r.pid.toNat ++ '\n' :: numeral r.port.toNat ++ '\n' :: r.command.toList ++ ['\n']

/-- The number on a line, with blanks around it. -/
def numberLine? (limit : Nat) (line : Option (List Char)) : Option Nat :=
  line.bind fun l => nat? limit (trim l)

/-- Reads the first three lines; the command may be missing. -/
def parse (text : List Char) : Except Fault PidRecord :=
  let ls := lines text
  match numberLine? maxU32 ls[0]?, numberLine? maxU16 ls[1]? with
  | none, _ => .error .pid
  | some _, none => .error .port
  | some pid, some port =>
    .ok ⟨.ofNat pid, .ofNat port, String.ofList (trim (ls[2]?.getD []))⟩

end PidRecord

end LatencyHarness
