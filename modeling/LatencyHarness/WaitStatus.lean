/-! How a child process ended, as its parent learns it. -/
namespace LatencyHarness

/-- The names of the signals that have one. -/
def signalNames : List (Nat × String) := [
  (1, "SIGHUP"), (2, "SIGINT"), (3, "SIGQUIT"), (4, "SIGILL"), (5, "SIGTRAP"), (6, "SIGABRT"),
  (7, "SIGBUS"), (8, "SIGFPE"), (9, "SIGKILL"), (10, "SIGUSR1"), (11, "SIGSEGV"),
  (12, "SIGUSR2"), (13, "SIGPIPE"), (14, "SIGALRM"), (15, "SIGTERM"), (16, "SIGSTKFLT"),
  (17, "SIGCHLD"), (18, "SIGCONT"), (19, "SIGSTOP"), (20, "SIGTSTP"), (21, "SIGTTIN"),
  (22, "SIGTTOU"), (23, "SIGURG"), (24, "SIGXCPU"), (25, "SIGXFSZ"), (26, "SIGVTALRM"),
  (27, "SIGPROF"), (28, "SIGWINCH"), (29, "SIGIO"), (30, "SIGPWR"), (31, "SIGSYS")]

/-- A signal's number, with its name if it has one. -/
def signalText (n : Nat) : String :=
  match signalNames.lookup n with
  | some name => s!"{n} ({name})"
  | none => toString n

/-- The status that waiting for a child gives. -/
inductive WaitStatus where
  | exited (code : Nat)
  | signaled (signal : Nat) (coreDumped : Bool)
  | stopped (signal : Nat)
  | continued
  | unrecognised (raw : Nat)
  deriving DecidableEq, Repr

namespace WaitStatus

/-- The status that a 32-bit wait status word stands for. -/
def ofWord (word : Nat) : WaitStatus :=
  let low := word % 0x80
  if low = 0 then exited (word / 0x100 % 0x100)
  else if low ≠ 0x7F then signaled low (word / 0x80 % 2 = 1)
  else if word % 0x100 = 0x7F then stopped (word / 0x100 % 0x100)
  else if word = 0xFFFF then continued
  else unrecognised word

/-- The status of a process that exits with `code`: the low eight bits are kept. -/
def ofCode (code : Int) : WaitStatus := exited (code % 256).toNat

/-- The status of a process that dies of a signal. -/
def ofSignal (n : Nat) : WaitStatus := signaled n false

def isSuccess (s : WaitStatus) : Bool := s == exited 0

/-- A 32-bit word as a signed number. -/
def signedWord (n : Nat) : Int := if n < 2147483648 then n else (n : Int) - 4294967296

def hexText (n : Nat) : String := "0x" ++ String.ofList (Nat.toDigits 16 n)

def message : WaitStatus → String
  | exited c => s!"exit status: {c}"
  | signaled n core => s!"signal: {signalText n}" ++ if core then " (core dumped)" else ""
  | stopped n => s!"stopped (not terminated) by signal: {signalText n}"
  | continued => "continued (WIFCONTINUED)"
  | unrecognised w => s!"unrecognised wait status: {signedWord w} {hexText w}"

end WaitStatus

end LatencyHarness
