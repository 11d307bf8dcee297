import LatencyHarness.Controller
import LatencyHarness.Environment.File
import LatencyHarness.Report.Json
import LatencyHarness.RunOptions

/-! The program as a whole: from its command line and its surroundings to its output and its exit
status. -/
namespace LatencyHarness

open Text.Utf8 (Bytes)

/-- What the program is started with. -/
structure Invocation where
  args : List String
  environment : Environment
  /-- a file that sets further variables -/
  environmentFile : Option Bytes
  currentDir : Except SystemError Path

/-- What the program has shown, and its exit status. -/
structure Completion where
  code : Nat
  out : String
  err : String
  log : List String
  deriving DecidableEq, Repr

namespace Completion

/-- The text of some lines, each with a line feed. -/
def ofLines (lines : List String) : String := String.join (lines.map (· ++ "\n"))

/-- The end of a program that does not run anything. -/
def ofEarlyEnd (env : Environment) (early : CommandLine.EarlyEnd) : Completion :=
  let text := RunOption.grammar.endText env early
  match early with
  | .refused _ => ⟨early.code, "", ofLines [text], []⟩
  | .help | .version => ⟨early.code, text, "", []⟩

/-- The levels that are logged. -/
def levels (verbose : Bool) : List Level := if verbose then [.debug, .info, .warn] else [.warn]

/-- The exit status after a crash. -/
def crashCode : Nat := 101

def ofRun {σ : Type} (o : RunOptions) :
    EStateM.Result Halt (Controller σ) RunReport → Completion
  | .ok report s =>
    let journal := s.supervisor.session.journal
    let summary := if o.json then [String.ofList report.toJson] else []
    ⟨report.exitCode, ofLines (journal.console ++ summary), "", journal.log (levels o.verbose)⟩
  | .error halt s =>
    let journal := s.supervisor.session.journal
    let text := match halt with
      | .crashed t => [t]
      | .interrupted | .exhausted => []
    ⟨crashCode, ofLines journal.console, ofLines text, journal.log (levels o.verbose)⟩

end Completion

namespace Invocation

/-- The variables, with those of the file. -/
def fullEnvironment (i : Invocation) : Environment :=
  match i.environmentFile with
  | some content => Environment.File.load content i.environment
  | none => i.environment

/-- What the options ask for, if it holds together. -/
def plan [Pattern.Wording] {σ : Type} [Host σ] (i : Invocation) (o : RunOptions) :
    Except HarnessError (Plan σ) := do
  let c ← o.config i.currentDir
  Plan.ofConfig c (.standard c.reclaim)

/-- Runs the program on a host with a directory for pidfiles. -/
def run [Pattern.Wording] {σ : Type} [Host σ] (i : Invocation) (host : σ) (pids : Folder) :
    Completion :=
  match RunOptions.parse i.fullEnvironment i.args with
  | .error early => .ofEarlyEnd i.fullEnvironment early
  | .ok o =>
    match (i.plan o : Except HarnessError (Plan σ)) with
    | .error e => ⟨1, "", Completion.ofLines [s!"❌ {e.message}"], []⟩
    | .ok plan => .ofRun o (Running.run plan (Controller.start (Session.start host pids)))

end Invocation

end LatencyHarness
