import LatencyHarness.CommandLine.Parser
import LatencyHarness.Config

/-! The options of the harness, and the configuration that they stand for. -/
namespace LatencyHarness

open CommandLine

inductive RunOption where
  | verbose
  | json
  | workingDir
  | taskRunner
  | server1Port
  | server2Port
  | server2Timeout
  | server1Timeout
  deriving DecidableEq, Repr

namespace RunOption

def grammar : Grammar RunOption where
  program := "run-myco"
  version := "0.3.0"
  about? := some "Run the latency client against freshly started Server1/Server2 instances"
  options := [
    ⟨"verbose", some 'v', .flag verbose, "Enable verbose/debug output"⟩,
    ⟨"json", none, .flag json, "Print the final run report as a JSON line"⟩,
    ⟨"working-dir", none,
      .value workingDir ⟨"WORKING_DIR", .path, some "MYCO_WORKING_DIR", none, false⟩,
      "Directory containing the justfile (defaults to the current directory)"⟩,
    ⟨"task-runner", none,
      .value taskRunner ⟨"TASK_RUNNER", .text, some "MYCO_TASK_RUNNER", none, false⟩,
      "Task runner used to launch the services and the client"⟩,
    ⟨"server1-port", none,
      .value server1Port ⟨"SERVER1_PORT", .port, some "MYCO_SERVER1_PORT", none, false⟩,
      "Port Server1 listens on"⟩,
    ⟨"server2-port", none,
      .value server2Port ⟨"SERVER2_PORT", .port, some "MYCO_SERVER2_PORT", none, false⟩,
      "Port Server2 listens on"⟩,
    ⟨"server2-timeout", none, .value server2Timeout ⟨"SECS", .nat64, none, none, false⟩,
      "Seconds to wait for Server2's readiness marker"⟩,
    ⟨"server1-timeout", none, .value server1Timeout ⟨"SECS", .nat64, none, none, false⟩,
      "Seconds to wait for Server1's readiness marker"⟩,
    ⟨"help", some 'h', .help, "Print help"⟩,
    ⟨"version", some 'V', .version, "Print version"⟩]

end RunOption

/-- The options of one run. Timeouts are in seconds. -/
structure RunOptions where
  verbose : Bool
  json : Bool
  workingDir : Option Path
  taskRunner : Option String
  server1Port : Option Port
  server2Port : Option Port
  server2Timeout : Option Nat
  server1Timeout : Option Nat
  deriving DecidableEq, Repr

namespace RunOptions

/-- The port that a setting holds. -/
def portOf (s : Settings RunOption) (k : RunOption) : Option Port :=
  ((s.lookup k).bind Value.number?).map fun n => .ofNat n.toNat

/-- The number of seconds that a setting holds. -/
def secondsOf (s : Settings RunOption) (k : RunOption) : Option Nat :=
  ((s.lookup k).bind Value.number?).map (·.toNat)

def ofSettings (s : Settings RunOption) : RunOptions where
  verbose := (s.lookup .verbose).isSome
  json := (s.lookup .json).isSome
  workingDir := (s.lookup .workingDir).bind Value.path?
  taskRunner := (s.lookup .taskRunner).bind Value.text?
  server1Port := portOf s .server1Port
  server2Port := portOf s .server2Port
  server2Timeout := secondsOf s .server2Timeout
  server1Timeout := secondsOf s .server1Timeout

/-- The options on a command line, together with those of the environment. -/
def parseBytes (env : Environment) (args : List Text.Utf8.Bytes) : Except EarlyEnd RunOptions :=
  (RunOption.grammar.parse env args).map ofSettings

/-- The same for arguments that are texts. -/
def parse (env : Environment) (args : List String) : Except EarlyEnd RunOptions :=
  parseBytes env (Argument.ofTexts args)

/-- The service with the settings that are given. -/
def overrideService (s : ServiceSpec) (runner : Option String) (port : Option Port)
    (timeout : Option Nat) : ServiceSpec := {
  s with
  launch := { s.launch with program := runner.getD s.launch.program }
  port := port.getD s.port
  startupTimeout := (timeout.map (· * 1000)).getD s.startupTimeout }

/-- The configuration with the settings that are given. A task runner is used throughout. -/
def override (o : RunOptions) (c : Config) : Config := {
  c with
  taskRunner := { c.taskRunner with program := o.taskRunner.getD c.taskRunner.program }
  server2 := overrideService c.server2 o.taskRunner o.server2Port o.server2Timeout
  server1 := overrideService c.server1 o.taskRunner o.server1Port o.server1Timeout
  client := { c.client with program := o.taskRunner.getD c.client.program } }

/-- The directory to work in: the one that is given, or the current one. -/
def directory (o : RunOptions) (current : Except SystemError Path) : Except HarnessError Path :=
  match o.workingDir with
  | some dir => .ok dir
  | none => current.mapError fun e =>
    .configuration s!"Cannot determine the working directory: {e.message}"

/-- The configuration that the options stand for, if it holds together. -/
def config [Pattern.Wording] (o : RunOptions) (current : Except SystemError Path) :
    Except HarnessError Config := do
  let c := o.override (.withDefaults (← o.directory current))
  c.validate.mapError HarnessError.ofConfig
  return c

end RunOptions

end LatencyHarness
