import LatencyHarness.Failure
import LatencyHarness.Path
import LatencyHarness.Pattern
import LatencyHarness.Text.Blank

/-! What to run, which ports and patterns to clear, and how long each wait may take. -/
namespace LatencyHarness

/-- A program with its arguments. -/
structure Launch where
  program : String
  args : List String
  deriving DecidableEq, Repr

namespace Launch

/-- The command as it is shown and recorded: the program and its arguments with a space between
each two. -/
def display (l : Launch) : String := " ".intercalate (l.program :: l.args)

def withArgs (l : Launch) (extra : List String) : Launch := { l with args := l.args ++ extra }

end Launch

/-- How a service is launched and recognised as ready. -/
structure ServiceSpec where
  role : Role
  launch : Launch
  /-- A text that one line of the service's output holds once it is ready. -/
  marker : String
  port : Port
  startupTimeout : Millis
  deriving DecidableEq, Repr

/-- The task runner that must work before anything is started. -/
structure RunnerSpec where
  program : String
  versionArgs : List String
  installHint : String
  deriving DecidableEq, Repr

/-- The pauses of a reclamation pass. -/
structure ReclaimPacing where
  killPause : Millis := 100
  settleDelay : Millis := 2000
  escalationPause : Millis := 1000
  deriving DecidableEq, Repr

/-- How long a process may take to end after each of the two signals. -/
structure StopTimeouts where
  graceful : Millis := 3000
  forceful : Millis := 2000
  deriving DecidableEq, Repr

structure Config where
  workingDir : Path
  declarationFile : Path
  taskRunner : RunnerSpec
  server2 : ServiceSpec
  server1 : ServiceSpec
  client : Launch
  endpointScheme : String
  endpointHost : String
  sweepPatterns : List String
  escalationPatterns : List String
  pidDir : Path
  pollInterval : Millis
  reclaim : ReclaimPacing
  teardown : StopTimeouts
  deriving DecidableEq, Repr

namespace Config

/-- The standard layout of two services and a client below a working directory. -/
def withDefaults (workingDir : Path) : Config where
  workingDir := workingDir
  declarationFile := .ofString "justfile"
  taskRunner := ⟨"just", ["--version"], "brew install just (or: cargo install just)"⟩
  server2 := ⟨.server2, ⟨"just", ["server2"]⟩, "Server2 listening on", 3004, 30000⟩
  server1 := ⟨.server1, ⟨"just", ["server1"]⟩, "Server1 listening on", 3002, 60000⟩
  client := ⟨"just", ["client"]⟩
  endpointScheme := "https"
  endpointHost := "localhost"
  sweepPatterns := ["rpc_server", "cargo run.*rpc_server"]
  escalationPatterns := ["cargo.*rpc_server"]
  pidDir := (workingDir.join (.ofString ".myco")).join (.ofString "pids")
  pollInterval := 100
  reclaim := {}
  teardown := {}

def service (c : Config) : Role → ServiceSpec
  | .server2 => c.server2
  | .server1 => c.server1

/-- Every port under management. -/
def ports (c : Config) : List Port := [c.server1.port, c.server2.port]

def declarationPath (c : Config) : Path := c.workingDir.join c.declarationFile

/-- The addresses handed to the client. -/
def endpoints (c : Config) : List String :=
  c.ports.map fun p => s!"{c.endpointScheme}://{c.endpointHost}:{p.toNat}"

/-- The client's command with both addresses at its end. -/
def clientLaunch (c : Config) : Launch := c.client.withArgs c.endpoints

/-- The patterns of some texts; the first that is malformed is reported. -/
def compile [Pattern.Wording] (texts : List String) : Except ConfigError (List Pattern) :=
  (Pattern.compile texts).mapError fun refusal => .invalidPattern refusal.text refusal.reason

def sweep [Pattern.Wording] (c : Config) : Except ConfigError (List Pattern) :=
  compile c.sweepPatterns

/-- The sweep's patterns and, after them, those for escalating only. -/
def escalation [Pattern.Wording] (c : Config) : Except ConfigError (List Pattern) := do
  let sweep ← c.sweep
  let more ← compile c.escalationPatterns
  return sweep ++ more

def isBlank (s : String) : Bool := Text.isBlankText s.toList

/-- The first condition that the service of a role breaks, given the ports taken before it. -/
def checkService (taken : List Port) (role : Role) (s : ServiceSpec) : Except ConfigError Unit :=
  if s.port < 1024 then .error (.privilegedPort s.port)
  else if taken.contains s.port then .error (.duplicatePort s.port)
  else if isBlank s.marker then .error (.emptyMarker role)
  else if s.startupTimeout = 0 then .error (.zeroTimeout role)
  else if isBlank s.launch.program then .error (.emptyProgram role.name)
  else .ok ()

/-- The first condition that the configuration breaks, in the order of the checks. -/
def validate [Pattern.Wording] (c : Config) : Except ConfigError Unit := do
  checkService [] .server2 c.server2
  checkService [c.server2.port] .server1 c.server1
  if isBlank c.client.program then throw (.emptyProgram "client")
  let _ ← c.escalation
  return ()

end Config

end LatencyHarness
