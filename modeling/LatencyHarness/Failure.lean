import LatencyHarness.Ids
import LatencyHarness.Readiness.Outcome
import LatencyHarness.Role
import LatencyHarness.SystemError

/-! Everything that can end a run: a service that does not start, a configuration that does not
hold together, and the failures of the run as a whole. -/
namespace LatencyHarness

/-- Why a service is not running. A service that was launched but is not ready stays tracked. -/
inductive StartError where
  | launch (role : Role) (cause : SystemError)
  | notReady (role : Role) (outcome : ReadinessOutcome)
  deriving DecidableEq, Repr

namespace StartError

def role : StartError → Role
  | launch r _ => r
  | notReady r _ => r

def outcome? : StartError → Option ReadinessOutcome
  | launch _ _ => none
  | notReady _ o => some o

/-- The kind of failure in one word. -/
def name : StartError → String
  | launch _ _ => "Launch"
  | notReady _ _ => "NotReady"

def message : StartError → String
  | launch r e => s!"{r.name} failed to launch: {e.message}"
  | notReady r o => s!"{r.name} did not become ready: {o.message}"

end StartError

/-- A condition that a configuration breaks. -/
inductive ConfigError where
  | duplicatePort (port : Port)
  | privilegedPort (port : Port)
  | emptyMarker (role : Role)
  | zeroTimeout (role : Role)
  | invalidPattern (pattern reason : String)
  | emptyProgram (owner : String)
  deriving DecidableEq, Repr

/-- The broken condition in one word. -/
def ConfigError.name : ConfigError → String
  | duplicatePort _ => "DuplicatePort"
  | privilegedPort _ => "PrivilegedPort"
  | emptyMarker _ => "EmptyMarker"
  | zeroTimeout _ => "ZeroTimeout"
  | invalidPattern _ _ => "InvalidPattern"
  | emptyProgram _ => "EmptyProgram"

def ConfigError.message : ConfigError → String
  | duplicatePort p => s!"Port {p} is assigned to more than one dependency"
  | privilegedPort p => s!"Port {p} is a privileged port. Please use a port >= 1024."
  | emptyMarker r => s!"Readiness marker for {r.name} is empty"
  | zeroTimeout r => s!"Startup timeout for {r.name} must be greater than zero"
  | invalidPattern p reason => s!"Invalid sweep pattern '{p}': {reason}"
  | emptyProgram owner => s!"Launch command for {owner} has an empty program"

/-- What ends a run without success. -/
inductive HarnessError where
  | configuration (text : String)
  | portConflict (ports : List Port)
  | startup (cause : StartError)
  | clientFailure (text : String)
  | interrupted
  deriving DecidableEq, Repr

namespace HarnessError

/-- A broken configuration is reported by its text. -/
def ofConfig (e : ConfigError) : HarnessError := configuration e.message

/-- The kind of failure in one word. -/
def name : HarnessError → String
  | configuration _ => "Configuration"
  | portConflict _ => "PortConflict"
  | startup _ => "Startup"
  | clientFailure _ => "ClientFailure"
  | interrupted => "Interrupted"

def message : HarnessError → String
  | configuration t => s!"Configuration error: {t}"
  | portConflict ps => s!"Ports {portsText ps} are still in use after cleanup"
  | startup e => e.message
  | clientFailure t => s!"Client failed: {t}"
  | interrupted => "Interrupted by signal"

/-! ### The text of an interruption -/

theorem ne_interrupted {s : String} {x : Char} (hx : s.toList.head? = some x) (hne : x ≠ 'I') :
    s ≠ interrupted.message := by
  rintro rfl
  exact hne (Option.some.inj hx).symm

theorem head_append {a b : String} {x : Char} (ha : a.toList.head? = some x) :
    (a ++ b).toList.head? = some x := by
  rw [String.toList_append, List.head?_append, ha]
  rfl

/-- The failure of a start is told with the name of the service in front. -/
theorem head_startMessage (e : StartError) : e.message.toList.head? = some 'S' := by
  have hname (r : Role) : r.name.toList.head? = some 'S' := by cases r <;> decide
  match e with
  | .launch r _ => exact head_append (head_append (hname r))
  | .notReady r _ => exact head_append (head_append (hname r))

/-- No other failure has the text of an interruption. -/
theorem message_eq_interrupted {e : HarnessError} :
    e.message = interrupted.message ↔ e = interrupted := by
  refine ⟨fun h => ?_, fun h => h ▸ rfl⟩
  have hother {x : Char} (hx : e.message.toList.head? = some x) (hne : x ≠ 'I') :
      e = interrupted := absurd h (ne_interrupted hx hne)
  have hconfiguration : "Configuration error: ".toList.head? = some 'C' := by decide
  have hports : "Ports ".toList.head? = some 'P' := by decide
  have hclient : "Client failed: ".toList.head? = some 'C' := by decide
  cases e with
  | configuration _ => exact hother (head_append hconfiguration) (by decide)
  | portConflict _ => exact hother (head_append (head_append hports)) (by decide)
  | startup e => exact hother (head_startMessage e) (by decide)
  | clientFailure _ => exact hother (head_append hclient) (by decide)
  | interrupted => rfl

end HarnessError

end LatencyHarness
