import LatencyHarness.CommandLine.Parser
import LatencyHarness.Ids
import LatencyHarness.SystemError

/-! A stand-in service: it announces itself, takes a port, shows its marker with the address, and
then tells of each connection. On request it shows no marker or ends before it takes the port. -/
namespace LatencyHarness

open CommandLine

inductive StubOption where
  | port
  | marker
  | silent
  | exitCode
  | delay
  | tag
  deriving DecidableEq, Repr

namespace StubOption

def grammar : Grammar StubOption where
  program := "myco-stub-service"
  version := "0.3.0"
  about? := none
  options := [
    ⟨"port", none, .value port ⟨"PORT", .port, none, none, true⟩, "Port to listen on"⟩,
    ⟨"marker", none, .value marker ⟨"MARKER", .text, none, some "Stub listening on", false⟩,
      "Marker printed once the listener is bound, followed by the address"⟩,
    ⟨"silent", none, .flag silent, "Bind the port but never print the marker"⟩,
    ⟨"exit-code", none, .value exitCode ⟨"EXIT_CODE", .int32, none, none, false⟩,
      "Exit with this code right after starting, before binding"⟩,
    ⟨"delay-ms", none, .value delay ⟨"DELAY_MS", .nat64, none, some "0", false⟩,
      "Delay before binding, in milliseconds"⟩,
    ⟨"tag", none, .value tag ⟨"TAG", .text, none, none, false⟩,
      "Free-form tag so tests can find this process by command line"⟩,
    ⟨"help", some 'h', .help, "Print help"⟩]

end StubOption

structure StubOptions where
  port : Port
  marker : String
  silent : Bool
  exitCode : Option Int
  delay : Millis
  tag : Option String
  deriving DecidableEq, Repr

/-- What a stand-in service shows, and the code that it ends with; without one it goes on. -/
structure StubRun where
  out : List String
  err : List String
  code : Option Nat
  deriving DecidableEq, Repr

namespace StubOptions

def number (s : Settings StubOption) (k : StubOption) : Option Int :=
  (s.lookup k).bind Value.number?

def text (s : Settings StubOption) (k : StubOption) : Option String :=
  (s.lookup k).bind Value.text?

def ofSettings (s : Settings StubOption) : StubOptions where
  port := .ofNat ((number s .port).getD 0).toNat
  marker := (text s .marker).getD ""
  silent := (s.lookup .silent).isSome
  exitCode := number s .exitCode
  delay := ((number s .delay).getD 0).toNat
  tag := text s .tag

/-- The address of a port of the local host. -/
def address (p : Port) : String := s!"127.0.0.1:{p.toNat}"

/-- What is shown of a connection from a port. -/
def connection (peer : Port) : String := s!"connection from {address peer}"

/-- The run of a service with connections from some ports. Binding gives the port that is taken,
or fails. -/
def run (o : StubOptions) (bind : Port → Option Port) (peers : List Port) : StubRun :=
  let tag := o.tag.getD "-"
  let greeting := [s!"stub service starting (tag: {tag})"]
  let err := ["stub diagnostics on stderr"]
  match o.exitCode with
  | some n => ⟨greeting, err, some (n % 256).toNat⟩
  | none =>
    match bind o.port with
    | none => ⟨greeting, err, some 1⟩
    | some p =>
      let marker := if o.silent then [] else [s!"{o.marker} {address p}"]
      ⟨greeting ++ marker ++ peers.map connection, err, none⟩

end StubOptions

/-- The run of a stand-in service that is called with some arguments. -/
def StubRun.ofArgs (env : Environment) (args : List String) (bind : Port → Option Port)
    (peers : List Port) : StubRun :=
  match StubOption.grammar.parse env (Argument.ofTexts args) with
  | .ok s => (StubOptions.ofSettings s).run bind peers
  | .error early =>
    let text := (StubOption.grammar.endText env early).splitOn "\n"
    match early with
    | .refused _ => ⟨[], text, some early.code⟩
    | .help | .version => ⟨text.dropLast, [], some early.code⟩

end LatencyHarness
