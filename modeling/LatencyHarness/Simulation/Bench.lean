import LatencyHarness.Controller

/-! A bench for runs: a small host whose processes obey.

Each child starts a helper in its group. The two services say that they listen and stay; the client
ends at once, with success, and leaves its helper behind. A signal ends what it reaches, and a wait
with a limit takes as long as it may. -/
namespace LatencyHarness.Simulation

open Text.Utf8 (Bytes)

/-- A child on the bench. -/
structure BenchChild where
  /-- how it has ended, if it has -/
  status : Option WaitStatus
  /-- whether the process that it has started in its group is alive -/
  hasHelper : Bool
  /-- its output that has not been read yet -/
  output : Bytes
  deriving DecidableEq, Repr

namespace BenchChild

/-- The child that has got a signal. -/
def hit (signal : Signal) (c : BenchChild) : BenchChild :=
  { c with status := c.status <|> some (.ofSignal signal.number) }

/-- The child whose whole group has got a signal. -/
def hitAll (signal : Signal) (c : BenchChild) : BenchChild := { c.hit signal with hasHelper := false }

/-- What a signal does to the child with an id. -/
def receive (signal : Signal) (r : Recipient) (pid : Pid) (c : BenchChild) : BenchChild :=
  match r with
  | .process p => if p = pid then c.hit signal else c
  | .group g => if g = pid then c.hitAll signal else c

end BenchChild

structure Bench where
  clock : Instant
  nextPid : Pid
  children : Pid → Option BenchChild

namespace Bench

/-- The process group that the harness is in. -/
def home : Pid := 2

/-- A bench with nothing on it. -/
def blank : Bench := ⟨0, 101, fun _ => none⟩

/-- What a program is when it has just been started. -/
def begin (l : Launch) : BenchChild :=
  match l.args.head? with
  | some "server2" => ⟨none, true, Text.Utf8.encode "Server2 listening on 3004\n".toList⟩
  | some "server1" => ⟨none, true, Text.Utf8.encode "Server1 listening on 3002\n".toList⟩
  | _ => ⟨some (.exited 0), true, []⟩

/-- Starts a program, under an id that is not the harness's, as long as there are any. The next id
is that of its helper. -/
def spawn (l : Launch) (b : Bench) : Except SystemError Pid × Bench :=
  let pid := b.nextPid
  if pid = home ∨ maxOsPid < pid.toNat then (.error (.errno 11), b)
  else (.ok pid, { b with
    nextPid := pid + 2
    children := fun q => if q = pid then some (begin l) else b.children q })

/-- The bench with a change to its children. -/
def modify (f : Pid → BenchChild → BenchChild) (b : Bench) : Bench :=
  { b with children := fun q => (b.children q).map (f q) }

/-- Looks at a stream of a child. All that it writes is on the first one. -/
def look (pid : Pid) (stream : Stream) (b : Bench) : Arrival × Bench :=
  match b.children pid with
  | none => (⟨[], .ended⟩, b)
  | some c =>
    if stream = .out ∧ ¬ c.output.isEmpty then
      (⟨c.output, .lineFeed⟩, b.modify fun q c => if q = pid then { c with output := [] } else c)
    else if c.status.isSome then (⟨[], .ended⟩, b)
    else (⟨[], .pending⟩, b)

/-- What a tool that is run to its end prints: the task runner its version, the others nothing. -/
def capture (l : Launch) : Captured :=
  ⟨.exited 0, if l.program = "just" then Text.Utf8.encode "just 1.36.0\n".toList else [], []⟩

/-- The living processes of the group that a child leads. -/
def members (pid : Pid) (b : Bench) : List Pid :=
  match b.children pid with
  | none => []
  | some c => (if c.status.isNone then [pid] else []) ++ if c.hasHelper then [pid + 1] else []

theorem spawn_ok {l : Launch} {b : Bench} {pid : Pid} (h : (b.spawn l).1 = .ok pid) :
    pid ≠ home ∧ pid.toNat ≤ maxOsPid := by
  simp only [spawn] at h
  split at h
  · cases h
  · next hid =>
    obtain ⟨hhome, hos⟩ := not_or.mp hid
    cases h
    exact ⟨hhome, Nat.le_of_not_lt hos⟩

instance : Host Bench where
  patience _ := 20
  selfPid _ := home
  ownGroup _ := home
  now b := b.clock
  wallClock _ := ⟨⟨2024, 5, 1⟩, 0, 0⟩
  isFile _ _ := true
  bindable _ _ := true
  hasProcess _ _ := false
  processes _ := []
  observe _ b := b
  await _ limit _ b := { b with clock := max b.clock (limit.getD b.clock) }
  news? b := (none, b)
  spawn _ l b := b.spawn l
  spawn_le hspawn := (spawn_ok hspawn).2
  exitStatus? pid b := .ok ((b.children pid).bind (·.status))
  signal s r b := (.ok (), b.modify (BenchChild.receive s r))
  firstStream b := (.out, b)
  look pid s b := b.look pid s
  capture l _ b := (some (.ok (capture l)), b)

/-! ### The run on the bench -/

def config : Config :=
  { Config.withDefaults (.ofString "/w") with sweepPatterns := [], escalationPatterns := [] }

def plan : Plan Bench :=
  ⟨config, [], [], ⟨config.workingDir, config.ports, [], config.pollInterval, config.teardown,
    .standard config.reclaim⟩⟩

def start : Controller Bench := Controller.start (Session.start blank .absent)

end Bench

end LatencyHarness.Simulation
