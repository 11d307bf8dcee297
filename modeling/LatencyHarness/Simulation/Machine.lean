import LatencyHarness.Simulation.FileTree
import LatencyHarness.Simulation.ProcessState
import LatencyHarness.Text.Search

/-! A machine that a run can be rehearsed on.

Programs write all their output when they start. Time passes only when something waits, and a wait
goes straight to the next thing that happens. What is to happen besides is a list of cues, one
after the other: each comes due some time after a text has been shown on the console. -/
namespace LatencyHarness.Simulation

open Text.Utf8 (Bytes)

/-- What a cue does. -/
inductive Act where
  | write (pid : Pid) (stream : Stream) (content : Bytes)
  | close (pid : Pid) (stream : Stream)
  | fail (pid : Pid) (stream : Stream)
  | kill (pid : Pid) (signal : Nat)
  | news (n : News)
  deriving DecidableEq, Repr

/-- Something that happens `wait` after a line with the text `awaited` has been shown. -/
structure Cue where
  awaited : String
  wait : Millis
  act : Act
  deriving DecidableEq, Repr

structure Machine where
  clock : Instant
  /-- the least time that a wait takes -/
  tick : Millis
  selfPid : Pid
  nextPid : Pid
  processes : List ProcessState
  programs : List (String × Program)
  /-- where the programs of processes that were not launched by name are -/
  binDir : String
  files : FileTree
  /-- the directory that relative paths start from -/
  currentDir : Path
  /-- the ports that somebody listens on -/
  taken : List Port
  /-- the questions that tools have been asked, the newest first -/
  questions : List String
  /-- the lines shown on the console, the newest first -/
  shown : List String
  cues : List Cue
  /-- when the first cue comes due, if that is settled -/
  due : Option Instant
  pending : List News
  wallClock : Timestamp

namespace Machine

/-- A machine with nothing on it. -/
def blank (binDir : String) : Machine where
  clock := 0
  tick := 1
  selfPid := 2
  nextPid := 1001
  processes := []
  programs := []
  binDir := binDir
  files := ⟨[], []⟩
  currentDir := .ofString "/"
  taken := []
  questions := []
  shown := []
  cues := []
  due := none
  pending := []
  wallClock := ⟨⟨2024, 5, 1⟩, 0, 0⟩

/-- How long a program without an end of its own goes on. -/
def lastingTime : Millis := 30000

/-- How long a program that ends by itself takes. -/
def shortTime : Millis := 1

/-- The machine with a program under a name. -/
def install (name : String) (p : Program) (m : Machine) : Machine :=
  { m with programs := (name, p) :: m.programs }

def addFolder (m : Machine) (p : Path) : Machine := { m with files := m.files.addFolder p }

def addFile (m : Machine) (p : Path) : Machine := { m with files := m.files.addFile p }

/-! ### Processes -/

def process? (m : Machine) (pid : Pid) : Option ProcessState := m.processes.find? (·.pid == pid)

def isAlive (m : Machine) (pid : Pid) : Bool :=
  (m.process? pid).any (·.isAlive m.clock)

/-- The machine with a change to one process. -/
def modifyProcess (m : Machine) (pid : Pid) (f : ProcessState → ProcessState) : Machine :=
  { m with processes := m.processes.map fun p => if p.pid = pid then f p else p }

/-- When the parent of a process learns of its end. -/
def knownAt (m : Machine) (p : ProcessState) : Option Instant :=
  match p.finish, p.holder with
  | none, _ => none
  | some (t, _), none => some t
  | some (t, _), some h =>
    match m.process? h with
    | none => some t
    | some q => q.finish.map fun (u, _) => max t u

/-- The status of a process, once its parent knows it. -/
def exitStatus? (m : Machine) (pid : Pid) : Option WaitStatus := do
  let p ← m.process? pid
  let t ← m.knownAt p
  let (_, status) ← p.finish
  if t ≤ m.clock then some status else none

/-- What a signal does to a process. The termination signal has no effect on one that is held. -/
def deliver (m : Machine) (signal : Nat) (p : ProcessState) : ProcessState :=
  if signal ≠ Signal.term.number then p.die m.clock (.ofSignal signal)
  else if p.holder.any m.isAlive then p
  else match p.term with
    | .dies => p.die m.clock (.ofSignal signal)
    | .exits code => p.die m.clock (.ofCode code)
    | .ignores => p

/-- Sends a signal to all processes with some property. Fails if there are none. -/
def signalWhere (m : Machine) (signal : Nat) (reached : ProcessState → Bool) :
    Except SystemError Unit × Machine :=
  if m.processes.any reached then
    (.ok (), { m with
      processes := m.processes.map fun p => if reached p then m.deliver signal p else p })
  else (.error (.errno 3), m)

/-- Lets a process end that waits for it. -/
def release (pid : Pid) (m : Machine) : Machine :=
  m.modifyProcess pid fun p =>
    match p.releaseCode with
    | some c => p.die m.clock (.ofCode c)
    | none => p

/-- Kills all processes that keep the end of others from being known. -/
def unhold (m : Machine) : Machine :=
  let holders := m.processes.filterMap (·.holder)
  { m with processes := m.processes.map fun p =>
      if holders.contains p.pid then p.die m.clock (.ofSignal Signal.kill.number) else p }

/-- The number of processes that are alive after some time in which nothing is done. -/
def remaining (m : Machine) (d : Millis) : Nat :=
  (m.processes.filter (·.isAlive (m.clock + d))).length

/-- Adds a process with the streams held by somebody else. It is alive or has ended so. -/
def addProcess (m : Machine) (pid : Pid) (arguments : List String) (status : Option WaitStatus) :
    Machine :=
  let p : ProcessState := {
    pid := pid, group := pid, arguments := arguments, term := .dies,
    finish := status.map (m.clock, ·), releaseCode := none, holder := none, ownsPipes := false,
    out := .empty, err := .empty }
  { m with processes := m.processes ++ [p] }

/-! ### Starting programs -/

/-- Adds a process that sleeps, with its streams elsewhere. -/
def addSleeper (m : Machine) (group : Option Pid) (arguments : List String)
    (finish : Option (Instant × WaitStatus)) : Machine × Pid :=
  let pid := m.nextPid
  let p : ProcessState := {
    pid := pid, group := group.getD pid, arguments := arguments, term := .dies, finish := finish,
    releaseCode := none, holder := none, ownsPipes := true, out := .empty, err := .empty }
  ({ m with nextPid := pid + 1, processes := m.processes ++ [p] }, pid)

def sleepArguments (m : Machine) : List String := [m.binDir ++ "/sleep", "30"]

/-- When and how a program ends by itself, if it does. -/
def finishOf (m : Machine) : Ending → Option (Instant × WaitStatus)
  | .exit code => some (m.clock + shortTime, .ofCode code)
  | .signal n => some (m.clock + shortTime, .ofSignal n)
  | .lasting => some (m.clock + lastingTime, .exited 0)
  | .onRelease _ => none

/-- The command line of a running program. -/
def argumentsOf (m : Machine) (b : Behaviour) (launch : Launch) : List String :=
  if b.unreapable then [m.binDir ++ "/held"]
  else if b.ending = .lasting ∧ ¬ (b.term matches .exits _) then m.sleepArguments
  else launch.program :: launch.args

/-- Starts a program in a group, or at the head of its own, with the processes that come with
it. -/
def launch (m : Machine) (group : Option Pid) (b : Behaviour) (launch : Launch) : Machine × Pid :=
  let pid := m.nextPid
  let own := group.getD pid
  let m := { m with nextPid := pid + 1 }
  let sleeping := some (m.clock + lastingTime, WaitStatus.exited 0)
  let m := if b.grandchild then (m.addSleeper (some own) m.sleepArguments sleeping).1 else m
  let m := if b.escapee then (m.addSleeper none m.sleepArguments sleeping).1 else m
  let (m, holder) :=
    if b.unreapable then
      let (m, h) := m.addSleeper none [m.binDir ++ "/holder"] none
      (m, some h)
    else (m, none)
  let p : ProcessState := {
    pid := pid, group := own, arguments := m.argumentsOf b launch, term := b.term,
    finish := if b.unreapable then none else m.finishOf b.ending,
    releaseCode := match b.ending with | .onRelease code => some code | _ => none,
    holder := holder, ownsPipes := true,
    out := ⟨b.output launch.args .out, .openEnd⟩, err := ⟨b.output launch.args .err, .openEnd⟩ }
  ({ m with processes := m.processes ++ [p] }, pid)

/-- Whether a program can be started with such a command at all. -/
def isWellFormed (l : Launch) : Bool := !(l.program :: l.args).any (·.toList.contains '\x00')

/-- The program that a command names, or what is in the way of starting it. -/
def find (m : Machine) (l : Launch) : Except SystemError Program :=
  match m.programs.lookup l.program with
  | none => .error .notFound
  | some .notExecutable => .error .permissionDenied
  | some p => .ok p

/-- The program that a command names when it is started in a directory. -/
def findIn (m : Machine) (dir : Path) (l : Launch) : Except SystemError Program :=
  if !isWellFormed l then .error (.custom .invalidInput "nul byte found in provided data")
  else if !m.files.isFolder (FileTree.trailOf (m.currentDir.join dir)) then .error .notFound
  else m.find l

/-- What a program does when it is launched: a tool goes on silently. -/
def behaviourOf : Program → Behaviour
  | .behaves b => b
  | _ => ⟨[], .dies, false, false, false, .lasting⟩

/-- Starts a program as a child in a directory. -/
def spawnIn (m : Machine) (group : Option Pid) (dir : Path) (l : Launch) :
    Except SystemError Pid × Machine :=
  match m.findIn dir l with
  | .error e => (.error e, m)
  | .ok program =>
    if maxOsPid < m.nextPid.toNat then (.error (.errno 11), m)
    else
      let (m, pid) := m.launch group (behaviourOf program) l
      (.ok pid, m)

theorem spawnIn_le {m : Machine} {group : Option Pid} {dir : Path} {l : Launch} {pid : Pid}
    (h : (m.spawnIn group dir l).1 = .ok pid) : pid.toNat ≤ maxOsPid := by
  unfold spawnIn at h
  split at h
  · cases h
  · split at h
    · cases h
    · next hid =>
      cases h
      exact Nat.le_of_not_lt hid

/-! ### Cues -/

/-- Settles when the first cue comes due, if its text has been shown. -/
def settle (m : Machine) : Machine :=
  match m.due, m.cues with
  | none, c :: _ =>
    if c.awaited.isEmpty || m.shown.any fun line => Text.occursIn c.awaited.toList line.toList then
      { m with due := some (m.clock + c.wait) }
    else m
  | _, _ => m

/-- The machine with other things to come. -/
def schedule (m : Machine) (cues : List Cue) : Machine :=
  { m with cues := cues, due := none }.settle

def perform (m : Machine) : Act → Machine
  | .write pid s content =>
    m.modifyProcess pid fun p =>
      let q := p.pipe s
      p.setPipe s { q with unread := q.unread ++ content }
  | .close pid s => m.modifyProcess pid fun p => p.setPipe s { p.pipe s with tail := .ended }
  | .fail pid s => m.modifyProcess pid fun p => p.setPipe s { p.pipe s with tail := .failed }
  | .kill pid signal => m.modifyProcess pid (m.deliver signal)
  | .news n => { m with pending := m.pending ++ [n] }

/-- Performs the first cue, at the time it comes due. -/
def cue (m : Machine) (t : Instant) : Machine :=
  match m.cues with
  | [] => m
  | c :: cs =>
    let m := { m with clock := max m.clock t, cues := cs, due := none }
    (m.perform c.act).settle

/-- Performs the cues that are due now. -/
def cueDue : Nat → Machine → Machine
  | 0, m => m
  | n + 1, m =>
    match m.due with
    | some t => if t ≤ m.clock then cueDue n (m.cue t) else m
    | none => m

/-! ### Waiting -/

def earliest : List (Option Instant) → Option Instant
  | [] => none
  | none :: ts => earliest ts
  | some t :: ts =>
    match earliest ts with
    | none => some t
    | some u => some (min t u)

/-- Whether looking at a stream brings anything. -/
def hasOutput (m : Machine) (pid : Pid) : Bool :=
  (m.process? pid).any fun p =>
    [Stream.out, .err].any fun s =>
      let q := p.pipe s
      !q.unread.isEmpty || q.tail ≠ .openEnd

/-- When what is waited for happens, as far as that is settled. -/
def happensAt (m : Machine) : Wait → Option Instant
  | .nothing => none
  | .exit pid => (m.process? pid).bind m.knownAt
  | .output pid => do
    let p ← m.process? pid
    let (t, _) ← p.finish
    if p.ownsPipes ∧ m.clock < t then some t else none

/-- Waits through at most `n` cues. -/
def waitThrough (w : Wait) (limit : Option Instant) (cut : Bool) : Nat → Machine → Machine
  | 0, m => m
  | n + 1, m =>
    let target := earliest [m.happensAt w, limit]
    let onTime := match m.due, target with
      | some t, some u => if t ≤ u then some t else none
      | t, none => t
      | none, _ => none
    match onTime, target with
    | some t, _ =>
      let m := m.cue t
      if cut ∧ m.pending ≠ [] then m
      else match w with
        | .output pid => if m.hasOutput pid then m else waitThrough w limit cut n m
        | _ => waitThrough w limit cut n m
    | none, some u => { m with clock := max m.clock u }
    | none, none => m

/-- Waits, for one tick at least. -/
def wait (m : Machine) (w : Wait) (limit : Option Instant) (cut : Bool) : Machine :=
  if cut ∧ m.pending ≠ [] then m
  else waitThrough w (limit.map (max (m.clock + m.tick))) cut (m.cues.length + 1) m

/-! ### Running a program to its end -/

/-- The next text of a tool for a question. -/
def answerTo (m : Machine) (texts : List (String × List Bytes)) (question : String) : Bytes :=
  let asked := m.questions.count question
  match texts.lookup question with
  | none => []
  | some ts => (ts[asked]?.orElse fun _ => ts.getLast?).getD []

/-- Runs a tool that takes no time, unless it hangs. -/
def consult (m : Machine) (t : Tool) (args : List String) (limit : Option Millis) :
    Option (Except SystemError Captured) × Machine :=
  let give := fun (text : Bytes) => some (.ok ⟨.exited 0, text, []⟩)
  match t with
  | .hangs => (none, m.wait .nothing (some (m.clock + limit.getD lastingTime)) false)
  | .prints text => (give text, m)
  | .answers texts =>
    let question := args.getLast?.getD ""
    (give (m.answerTo texts question), { m with questions := question :: m.questions })

/-- Runs a program to its end or until the limit has passed; then it is killed. -/
def capture (m : Machine) (l : Launch) (limit : Option Millis) :
    Option (Except SystemError Captured) × Machine :=
  match m.find l with
  | .error e => (some (.error e), m)
  | .ok .notExecutable => (some (.error .permissionDenied), m)
  | .ok (.tool t) => m.consult t l.args limit
  | .ok (.behaves b) =>
    let (m, pid) := m.launch (some m.selfPid) b l
    let m := m.wait (.exit pid) (limit.map (m.clock + ·)) false
    match m.exitStatus? pid with
    | some status => (some (.ok ⟨status, b.output l.args .out, b.output l.args .err⟩), m)
    | none => (none, m.modifyProcess pid (m.deliver Signal.kill.number))

/-! ### The process table -/

/-- The row of a process. A dead one has no arguments. -/
def row (m : Machine) (p : ProcessState) : ProcessEntry :=
  ⟨p.pid, false, if p.isAlive m.clock then shownArguments p.arguments else []⟩

def look (m : Machine) (pid : Pid) (s : Stream) : Arrival × Machine :=
  match m.process? pid with
  | none => (⟨[], .ended⟩, m)
  | some p =>
    let (a, q) := (p.pipeAt m.clock s).look
    (a, m.modifyProcess pid fun p => p.setPipe s q)

def hasProcess (m : Machine) (n : Nat) : Bool :=
  n ≤ 1 || n == m.selfPid.toNat || m.processes.any (·.pid.toNat == n)

/-- Whom a signal reaches. -/
def reaches (r : Recipient) (p : ProcessState) : Bool :=
  match r with
  | .process pid => p.pid == pid
  | .group leader => p.group == leader

def observe (m : Machine) (e : Event) : Machine :=
  match e.console? with
  | some text => { m with shown := text :: m.shown }.settle
  | none => m

/-- The first piece of news, once the cues that are due now have been performed. -/
def news? (m : Machine) : Option News × Machine :=
  let m := cueDue (m.cues.length) m
  match m.pending with
  | [] => (none, m)
  | n :: ns => (some n, { m with pending := ns })

instance : Host Machine where
  patience _ := 1000000
  selfPid := selfPid
  ownGroup := selfPid
  now := clock
  wallClock := wallClock
  isFile p m := m.files.isFile (m.currentDir.join p)
  bindable p m := !m.taken.contains p
  hasProcess n m := m.hasProcess n
  processes m := m.processes.map m.row
  observe e m := m.observe e
  await w limit cut m := m.wait w limit cut
  news? := news?
  spawn dir l m := m.spawnIn none dir l
  spawn_le := spawnIn_le
  exitStatus? pid m := .ok (m.exitStatus? pid)
  signal s r m := m.signalWhere s.number (reaches r)
  firstStream m := (.out, m)
  look pid s m := m.look pid s
  capture l limit m := m.capture l limit

end Machine

end LatencyHarness.Simulation
