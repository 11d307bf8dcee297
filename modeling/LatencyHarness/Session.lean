import LatencyHarness.Host
import LatencyHarness.Pidfile

/-! The state of a run outside its own bookkeeping, and the steps by which it changes.

A `Task` works on a `Session`: the host, the pidfile directory, the journal and the background
work that goes on whenever the run waits. A task ends with a value or with a `Halt`; what it did
before stays done either way. -/
namespace LatencyHarness

/-- Why a task ends without a value. -/
inductive Halt where
  /-- shutdown was requested while an interruptible task waited -/
  | interrupted
  | crashed (text : String)
  /-- more waits than the host's patience -/
  | exhausted
  deriving DecidableEq, Repr

/-- A child whose output is echoed in the background. -/
structure Forwarder where
  pid : Pid
  label : String
  reader : LineReader
  deriving DecidableEq, Repr

structure Session (σ : Type) where
  host : σ
  /-- the pidfile directory -/
  pids : Folder
  journal : Journal
  /-- the shutdown token -/
  cancelled : Bool
  /-- whether a wait ends the task once the token is cancelled -/
  interruptible : Bool
  forwarders : List Forwarder

namespace Session

/-- A session on a host that nothing has happened on. -/
def start {σ : Type} (host : σ) (pids : Folder) : Session σ := ⟨host, pids, [], false, false, []⟩

end Session

abbrev Task (σ : Type) := EStateM Halt (Session σ)

namespace Task

variable {σ : Type} [Host σ]

/-- Notes an event in the journal and shows it to the host. -/
def emit (e : Event) : Task σ Unit :=
  modify fun s => { s with host := Host.observe e s.host, journal := e :: s.journal }

/-- Prints a line on the console. -/
def print (text : String) : Task σ Unit := emit (.line text)

/-- What the host answers. -/
def ask {α : Type} (f : σ → α) : Task σ α := return f (← get).host

/-- Has the host do something. -/
def perform {α : Type} (f : σ → α × σ) : Task σ α :=
  modifyGet fun s => let (a, h) := f s.host; (a, { s with host := h })

/-- Works in the pidfile directory. -/
def inFolder {α : Type} (t : FolderTask α) : Task σ (Except SystemError α) :=
  modifyGet fun s => let (r, f) := t.on s.pids; (r, { s with pids := f })

/-- Sends a signal. -/
def send (signal : Signal) (recipient : Recipient) : Task σ (Except SystemError Unit) := do
  emit (.sent signal recipient)
  perform (Host.signal signal recipient)

/-! ### The shutdown token -/

/-- Takes note of news from outside. The first signal cancels the token; later ones, and those
after a cancellation, are ignored. -/
def hear : News → Task σ Unit
  | .cancelled => modify fun s => { s with cancelled := true }
  | .signalled => do
    if (← get).cancelled then return
    emit .shutdownRequested
    print ""
    print "⚠️  Interrupted, cleaning up..."
    modify fun s => { s with cancelled := true }

/-- Takes note of the news that the host has. -/
def listen : Task σ Unit := do
  match ← perform Host.news? with
  | some n => hear n
  | none => return ()

/-! ### Reading -/

/-- Looks at one stream of a child, if it is still open. -/
def lookAt (pid : Pid) (s : Stream) (r : LineReader) : Task σ (LineReader × Option ReadEvent) := do
  if (r.channel s).isOpen then return r.absorb s (← perform (Host.look pid s))
  else return (r, none)

/-- Looks at both streams of a child until one of them gives an event. -/
def lookOnce (pid : Pid) (r : LineReader) : Task σ (LineReader × Option ReadEvent) := do
  let s ← perform Host.firstStream
  let (r, e) ← lookAt pid s r
  if e.isSome then return (r, e)
  lookAt pid s.other r

/-- The line of a child as it is echoed: indented, with a label. -/
def echoText (label : String) (text : List Char) : String := s!"   {label}: {String.ofList text}"

/-- Echoes what a child has written, up to `fuel` lines. -/
def forward (fuel : Nat) (f : Forwarder) : Task σ Forwarder := do
  match fuel with
  | 0 => return f
  | fuel + 1 =>
    if f.reader.isClosed then return f
    let (r, e) ← lookOnce f.pid f.reader.renew
    let f := { f with reader := r }
    match e with
    | none => return f
    | some (.line bytes) =>
      print (echoText f.label (Text.Utf8.decodeLossy bytes))
      forward fuel f
    | some .streamClosed => forward fuel f
    | some .allClosed => return f

/-- Lets all background echoing catch up. -/
def forwardAll : Task σ Unit := do
  let fuel ← ask Host.patience
  let fs ← (← get).forwarders.mapM (forward fuel)
  modify fun s => { s with forwarders := fs }

/-- Echoes a child's further output in the background. -/
def startForwarder (f : Forwarder) : Task σ Unit :=
  modify fun s => { s with forwarders := s.forwarders ++ [f] }

def stopForwarder (pid : Pid) : Task σ Unit :=
  modify fun s => { s with forwarders := s.forwarders.filter (·.pid ≠ pid) }

/-! ### Waiting -/

/-- Ends the task if the token is cancelled and the task may be interrupted. -/
def checkpoint : Task σ Unit := do
  let s ← get
  if s.interruptible && s.cancelled then throw .interrupted

/-- Waits; meanwhile the background work goes on. -/
def await (w : Wait) (limit : Option Instant) : Task σ Unit := do
  let cut := (← get).interruptible
  modify fun s => { s with host := Host.await w limit cut s.host }
  listen
  forwardAll
  checkpoint

def sleep (d : Millis) : Task σ Unit := do
  await .nothing (some ((← ask Host.now) + d))

/-- Runs a program and waits until it ends or the limit has passed. -/
def capture (launch : Launch) (limit : Millis) : Task σ (Option (Except SystemError Captured)) := do
  let r ← perform (Host.capture launch (some limit))
  listen
  forwardAll
  checkpoint
  return r

/-- Runs a task that can or cannot be interrupted. -/
def withInterrupts {α : Type} (allowed : Bool) (t : Task σ α) : Task σ α := do
  let before := (← get).interruptible
  modify fun s => { s with interruptible := allowed }
  try t
  finally modify fun s => { s with interruptible := before }

end Task

end LatencyHarness
