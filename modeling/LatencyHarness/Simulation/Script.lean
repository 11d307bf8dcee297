import LatencyHarness.Readiness.Watch

/-! A host with one child that lives and whose output is known beforehand.

The output of each stream is a list of pieces with the times of their arrival; a look gets what has
arrived, up to the end of a line. Reading takes no time. A wait for output ends when more of it
arrives, and any other wait takes as long as it may. -/
namespace LatencyHarness.Simulation

open Text (LineBreak)
open Text.Utf8 (Bytes)

structure Script where
  clock : Instant
  patience : Nat
  /-- what has not been read yet of the first stream, and the same of the second -/
  out : List (Instant × Bytes)
  err : List (Instant × Bytes)
  /-- whether the streams are closed after that, or stay open -/
  closes : Bool
  /-- which stream comes first in the next looks; after that it is always the first one -/
  choices : List Stream
  deriving DecidableEq, Repr

namespace Script

def child : Pid := 7

def pieces (stream : Stream) (c : Script) : List (Instant × Bytes) :=
  match stream with
  | .out => c.out
  | .err => c.err

def withPieces (stream : Stream) (pieces : List (Instant × Bytes)) (c : Script) : Script :=
  match stream with
  | .out => { c with out := pieces }
  | .err => { c with err := pieces }

/-- What one look takes: the bytes, whether they end a line, and what is left. -/
def take (now : Instant) : List (Instant × Bytes) → Bytes × Bool × List (Instant × Bytes)
  | [] => ([], false, [])
  | (time, bytes) :: pieces =>
    if now < time then ([], false, (time, bytes) :: pieces)
    else match bytes.dropWhile (· ≠ LineBreak.byte.feed) with
      | [] =>
        let (more, found, left) := take now pieces
        (bytes ++ more, found, left)
      | _ :: rest =>
        (bytes.takeWhile (· ≠ LineBreak.byte.feed) ++ [LineBreak.byte.feed], true,
          (time, rest) :: pieces)

def look (pid : Pid) (stream : Stream) (c : Script) : Arrival × Script :=
  if pid ≠ child then (⟨[], .ended⟩, c)
  else
    let (bytes, found, left) := take c.clock (c.pieces stream)
    let stop := if found then .lineFeed else if left.isEmpty && c.closes then .ended else .pending
    (⟨bytes, stop⟩, c.withPieces stream left)

/-- The time of the next arrival on a stream. -/
def next? (stream : Stream) (c : Script) : Option Instant :=
  ((c.pieces stream).map (·.1)).find? (c.clock < ·)

/-- The clock after a wait. -/
def await (w : Wait) (limit : Option Instant) (c : Script) : Instant :=
  match w with
  | .output _ =>
    let ends := limit.toList ++ (c.next? .out).toList ++ (c.next? .err).toList
    max c.clock (ends.min?.getD c.clock)
  | .nothing | .exit _ => max c.clock (limit.getD c.clock)

instance : Host Script where
  patience c := c.patience
  selfPid _ := 2
  ownGroup _ := 2
  now c := c.clock
  wallClock _ := ⟨⟨2024, 5, 1⟩, 0, 0⟩
  isFile _ _ := true
  bindable _ _ := true
  hasProcess _ _ := false
  processes _ := []
  observe _ c := c
  await w limit _ c := { c with clock := c.await w limit }
  news? c := (none, c)
  spawn _ _ c := (.error (.errno 11), c)
  spawn_le hspawn := by cases hspawn
  exitStatus? _ _ := .ok none
  signal _ _ c := (.ok (), c)
  firstStream c := (c.choices.headD .out, { c with choices := c.choices.tail })
  look pid stream c := c.look pid stream
  capture _ _ c := (none, c)

/-- What a stream has still to give. -/
def unread (stream : Stream) (c : Script) : Bytes := (c.pieces stream).flatMap (·.2)

/-- What has arrived of it by some time. -/
def arrived (stream : Stream) (time : Instant) (c : Script) : Bytes :=
  ((c.pieces stream).takeWhile (·.1 ≤ time)).flatMap (·.2)

end Script

end LatencyHarness.Simulation
