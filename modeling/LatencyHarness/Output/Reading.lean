import LatencyHarness.Session

/-! Waiting for the output of a child.

`Reading.event` waits for the next event, `Reading.line` for a line but only for so long, and
`Reading.lineUntilClosed` for a line as long as any may come. What has arrived of an unfinished
line stays with the reader. -/
namespace LatencyHarness.Reading

open Text.Utf8 (Bytes)

variable {σ : Type} [Host σ]

/-- Looks and waits in turn, up to `fuel` times, until there is an event or the limit is
reached. -/
def eventWithin (pid : Pid) (limit : Option Instant) :
    Nat → LineReader → Task σ (LineReader × Option ReadEvent)
  | 0, _ => throw .exhausted
  | fuel + 1, r => do
    if r.isClosed then return (r, some .allClosed)
    let (r, e) ← Task.lookOnce pid r
    if e.isSome then return (r, e)
    if limit.any (· ≤ (← Task.ask Host.now)) then return (r, none)
    Task.await (.output pid) limit
    eventWithin pid limit fuel r

/-- The next event, unless the limit is reached before. -/
def event (pid : Pid) (limit : Option Instant) (r : LineReader) :
    Task σ (LineReader × Option ReadEvent) := do
  eventWithin pid limit (← Task.ask Host.patience) r.renew

/-- The next line if one comes within `wait`. A stream that closes ends the wait too. -/
def line (pid : Pid) (wait : Millis) (r : LineReader) : Task σ (LineReader × Option Bytes) := do
  if r.isClosed then return (r, none)
  let limit := (← Task.ask Host.now) + wait
  let (r, e) ← event pid (some limit) r
  match e with
  | some (.line bytes) => return (r, some bytes)
  | _ => return (r, none)

/-- The next line, up to `fuel` events from here. -/
def lineWithin (pid : Pid) : Nat → LineReader → Task σ (LineReader × Option Bytes)
  | 0, _ => throw .exhausted
  | fuel + 1, r => do
    let (r, e) ← event pid none r
    match e with
    | some (.line bytes) => return (r, some bytes)
    | some .allClosed => return (r, none)
    | some .streamClosed | none => lineWithin pid fuel r

/-- The next line, or none once both streams are closed. -/
def lineUntilClosed (pid : Pid) (r : LineReader) : Task σ (LineReader × Option Bytes) := do
  lineWithin pid (← Task.ask Host.patience) r

end LatencyHarness.Reading
