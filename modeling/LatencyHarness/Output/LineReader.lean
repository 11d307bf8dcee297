import LatencyHarness.Text.Lines
import LatencyHarness.Text.Utf8

/-! Reading the two output streams of a process line by line.

A reader keeps, for each stream, the bytes of a line that is not finished yet. Each look at a
stream brings what has arrived up to the end of a line; `LineReader.absorb` says what the reader
makes of it. -/
namespace LatencyHarness

open Text.Utf8 (Bytes)

inductive Stream where
  | out
  | err
  deriving DecidableEq, Repr

def Stream.other : Stream → Stream
  | out => err
  | err => out

/-- Where one look at a stream ended. -/
inductive Stop where
  /-- a line feed, the last of the bytes -/
  | lineFeed
  /-- nothing more has arrived yet -/
  | pending
  | ended
  | failed
  deriving DecidableEq, Repr

/-- What one look at a stream brings. -/
structure Arrival where
  bytes : Bytes
  stop : Stop
  deriving DecidableEq, Repr

/-- What an attempt to read gives. -/
inductive ReadEvent where
  | line (bytes : Bytes)
  /-- one of the streams has come to its end or failed -/
  | streamClosed
  /-- nothing more will ever arrive -/
  | allClosed
  deriving DecidableEq, Repr

/-- One stream from the reader's side: whether it is still read, the unfinished line, and
whether the current attempt has added to it. -/
structure Channel where
  isOpen : Bool
  held : Bytes
  fresh : Bool
  deriving DecidableEq, Repr

namespace Channel

def start (isOpen : Bool) : Channel := ⟨isOpen, [], false⟩

def closed : Channel := start false

/-- The bytes of a line without its line feed and a carriage return before that. -/
def finish (held : Bytes) : Bytes :=
  if held.getLast? = some Text.LineBreak.byte.feed
  then Text.dropReturn .byte held.dropLast else held

/-- What a stream's state becomes, and what there is to report. At the end of the stream the
unfinished line is reported first; if the attempt that saw the end has added to it, the close is
left to the next attempt. -/
def absorb (c : Channel) (a : Arrival) : Channel × Option ReadEvent :=
  let held := c.held ++ a.bytes
  let fresh := c.fresh || !a.bytes.isEmpty
  match a.stop with
  | .lineFeed => (start true, some (.line (finish held)))
  | .pending => (⟨true, held, fresh⟩, none)
  | .ended =>
    if fresh then (start true, some (.line (finish held)))
    else (closed, some (if held.isEmpty then .streamClosed else .line (finish held)))
  | .failed => (closed, some .streamClosed)

end Channel

/-- A reader of both streams. -/
structure LineReader where
  out : Channel
  err : Channel
  deriving DecidableEq, Repr

namespace LineReader

/-- A reader at the beginning of the streams that exist. -/
def ofStreams (out err : Bool) : LineReader := ⟨.start out, .start err⟩

def closed : LineReader := ofStreams false false

def isClosed (r : LineReader) : Bool := !r.out.isOpen && !r.err.isOpen

def channel (r : LineReader) : Stream → Channel
  | .out => r.out
  | .err => r.err

def set (r : LineReader) (s : Stream) (c : Channel) : LineReader :=
  match s with
  | .out => { r with out := c }
  | .err => { r with err := c }

@[simp] theorem channel_set (r : LineReader) (s t : Stream) (c : Channel) :
    (r.set s c).channel t = if t = s then c else r.channel t := by
  cases s <;> cases t <;> rfl

/-- The reader at the beginning of a new attempt. -/
def renew (r : LineReader) : LineReader :=
  ⟨{ r.out with fresh := false }, { r.err with fresh := false }⟩

/-- The reader after a look at one stream. -/
def absorb (r : LineReader) (s : Stream) (a : Arrival) : LineReader × Option ReadEvent :=
  let (c, e) := (r.channel s).absorb a
  (r.set s c, e)

end LineReader

end LatencyHarness
