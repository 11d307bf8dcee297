import LatencyHarness.Text.Utf8

/-! File paths as byte sequences. -/
namespace LatencyHarness

structure Path where
  bytes : List UInt8
  deriving DecidableEq, Repr

namespace Path

def slash : UInt8 := 47

def ofString (s : String) : Path := ⟨Text.Utf8.encode s.toList⟩

/-- The path as it is shown in messages. -/
def text (p : Path) : String := String.ofList (Text.Utf8.decodeLossy p.bytes)

def isAbsolute (p : Path) : Bool := p.bytes.head? == some slash

/-- The path of `q` seen from `p`: an absolute path stays as it is, any other is put after `p`
with one slash between them. -/
def join (p q : Path) : Path :=
  if q.isAbsolute then q
  else if p.bytes.isEmpty || p.bytes.getLast? == some slash then ⟨p.bytes ++ q.bytes⟩
  else ⟨p.bytes ++ slash :: q.bytes⟩

end Path

end LatencyHarness
