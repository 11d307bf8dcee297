/-! Cutting a sequence into lines.

A line ends before a line feed; one carriage return directly before that line feed belongs to
the line break. What follows the last line feed is a line of its own unless it is empty, and
keeps its carriage returns. -/
namespace LatencyHarness.Text

variable {α : Type} [DecidableEq α]

/-- The two characters a line break is made of. -/
structure LineBreak (α : Type) where
  feed : α
  ret : α

def LineBreak.char : LineBreak Char := ⟨'\n', '\r'⟩

def LineBreak.byte : LineBreak UInt8 := ⟨10, 13⟩

/-- The line without a carriage return at its end. -/
def dropReturn (b : LineBreak α) (l : List α) : List α :=
  if l.getLast? = some b.ret then l.dropLast else l

/-- The lines of a sequence. -/
def splitLines (b : LineBreak α) (s : List α) : List (List α) :=
  match _h : s.dropWhile (· ≠ b.feed) with
  | [] => if s.isEmpty then [] else [s]
  | _ :: rest => dropReturn b (s.takeWhile (· ≠ b.feed)) :: splitLines b rest
  termination_by s.length
  decreasing_by
    have := List.IsSuffix.length_le (List.dropWhile_suffix (l := s) (· ≠ b.feed))
    simp only [_h, List.length_cons] at this
    omega

/-- The lines of a text. -/
def lines (s : List Char) : List (List Char) := splitLines .char s

end LatencyHarness.Text
