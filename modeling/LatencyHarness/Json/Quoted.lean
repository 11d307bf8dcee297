import LatencyHarness.Text.Hex

/-! Text between quotation marks, as JSON writes it: quotes, backslashes and control characters are
escaped, everything else stands for itself. -/
namespace LatencyHarness.Json

/-- The short escapes: what is written after the backslash, and what it stands for. -/
def shortEscapes : List (Char × Char) :=
  [('"', '"'), ('\\', '\\'), ('b', '\x08'), ('f', '\x0c'), ('n', '\n'), ('r', '\r'), ('t', '\t')]

/-- The letter of the short escape for a character. -/
def escapeLetter? (c : Char) : Option Char := (shortEscapes.find? (·.2 = c)).map (·.1)

/-- A character inside quotes. -/
def escape (c : Char) : List Char :=
  match escapeLetter? c with
  | some l => ['\\', l]
  | none =>
    if c.toNat < 0x20 then
      ['\\', 'u', '0', '0', Text.Hex.digit (c.toNat / 16), Text.Hex.digit (c.toNat % 16)]
    else [c]

def quote (s : List Char) : List Char := '"' :: s.flatMap escape ++ ['"']

end LatencyHarness.Json
