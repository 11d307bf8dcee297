import LatencyHarness.Pattern.CharSet

/-! Compact tables of code points: runs with a label, and runs that in turn lack and have a
property. -/
namespace LatencyHarness.Pattern.Unicode

def hexDigit (c : Char) : Nat :=
  if c.isDigit then c.toNat - '0'.toNat else c.toNat - 'A'.toNat + 10

def hexValue (s : List Char) : Nat := s.foldl (fun n c => n * 16 + hexDigit c) 0

/-- The words of a text whose words are separated by single spaces. -/
def words (s : String) : List (List Char) :=
  let (last, done) := s.toList.foldr
    (fun c (word, done) => if c == ' ' then ([], word :: done) else (c :: word, done)) ([], [])
  last :: done

/-- Words made of a label of `width` characters and a run length. -/
def readRuns (width : Nat) (text : List String) : List (String × Nat) :=
  (text.flatMap words).map fun w => (String.ofList (w.take width), hexValue (w.drop width))

def readToggles (text : List String) : List Nat := (text.flatMap words).map hexValue

/-- The code points of the runs whose label is wanted. -/
def ofRuns (wanted : String → Bool) (runs : List (String × Nat)) : CharSet :=
  let (_, ranges) := runs.foldl
    (fun (start, found) (label, n) =>
      (start + n, if wanted label then (start, start + n - 1) :: found else found)) (0, [])
  .ofRanges ranges.reverse

/-- The code points of every second run. -/
def ofToggles (lengths : List Nat) : CharSet :=
  let (start, inside, found) := lengths.foldl
    (fun (start, inside, found) n =>
      (start + n, !inside, if inside then (start, start + n - 1) :: found else found))
    (0, false, ([] : List (Nat × Nat)))
  .ofRanges (if inside then (start, 0x10FFFF) :: found else found)

end LatencyHarness.Pattern.Unicode
