/-! Blank characters (the Unicode property `White_Space`) and the trimming and splitting that
depend on them. -/
namespace LatencyHarness.Text

/-- Characters with the Unicode property `White_Space`. -/
def isBlank (c : Char) : Bool :=
  let n := c.toNat
  (9 ≤ n && n ≤ 13) || n == 0x20 || n == 0x85 || n == 0xA0 || n == 0x1680 ||
    (0x2000 ≤ n && n ≤ 0x200A) || n == 0x2028 || n == 0x2029 || n == 0x202F ||
    n == 0x205F || n == 0x3000

def trimStart (s : List Char) : List Char := s.dropWhile isBlank

def trimEnd (s : List Char) : List Char := (s.reverse.dropWhile isBlank).reverse

/-- The text without the blanks around it. -/
def trim (s : List Char) : List Char := trimEnd (trimStart s)

/-- A text is blank when nothing is left of it after trimming. -/
def isBlankText (s : List Char) : Bool := s.all isBlank

/-- The longest runs of characters that are not blank, in order. -/
def fields : List Char → List (List Char)
  | [] => []
  | c :: r =>
    if isBlank c then fields r
    else (c :: r.takeWhile (!isBlank ·)) :: fields (r.dropWhile (!isBlank ·))
  termination_by s => s.length
  decreasing_by
    · exact Nat.lt_succ_self _
    · exact Nat.lt_succ_of_le (List.IsSuffix.length_le (List.dropWhile_suffix _))

end LatencyHarness.Text
