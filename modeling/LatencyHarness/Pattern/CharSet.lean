/-! Sets of characters, kept as ordered ranges of code points that neither meet nor touch. -/
namespace LatencyHarness.Pattern

structure CharSet where
  ranges : List (Nat × Nat)
  deriving DecidableEq, Repr

namespace CharSet

/-- Joins ordered ranges that meet or touch. -/
def join : List (Nat × Nat) → List (Nat × Nat)
  | [] => []
  | (a, b) :: rest =>
    match join rest with
    | [] => [(a, b)]
    | (c, d) :: more => if c ≤ b + 1 then (a, max b d) :: more else (a, b) :: (c, d) :: more

/-- The set of the code points in some ranges, given in any order. -/
def ofRanges (rs : List (Nat × Nat)) : CharSet :=
  ⟨join (rs.mergeSort fun r s => r.1 ≤ s.1)⟩

def empty : CharSet := ⟨[]⟩

def single (c : Char) : CharSet := ⟨[(c.toNat, c.toNat)]⟩

def range (a b : Char) : CharSet := ⟨[(a.toNat, b.toNat)]⟩

/-- Every character: the code points that are no surrogates. -/
def full : CharSet := ⟨[(0, 0xD7FF), (0xE000, 0x10FFFF)]⟩

def union (s t : CharSet) : CharSet := ofRanges (s.ranges ++ t.ranges)

/-- The gaps between ordered ranges, from `start` to the last code point. -/
def gaps (start : Nat) : List (Nat × Nat) → List (Nat × Nat)
  | [] => if start ≤ 0x10FFFF then [(start, 0x10FFFF)] else []
  | (a, b) :: rest =>
    if start < a then (start, a - 1) :: gaps (b + 1) rest else gaps (b + 1) rest

/-- The characters outside the set. -/
def compl (s : CharSet) : CharSet :=
  ⟨gaps 0 (ofRanges ((0xD800, 0xDFFF) :: s.ranges)).ranges⟩

def inter (s t : CharSet) : CharSet := (s.compl.union t.compl).compl

def diff (s t : CharSet) : CharSet := s.inter t.compl

/-- The characters that are in exactly one of two sets. -/
def symmDiff (s t : CharSet) : CharSet := (s.diff t).union (t.diff s)

def contains (s : CharSet) (c : Char) : Bool :=
  s.ranges.any fun r => r.1 ≤ c.toNat && c.toNat ≤ r.2

end CharSet

end LatencyHarness.Pattern
