import LatencyHarness.Pattern.CharSet

/-! Regular expressions over characters, and whether one matches somewhere in a text.

A set of positions in the text is a number: bit `i` stands for the place before character `i`.
An expression moves such a set to the set of places where a match that starts in it may end. -/
namespace LatencyHarness.Pattern

/-- A condition on a place in the text. -/
inductive Look where
  | textStart
  | textEnd
  | lineStart
  | lineEnd
  | crlfLineStart
  | crlfLineEnd
  | wordBoundary (word : CharSet)
  | notWordBoundary (word : CharSet)
  | wordStart (word : CharSet)
  | wordEnd (word : CharSet)
  | wordStartHalf (word : CharSet)
  | wordEndHalf (word : CharSet)

/-- Whether the condition holds between two characters; none means the text ends there. -/
def Look.holds (before after : Option Char) : Look → Bool
  | textStart => before.isNone
  | textEnd => after.isNone
  | lineStart => before.isNone || before == some '\n'
  | lineEnd => after.isNone || after == some '\n'
  | crlfLineStart =>
    before.isNone || before == some '\n' || (before == some '\r' && after != some '\n')
  | crlfLineEnd =>
    after.isNone || after == some '\r' || (after == some '\n' && before != some '\r')
  | wordBoundary w => before.any w.contains != after.any w.contains
  | notWordBoundary w => before.any w.contains == after.any w.contains
  | wordStart w => !before.any w.contains && after.any w.contains
  | wordEnd w => before.any w.contains && !after.any w.contains
  | wordStartHalf w => !before.any w.contains
  | wordEndHalf w => !after.any w.contains

inductive Expr where
  | empty
  | oneOf (s : CharSet)
  | look (l : Look)
  | cat (e f : Expr)
  | alt (e f : Expr)
  | rep (e : Expr) (least : Nat) (most : Option Nat)

namespace Expr

/-- The bits of the indices, from `i` on, at which a test holds. -/
def bits (test : Nat → Bool) (i : Nat) : Nat → Nat
  | 0 => 0
  | n + 1 => (if test i then 1 <<< i else 0) ||| bits test (i + 1) n

/-- Applies a step `n` times; a set that is empty or no longer changes stays as it is. -/
def power (step : Nat → Nat) : Nat → Nat → Nat
  | 0, s => s
  | n + 1, s => if s == 0 || step s == s then s else power step n (step s)

/-- What at most `n` steps reach. -/
def reach (step : Nat → Nat) : Nat → Nat → Nat
  | 0, s => s
  | n + 1, s => if s ||| step s == s then s else reach step n (s ||| step s)

/-- The places where a match that starts in `s` may end. A text of `n` characters lets a path of
more than `n + 1` steps stand still somewhere, so no repetition is followed further. -/
def ends (text : Array Char) : Expr → Nat → Nat
  | empty, s => s
  | oneOf c, s => (s &&& bits (fun i => text[i]?.any c.contains) 0 text.size) <<< 1
  | look l, s =>
    s &&& bits (fun i => l.holds (if i = 0 then none else text[i - 1]?) text[i]?) 0 (text.size + 1)
  | cat e f, s => f.ends text (e.ends text s)
  | alt e f, s => e.ends text s ||| f.ends text s
  | rep e least most, s =>
    let bound := text.size + 1
    let least' := min least bound
    let more := match most with
      | none => bound
      | some m => min (m - least) bound
    reach (e.ends text) more (power (e.ends text) least' s)

/-- Whether the expression matches some part of the text. -/
def isMatch (e : Expr) (text : List Char) : Bool :=
  e.ends text.toArray (1 <<< (text.length + 1) - 1) != 0

end Expr

end LatencyHarness.Pattern
