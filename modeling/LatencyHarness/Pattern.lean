import LatencyHarness.Pattern.Meaning

/-! Patterns for command lines: regular expressions that are looked for anywhere in a text. -/
namespace LatencyHarness

/-- A pattern that is well formed, with its text. -/
structure Pattern where
  text : String
  expr : Pattern.Expr

namespace Pattern

/-- The parts of a range of characters when it is laid out byte by byte. -/
def rangeWeight (first last : Nat) : Nat :=
  if last < 0x80 then 1 else if first == last then 2 else 4

/-- What an expression takes in memory once it is laid out state by state. -/
def Expr.weight : Expr → Nat
  | empty => 32
  | oneOf s => 32 + 24 * s.ranges.foldr (fun (a, b) n => n + rangeWeight a b) 0
  | look _ => 32
  | cat e f => e.weight + f.weight
  | alt e f => e.weight + f.weight + 32
  | rep e least most => e.weight * max 1 (most.getD (least + 1)) + 32

/-- Expressions heavier than this are refused. -/
def weightLimit : Nat := 10485760

/-- The pattern of a text, unless it is malformed or too large. -/
def ofString? (text : String) : Option Pattern := do
  let tree ← parseTree? text.toList
  let (expr, _) ← exprOf? .initial tree
  if expr.weight ≤ weightLimit then some ⟨text, expr⟩ else none

/-- Whether the pattern matches some part of a text. -/
def isMatch (p : Pattern) (text : String) : Bool := p.expr.isMatch text.toList

/-- Whether one of the patterns matches. -/
def anyMatch (ps : List Pattern) (text : String) : Bool := ps.any (·.isMatch text)

/-- A text that is no pattern, with the reason in words. -/
structure Refusal where
  text : String
  reason : String
  deriving DecidableEq, Repr

/-- The words in which a text is refused. Which texts are refused does not depend on them, so they
are left open. -/
class Wording where
  reason : String → String

instance (priority := low) : Wording := ⟨fun _ => "not a regular expression"⟩

/-- The patterns of some texts, or the refusal of the first text that is none. -/
def compile [Wording] : List String → Except Refusal (List Pattern)
  | [] => .ok []
  | t :: ts =>
    match ofString? t with
    | none => .error ⟨t, Wording.reason t⟩
    | some p => (compile ts).map (p :: ·)

end Pattern

end LatencyHarness
