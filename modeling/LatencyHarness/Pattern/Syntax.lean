/-! The syntax trees of patterns. -/
namespace LatencyHarness.Pattern

/-- A property that a pattern asks for, as it is written. -/
inductive PropertyQuery where
  | named (name : List Char)
  | valued (name value : List Char)

inductive PerlClass where
  | digit
  | space
  | word

inductive Assertion where
  | startLine
  | endLine
  | startText
  | endText
  | wordBoundary
  | notWordBoundary
  | wordStart
  | wordEnd
  | wordStartHalf
  | wordEndHalf

/-- A character written out; `byte` marks one written as two hexadecimal digits. -/
structure Literal where
  char : Char
  byte : Bool

inductive SetOperator where
  | intersection
  | difference
  | symmetricDifference

/-- What stands between square brackets. -/
inductive SetSyntax where
  | literal (l : Literal)
  | range (first last : Literal)
  | ascii (name : String) (negated : Bool)
  | property (query : PropertyQuery) (negated : Bool)
  | perl (kind : PerlClass) (negated : Bool)
  | bracketed (negated : Bool) (inner : SetSyntax)
  | union (items : List SetSyntax)
  | operation (op : SetOperator) (left right : SetSyntax)

inductive Flag where
  | caseInsensitive
  | multiLine
  | dotMatchesNewLine
  | swapGreed
  | unicode
  | crlf
  | ignoreWhitespace
  deriving DecidableEq

/-- Flags and the values they are given. -/
abbrev FlagSetting := List (Flag × Bool)

inductive Tree where
  | empty
  | flags (setting : FlagSetting)
  | literal (l : Literal)
  | dot
  | assertion (a : Assertion)
  | property (query : PropertyQuery) (negated : Bool)
  | perl (kind : PerlClass) (negated : Bool)
  | bracketed (negated : Bool) (set : SetSyntax)
  | repetition (inner : Tree) (least : Nat) (most : Option Nat)
  | group (setting : FlagSetting) (inner : Tree)
  | concat (parts : List Tree)
  | alternation (branches : List Tree)

mutual

/-- How deeply brackets and operators nest. -/
def SetSyntax.depth : SetSyntax → Nat
  | .bracketed _ s => s.depth + 1
  | .union [] => 0
  | .union (s :: r) => SetSyntax.depths (s :: r) + 1
  | .operation _ l r => max l.depth r.depth + 1
  | _ => 0

def SetSyntax.depths : List SetSyntax → Nat
  | [] => 0
  | s :: r => max s.depth (SetSyntax.depths r)

end

mutual

/-- How deeply groups, repetitions, sequences and brackets nest. -/
def Tree.depth : Tree → Nat
  | .bracketed _ s => s.depth + 1
  | .repetition t _ _ => t.depth + 1
  | .group _ t => t.depth + 1
  | .concat ts => Tree.depths ts + 1
  | .alternation ts => Tree.depths ts + 1
  | _ => 0

def Tree.depths : List Tree → Nat
  | [] => 0
  | t :: r => max t.depth (Tree.depths r)

end

/-- A sequence as a tree: no node of its own for fewer than two parts. -/
def Tree.ofParts : List Tree → Tree
  | [] => .empty
  | [t] => t
  | ts => .concat ts

/-- Items as one set: no node of its own for a single item. -/
def SetSyntax.ofItems : List SetSyntax → SetSyntax
  | [s] => s
  | items => .union items

end LatencyHarness.Pattern
