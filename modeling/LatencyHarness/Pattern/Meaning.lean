import LatencyHarness.Pattern.Expr
import LatencyHarness.Pattern.Parser
import LatencyHarness.Pattern.Unicode.CaseFold
import LatencyHarness.Pattern.Unicode.Script

/-! What a syntax tree matches, under the flags in force where each of its parts stands. -/
namespace LatencyHarness.Pattern

/-- The flags in force. -/
structure Mode where
  caseInsensitive : Bool
  multiLine : Bool
  dotMatchesNewLine : Bool
  unicode : Bool
  crlf : Bool

namespace Mode

def initial : Mode := ⟨false, false, false, true, false⟩

def set (m : Mode) : Flag × Bool → Mode
  | (.caseInsensitive, b) => { m with caseInsensitive := b }
  | (.multiLine, b) => { m with multiLine := b }
  | (.dotMatchesNewLine, b) => { m with dotMatchesNewLine := b }
  | (.unicode, b) => { m with unicode := b }
  | (.crlf, b) => { m with crlf := b }
  | (.swapGreed, _) => m
  | (.ignoreWhitespace, _) => m

def apply (m : Mode) (setting : FlagSetting) : Mode := setting.foldl set m

end Mode

/-! ### Classes -/

/-- Folds a property's name: lower case, without separators and without a leading `is`. -/
def foldName (name : List Char) : String :=
  let lower := name.map Char.toLower
  let (isName, body) := match lower with
    | 'i' :: 's' :: r => (true, r)
    | r => (false, r)
  let kept := body.filter fun c => c != ' ' && c != '_' && c != '-' && c.toNat ≤ 0x7F
  if isName && kept == ['c'] then "isc" else String.ofList kept

def asciiSet : CharSet := ⟨[(0, 0x7F)]⟩

def category? : String → Option CharSet
  | "any" => some .full
  | "assigned" => (Unicode.category? "cn").map (·.compl)
  | "ascii" => some asciiSet
  | name => Unicode.category? name

/-- The set of a property named on its own: a binary property, a category or a script. -/
def namedProperty? (name : String) : Option CharSet :=
  let binary := if ["cf", "sc", "lc"].contains name then none else Unicode.property? name
  binary.or ((category? name).or (Unicode.script? name))

def propertySet? : PropertyQuery → Option CharSet
  | .named name => namedProperty? (foldName name)
  | .valued name value =>
    match foldName name with
    | "generalcategory" | "gc" | "category" => category? (foldName value)
    | "script" | "sc" | "scriptextensions" | "scx" => Unicode.script? (foldName value)
    | _ => none

def asciiDigit : CharSet := ⟨[(48, 57)]⟩
def asciiSpace : CharSet := ⟨[(9, 13), (32, 32)]⟩
def asciiWord : CharSet := ⟨[(48, 57), (65, 90), (95, 95), (97, 122)]⟩

def unicodeDigit : CharSet := Unicode.ofCategories ["Nd"]

def unicodeSpace : CharSet := Unicode.ofToggles (Unicode.readToggles Unicode.whiteSpaceText)

def unicodeWord : CharSet :=
  (Unicode.alphabetic.union (Unicode.ofCategories ["Mn", "Mc", "Me", "Nd", "Pc"])).union
    (Unicode.ofToggles (Unicode.readToggles Unicode.joinControlText))

def perlSet (m : Mode) : PerlClass → CharSet
  | .digit => if m.unicode then unicodeDigit else asciiDigit
  | .space => if m.unicode then unicodeSpace else asciiSpace
  | .word => if m.unicode then unicodeWord else asciiWord

def asciiNamed : String → CharSet
  | "alnum" => ⟨[(48, 57), (65, 90), (97, 122)]⟩
  | "alpha" => ⟨[(65, 90), (97, 122)]⟩
  | "ascii" => asciiSet
  | "blank" => ⟨[(9, 9), (32, 32)]⟩
  | "cntrl" => ⟨[(0, 31), (127, 127)]⟩
  | "digit" => asciiDigit
  | "graph" => ⟨[(33, 126)]⟩
  | "lower" => ⟨[(97, 122)]⟩
  | "print" => ⟨[(32, 126)]⟩
  | "punct" => ⟨[(33, 47), (58, 64), (91, 96), (123, 126)]⟩
  | "space" => asciiSpace
  | "upper" => ⟨[(65, 90)]⟩
  | "word" => asciiWord
  | "xdigit" => ⟨[(48, 57), (65, 70), (97, 102)]⟩
  | _ => .empty

/-- Adds the other case of the ASCII letters of a set. -/
def foldAscii (s : CharSet) : CharSet :=
  let lower := (s.inter ⟨[(65, 90)]⟩).ranges.map fun (x, y) => (x + 32, y + 32)
  let upper := (s.inter ⟨[(97, 122)]⟩).ranges.map fun (x, y) => (x - 32, y - 32)
  s.union (.ofRanges (lower ++ upper))

def Mode.fold (m : Mode) (s : CharSet) : CharSet :=
  if !m.caseInsensitive then s
  else if m.unicode then Unicode.foldCase s else foldAscii s

/-- A set with the case flag applied, negated if asked. Without the Unicode flag a set may only
hold ASCII, so nothing can be negated. -/
def Mode.close? (m : Mode) (negated : Bool) (s : CharSet) : Option CharSet :=
  let folded := m.fold s
  if m.unicode then some (if negated then folded.compl else folded)
  else if negated then none
  else some folded

/-- The character of a literal inside brackets. -/
def Mode.setChar? (m : Mode) (l : Literal) : Option Char :=
  if m.unicode || l.char.toNat ≤ 0x7F then some l.char else none

mutual

def setOf? (m : Mode) : SetSyntax → Option CharSet
  | .literal l => (m.setChar? l).map .single
  | .range a b => do
    let x ← m.setChar? a
    let y ← m.setChar? b
    some (.range x y)
  | .ascii name negated => m.close? negated (asciiNamed name)
  | .property q negated =>
    if !m.unicode then none else do
      let s ← propertySet? q
      m.close? negated s
  | .perl k negated =>
    if !negated then some (perlSet m k)
    else if m.unicode then some (perlSet m k).compl
    else none
  | .bracketed negated s => (setOf? m s).bind (m.close? negated)
  | .union items => unionOf? m items
  | .operation op l r => do
    let a ← setOf? m l
    let b ← setOf? m r
    let a := m.fold a
    let b := m.fold b
    some (match op with
      | .intersection => a.inter b
      | .difference => a.diff b
      | .symmetricDifference => a.symmDiff b)

def unionOf? (m : Mode) : List SetSyntax → Option CharSet
  | [] => some .empty
  | s :: r => do
    let a ← setOf? m s
    let b ← unionOf? m r
    some (a.union b)

end

/-! ### Trees -/

/-- A character outside brackets. Two hexadecimal digits without the Unicode flag mean a byte,
which must be ASCII. -/
def literalExpr? (m : Mode) (l : Literal) : Option Expr :=
  if !m.unicode && l.byte && l.char.toNat > 0x7F then none
  else some (.oneOf (m.fold (.single l.char)))

def dotExpr? (m : Mode) : Option Expr :=
  if !m.unicode then none
  else if m.dotMatchesNewLine then some (.oneOf .full)
  else if m.crlf then some (.oneOf (CharSet.compl ⟨[(10, 10), (13, 13)]⟩))
  else some (.oneOf (CharSet.compl ⟨[(10, 10)]⟩))

def lookOf (m : Mode) (a : Assertion) : Look :=
  let word := perlSet m .word
  match a with
  | .startLine =>
    if m.multiLine then (if m.crlf then .crlfLineStart else .lineStart) else .textStart
  | .endLine => if m.multiLine then (if m.crlf then .crlfLineEnd else .lineEnd) else .textEnd
  | .startText => .textStart
  | .endText => .textEnd
  | .wordBoundary => .wordBoundary word
  | .notWordBoundary => .notWordBoundary word
  | .wordStart => .wordStart word
  | .wordEnd => .wordEnd word
  | .wordStartHalf => .wordStartHalf word
  | .wordEndHalf => .wordEndHalf word

mutual

/-- The expression of a tree and the flags in force after it. Flags set inside a group end with
it; set in one branch they go on in the next. -/
def exprOf? (m : Mode) : Tree → Option (Expr × Mode)
  | .empty => some (.empty, m)
  | .flags setting => some (.empty, m.apply setting)
  | .literal l => (literalExpr? m l).map (·, m)
  | .dot => (dotExpr? m).map (·, m)
  | .assertion a => some (.look (lookOf m a), m)
  | .property q negated => (setOf? m (.property q negated)).map fun s => (.oneOf s, m)
  | .perl k negated => (setOf? m (.perl k negated)).map fun s => (.oneOf s, m)
  | .bracketed negated s => (setOf? m (.bracketed negated s)).map fun s => (.oneOf s, m)
  | .repetition t least most => (exprOf? m t).map fun (e, m) => (.rep e least most, m)
  | .group setting t => (exprOf? (m.apply setting) t).map fun (e, _) => (e, m)
  | .concat ts => concatOf? m ts
  | .alternation ts => branchesOf? m ts

def concatOf? (m : Mode) : List Tree → Option (Expr × Mode)
  | [] => some (.empty, m)
  | t :: ts => do
    let (e, m) ← exprOf? m t
    let (f, m) ← concatOf? m ts
    some (.cat e f, m)

def branchesOf? (m : Mode) : List Tree → Option (Expr × Mode)
  | [] => some (.oneOf .empty, m)
  | t :: ts => do
    let (e, m) ← exprOf? m t
    let (f, m) ← branchesOf? m ts
    some (.alt e f, m)

end

end LatencyHarness.Pattern
