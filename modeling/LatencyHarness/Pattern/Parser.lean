import LatencyHarness.Pattern.Syntax
import LatencyHarness.Pattern.Unicode.Properties
import LatencyHarness.Pattern.Unicode.Category
import LatencyHarness.Text.Blank
import LatencyHarness.Text.Numeral

/-! Reading patterns.

A reader takes what is left of the pattern and gives a piece of syntax with the rest after it, or
nothing where the pattern is refused. In extended mode blanks and comments between the pieces
are skipped. -/
namespace LatencyHarness.Pattern

open Text (isBlank)

abbrev Rest := List Char

/-- A reader of one piece. -/
abbrev Reader (α : Type) := Rest → Option (α × Rest)

mutual

def skipSpace : Rest → Rest
  | [] => []
  | c :: r => if isBlank c then skipSpace r else if c == '#' then skipComment r else c :: r

def skipComment : Rest → Rest
  | [] => []
  | c :: r => if c == '\n' then skipSpace r else skipComment r

end

/-- What is left once blanks and comments are skipped, in extended mode. -/
def skip (extended : Bool) (s : Rest) : Rest := if extended then skipSpace s else s

/-- What follows, with something left of it. -/
def more? (extended : Bool) (s : Rest) : Option Rest :=
  match skip extended s with
  | [] => none
  | s => some s

/-- Drops a fixed text from the front. -/
def eat? : List Char → Rest → Option Rest
  | [], s => some s
  | c :: cs, d :: r => if c == d then eat? cs r else none
  | _ :: _, [] => none

/-! ### Characters and classes by escape -/

/-- Characters with a meaning of their own somewhere in a pattern. -/
def isMeta (c : Char) : Bool := "\\.+*?()|[]{}^$#&-~".toList.contains c

/-- Characters that stand for themselves after a backslash. -/
def isEscapable (c : Char) : Bool :=
  isMeta c || (c.toNat < 0x80 && !c.isAlphanum && c != '<' && c != '>')

def hexDigit? (c : Char) : Option Nat :=
  if c.isDigit then some (c.toNat - 48)
  else if 'a' ≤ c ∧ c ≤ 'f' then some (c.toNat - 87)
  else if 'A' ≤ c ∧ c ≤ 'F' then some (c.toNat - 55)
  else none

/-- The character with a code point, if there is one. -/
def charOf? (n : Nat) : Option Char :=
  if n < 0xD800 ∨ (0xDFFF < n ∧ n < 0x110000) then some (.ofNat n) else none

/-- Exactly `n` hexadecimal digits. -/
def hexDigits (extended : Bool) : Nat → Nat → Reader Nat
  | 0, acc, s => some (acc, s)
  | n + 1, acc, s =>
    match s with
    | [] => none
    | c :: r =>
      match hexDigit? c with
      | none => none
      | some d => hexDigits extended n (acc * 16 + d) (skip extended r)

/-- Hexadecimal digits up to a closing brace, and how many there are. -/
def bracedDigits (extended : Bool) : Nat → Nat → Nat → Reader (Nat × Nat)
  | 0, _, _, _ => none
  | fuel + 1, count, acc, s =>
    match skip extended s with
    | [] => none
    | '}' :: r => some ((acc, count), r)
    | c :: r =>
      match hexDigit? c with
      | none => none
      | some d => bracedDigits extended fuel (count + 1) (acc * 16 + d) r

/-- The character after a backslash and `x`, `u` or `U`. -/
def readHex (extended : Bool) (width : Nat) : Reader Literal := fun s => do
  let s ← more? extended s
  match s with
  | '{' :: r =>
    let ((n, count), r) ← bracedDigits extended (r.length + 1) 0 0 r
    if count = 0 then none else
    let c ← charOf? n
    some (⟨c, false⟩, skip extended r)
  | s =>
    let (n, r) ← hexDigits extended width 0 s
    let c ← charOf? n
    some (⟨c, width = 2⟩, r)

/-- Everything up to the next closing brace, without blanks in extended mode. -/
def bracedName (extended : Bool) : Nat → List Char → Reader (List Char)
  | 0, _, _ => none
  | fuel + 1, acc, s =>
    match skip extended s with
    | [] => none
    | '}' :: r => some (acc.reverse, r)
    | c :: r => bracedName extended fuel (c :: acc) r

/-- Splits a text at the first place where a separator stands. -/
def splitAtFirst (sep : List Char) : List Char → Option (List Char × List Char)
  | [] => none
  | c :: r =>
    match eat? sep (c :: r) with
    | some after => some ([], after)
    | none => (splitAtFirst sep r).map fun (a, b) => (c :: a, b)

/-- The query in a property's braces, and whether it asks for the opposite. -/
def queryOf (name : List Char) : PropertyQuery × Bool :=
  match splitAtFirst ['!', '='] name with
  | some (n, v) => (.valued n v, true)
  | none =>
    match splitAtFirst [':'] name with
    | some (n, v) => (.valued n v, false)
    | none =>
      match splitAtFirst ['='] name with
      | some (n, v) => (.valued n v, false)
      | none => (.named name, false)

/-- The property after a backslash and `p` or `P`. -/
def readProperty (extended : Bool) : Reader (PropertyQuery × Bool) := fun s => do
  let s ← more? extended s
  match s with
  | '{' :: r =>
    let (name, r) ← bracedName extended (r.length + 1) [] r
    some (queryOf name, r)
  | '\\' :: _ => none
  | c :: r => some ((.named [c], false), skip extended r)
  | [] => none

/-- What an escape or a single character stands for. -/
inductive Primitive where
  | literal (l : Literal)
  | dot
  | assertion (a : Assertion)
  | property (query : PropertyQuery) (negated : Bool)
  | perl (kind : PerlClass) (negated : Bool)

def specialChar? : Char → Option Char
  | 'a' => some '\x07'
  | 'f' => some '\x0C'
  | 't' => some '\t'
  | 'n' => some '\n'
  | 'r' => some '\r'
  | 'v' => some '\x0B'
  | _ => none

/-- Letters of a word boundary's name; none where a repetition count may follow instead. -/
def boundaryName (extended : Bool) : Nat → List Char → Reader (List Char)
  | 0, _, _ => none
  | fuel + 1, acc, s =>
    match s with
    | [] => none
    | c :: r =>
      if c.isAlpha || c == '-' then boundaryName extended fuel (c :: acc) (skip extended r)
      else if c == '}' then some (acc.reverse, r)
      else none

/-- A word boundary, after its backslash and `b`. -/
def readBoundary (extended : Bool) : Reader Assertion := fun s =>
  match s with
  | '{' :: r =>
    match skip extended r with
    | [] => none
    | c :: r' =>
      if c.isAlpha || c == '-' then do
        let (name, rest) ← boundaryName extended (r'.length + 2) [] (c :: r')
        match String.ofList name with
        | "start" => some (.wordStart, rest)
        | "end" => some (.wordEnd, rest)
        | "start-half" => some (.wordStartHalf, rest)
        | "end-half" => some (.wordEndHalf, rest)
        | _ => none
      else some (.wordBoundary, s)
  | s => some (.wordBoundary, s)

/-- The piece after a backslash. -/
def readEscape (extended : Bool) : Reader Primitive
  | [] => none
  | c :: r =>
    match c with
    | 'x' => (readHex extended 2 r).map fun (l, r) => (.literal l, r)
    | 'u' => (readHex extended 4 r).map fun (l, r) => (.literal l, r)
    | 'U' => (readHex extended 8 r).map fun (l, r) => (.literal l, r)
    | 'p' => (readProperty extended r).map fun ((q, opposite), r) => (.property q opposite, r)
    | 'P' => (readProperty extended r).map fun ((q, opposite), r) =>
      (.property q !opposite, r)
    | 'd' => some (.perl .digit false, r)
    | 'D' => some (.perl .digit true, r)
    | 's' => some (.perl .space false, r)
    | 'S' => some (.perl .space true, r)
    | 'w' => some (.perl .word false, r)
    | 'W' => some (.perl .word true, r)
    | 'A' => some (.assertion .startText, r)
    | 'z' => some (.assertion .endText, r)
    | 'b' => (readBoundary extended r).map fun (a, r) => (.assertion a, r)
    | 'B' => some (.assertion .notWordBoundary, r)
    | '<' => some (.assertion .wordStart, r)
    | '>' => some (.assertion .wordEnd, r)
    | c =>
      if isEscapable c then some (.literal ⟨c, false⟩, r)
      else (specialChar? c).map fun d => (.literal ⟨d, false⟩, r)

/-! ### Sets in brackets -/

def asciiNames : List String :=
  ["alnum", "alpha", "ascii", "blank", "cntrl", "digit", "graph", "lower", "print", "punct",
    "space", "upper", "word", "xdigit"]

/-- A named ASCII class such as `[:alpha:]`, if the bracket opens one. -/
def asciiClass? : Rest → Option (SetSyntax × Rest)
  | '[' :: ':' :: r =>
    let (negated, r) := match r with
      | '^' :: r => (true, r)
      | r => (false, r)
    let name := String.ofList (r.takeWhile (· != ':'))
    match r.dropWhile (· != ':') with
    | ':' :: ']' :: rest => if asciiNames.contains name then some (.ascii name negated, rest) else none
    | _ => none
  | _ => none

/-- One end of a range, or a class. -/
def readSetItem (extended : Bool) : Reader Primitive
  | [] => none
  | '\\' :: r => readEscape extended r
  | c :: r => some (.literal ⟨c, false⟩, r)

def Primitive.toSet? : Primitive → Option SetSyntax
  | .literal l => some (.literal l)
  | .property q n => some (.property q n)
  | .perl k n => some (.perl k n)
  | _ => none

def Primitive.toLiteral? : Primitive → Option Literal
  | .literal l => some l
  | _ => none

/-- The first character after the one at the front that is looked at to tell a range from a
hyphen. In extended mode blanks are passed over, and one number sign. -/
def afterHyphen? (extended : Bool) : Rest → Option Char
  | [] => none
  | _ :: r =>
    if !extended then r.head? else
    match r.dropWhile isBlank with
    | '#' :: r' => (r'.dropWhile isBlank).head?.or r.head?
    | c :: _ => some c
    | [] => r.head?

/-- A single character, a range or a class inside brackets. -/
def readRange (extended : Bool) : Reader SetSyntax := fun s => do
  let (first, s) ← readSetItem extended s
  let s ← more? extended s
  let next := afterHyphen? extended s
  if s.head? != some '-' || next == some ']' || next == some '-' then
    let set ← first.toSet?
    some (set, s)
  else
    let s ← more? extended (s.drop 1)
    let (last, s) ← readSetItem extended s
    let a ← first.toLiteral?
    let b ← last.toLiteral?
    if a.char ≤ b.char then some (.range a b, s) else none

/-- What is open while a set is read: an enclosing bracket with its items so far, or an operator
with its left side. -/
inductive SetFrame where
  | bracket (before : List SetSyntax) (negated : Bool)
  | operation (op : SetOperator) (left : SetSyntax)

/-- Leading hyphens, and a closing bracket as the first character, stand for themselves. -/
def leadingItems (extended : Bool) : Nat → List SetSyntax → Reader (List SetSyntax)
  | 0, _, _ => none
  | fuel + 1, items, s =>
    match s with
    | '-' :: r => do
      let r ← more? extended r
      leadingItems extended fuel (.literal ⟨'-', false⟩ :: items) r
    | ']' :: r =>
      if items.isEmpty then do
        let r ← more? extended r
        some ([.literal ⟨']', false⟩], r)
      else some (items, s)
    | s => some (items, s)

/-- The opening of a bracket: whether it is negated, and the items it starts with. -/
def openBracket (extended : Bool) (afterBracket : Rest) : Option (Bool × List SetSyntax × Rest) := do
  let s ← more? extended afterBracket
  let (negated, s) ← match s with
    | '^' :: r => (more? extended r).map fun r => (true, r)
    | s => some (false, s)
  let (items, s) ← leadingItems extended (s.length + 1) [] s
  some (negated, items, s)

/-- Completes a pending operator with its right side. -/
def closeOperation (right : SetSyntax) : List SetFrame → SetSyntax × List SetFrame
  | .operation op left :: frames => (.operation op left right, frames)
  | frames => (right, frames)

/-- Reads on inside brackets; `items` are those of the innermost set, last first. -/
def setLoop (extended : Bool) : Nat → List SetFrame → List SetSyntax → Reader (Bool × SetSyntax)
  | 0, _, _, _ => none
  | fuel + 1, frames, items, s =>
    let operator (op : SetOperator) (r : Rest) :=
      let (left, frames) := closeOperation (.ofItems items.reverse) frames
      setLoop extended fuel (.operation op left :: frames) [] r
    match skip extended s with
    | [] => none
    | '[' :: r =>
      match asciiClass? ('[' :: r) with
      | some (set, rest) => setLoop extended fuel frames (set :: items) rest
      | none =>
        match openBracket extended r with
        | none => none
        | some (negated, inner, rest) =>
          setLoop extended fuel (.bracket items negated :: frames) inner rest
    | ']' :: r =>
      let (set, frames) := closeOperation (.ofItems items.reverse) frames
      match frames with
      | .bracket before negated :: frames =>
        match frames with
        | [] => some ((negated, set), r)
        | frames => setLoop extended fuel frames (.bracketed negated set :: before) r
      | _ => none
    | '&' :: '&' :: r => operator .intersection r
    | '-' :: '-' :: r => operator .difference r
    | '~' :: '~' :: r => operator .symmetricDifference r
    | s =>
      match readRange extended s with
      | none => none
      | some (set, rest) => setLoop extended fuel frames (set :: items) rest

/-- A set, from its opening bracket on: whether it is negated, and its content. -/
def readSet (extended : Bool) : Reader (Bool × SetSyntax)
  | '[' :: r => do
    let (negated, items, s) ← openBracket extended r
    setLoop extended (s.length + 1) [.bracket [] negated] items s
  | _ => none

/-! ### Groups -/

def flag? : Char → Option Flag
  | 'i' => some .caseInsensitive
  | 'm' => some .multiLine
  | 's' => some .dotMatchesNewLine
  | 'U' => some .swapGreed
  | 'u' => some .unicode
  | 'R' => some .crlf
  | 'x' => some .ignoreWhitespace
  | _ => none

/-- Flags up to a colon or a closing parenthesis. Each may be named once, and one hyphen, which
may not come last, turns those after it off. -/
def readFlags (negated lastHyphen : Bool) (acc : FlagSetting) : Reader FlagSetting
  | [] => none
  | c :: r =>
    if c == ':' || c == ')' then
      if lastHyphen then none else some (acc.reverse, c :: r)
    else if c == '-' then
      if negated then none else readFlags true true acc r
    else
      match flag? c with
      | none => none
      | some f =>
        if acc.any (·.1 = f) then none else readFlags negated false ((f, !negated) :: acc) r

def numeric : CharSet := Unicode.ofCategories ["Nd", "Nl", "No"]

def isNameStart (c : Char) : Bool := c == '_' || Unicode.alphabetic.contains c

def isNamePart (c : Char) : Bool :=
  isNameStart c || c == '.' || c == '[' || c == ']' || numeric.contains c

/-- The name of a group, up to its closing angle bracket. -/
def readName (s : Rest) : Option (List Char × Rest) :=
  let name := s.takeWhile (· != '>')
  match name, s.dropWhile (· != '>') with
  | c :: cs, _ :: rest =>
    if isNameStart c && cs.all isNamePart then some (name, rest) else none
  | _, _ => none

/-- What an opening parenthesis begins. -/
inductive GroupStart where
  | capture
  | named (name : List Char)
  | plain (setting : FlagSetting)
  | flags (setting : FlagSetting)

/-- The beginning of a group, after its parenthesis. Looking around is refused. -/
def readGroupStart (extended : Bool) (s : Rest) : Option (GroupStart × Rest) :=
  match skip extended s with
  | '?' :: '=' :: _ => none
  | '?' :: '!' :: _ => none
  | '?' :: '<' :: '=' :: _ => none
  | '?' :: '<' :: '!' :: _ => none
  | '?' :: 'P' :: '<' :: r => (readName r).map fun (n, r) => (.named n, r)
  | '?' :: '<' :: r => (readName r).map fun (n, r) => (.named n, r)
  | '?' :: r => do
    let (setting, r) ← readFlags false false [] r
    match r with
    | ')' :: r =>
      -- `(?)` names no flag; `(?-)` is refused as it ends with a hyphen
      if setting.isEmpty then none else some (.flags setting, r)
    | _ :: r => some (.plain setting, r)
    | [] => none
  | s => some (.capture, s)

/-! ### Repetitions -/

/-- A count; blanks around it are passed over. -/
def readCount (extended : Bool) : Nat → List Char → Reader Nat
  | 0, _, _ => none
  | fuel + 1, acc, s =>
    match s with
    | c :: r =>
      if c.isDigit then readCount extended fuel (c :: acc) (skip extended r) else finish acc s
    | [] => finish acc []
where
  finish (acc : List Char) (s : Rest) : Option (Nat × Rest) :=
    (Text.nat? Text.maxU32 acc.reverse).map fun n => (n, skip extended (s.dropWhile isBlank))

def readDecimal (extended : Bool) : Reader Nat := fun s =>
  let s := s.dropWhile isBlank
  readCount extended (s.length + 1) [] s

/-- The bounds of a counted repetition, after its opening brace. -/
def readBounds (extended : Bool) (s : Rest) : Option ((Nat × Option Nat) × Rest) := do
  let s ← more? extended s
  let (least, s) ← readDecimal extended s
  match s with
  | ',' :: r =>
    let r ← more? extended r
    match r with
    | '}' :: r => some ((least, none), r)
    | r =>
      let (most, r) ← readDecimal extended r
      match r with
      | '}' :: r => if least ≤ most then some ((least, some most), r) else none
      | _ => none
  | '}' :: r => some ((least, some least), r)
  | _ => none

/-- A question mark after a repetition only changes which match is preferred. -/
def dropLazy : Rest → Rest
  | '?' :: r => r
  | r => r

/-- Repeats the last part of a sequence, which is kept last first. -/
def repeatLast (least : Nat) (most : Option Nat) : List Tree → Option (List Tree)
  | [] => none
  | .empty :: _ => none
  | .flags _ :: _ => none
  | t :: ts => some (.repetition t least most :: ts)

/-! ### Patterns -/

/-- What is open around the sequence being read. -/
inductive Frame where
  | group (before : List Tree) (setting : FlagSetting) (extended : Bool)
  | alternation (branches : List Tree)

structure State where
  frames : List Frame
  /-- The parts of the innermost sequence, last first. -/
  parts : List Tree
  extended : Bool
  /-- The names that groups have so far. -/
  names : List (List Char)

namespace State

def sequence (p : State) : Tree := .ofParts p.parts.reverse

def push (p : State) (t : Tree) : State := { p with parts := t :: p.parts }

/-- Opens a group. Flags inside it end with it. -/
def openGroup (p : State) (setting : FlagSetting) : State :=
  { p with
    frames := .group p.parts setting p.extended :: p.frames
    parts := []
    extended := (setting.lookup .ignoreWhitespace).getD p.extended }

def branch (p : State) : State :=
  match p.frames with
  | .alternation bs :: fs => { p with frames := .alternation (p.sequence :: bs) :: fs, parts := [] }
  | fs => { p with frames := .alternation [p.sequence] :: fs, parts := [] }

/-- The whole of the innermost group, and the frames around it. -/
def closeBranches (p : State) : Tree × List Frame :=
  match p.frames with
  | .alternation bs :: fs => (.alternation (p.sequence :: bs).reverse, fs)
  | fs => (p.sequence, fs)

def closeGroup? (p : State) : Option State :=
  match p.closeBranches with
  | (t, .group before setting extended :: fs) =>
    some { p with frames := fs, parts := .group setting t :: before, extended := extended }
  | _ => none

def finish? (p : State) : Option Tree :=
  match p.closeBranches with
  | (t, []) => some t
  | _ => none

/-- Puts the group or the flags that an opening parenthesis begins. -/
def start? (p : State) : GroupStart → Option State
  | .capture => some (p.openGroup [])
  | .plain setting => some (p.openGroup setting)
  | .flags setting =>
    some { p.push (.flags setting) with
           extended := (setting.lookup .ignoreWhitespace).getD p.extended }
  | .named name =>
    if p.names.contains name then none
    else some { p.openGroup [] with names := name :: p.names }

end State

def Primitive.tree : Primitive → Tree
  | .literal l => .literal l
  | .dot => .dot
  | .assertion a => .assertion a
  | .property q n => .property q n
  | .perl k n => .perl k n

/-- A single character or escape outside brackets. -/
def readPrimitive (extended : Bool) : Reader Primitive
  | [] => none
  | '\\' :: r => readEscape extended r
  | '.' :: r => some (.dot, r)
  | '^' :: r => some (.assertion .startLine, r)
  | '$' :: r => some (.assertion .endLine, r)
  | c :: r => some (.literal ⟨c, false⟩, r)

/-- Reads a pattern piece by piece; each step uses up at least one character. -/
def patternLoop : Nat → State → Rest → Option Tree
  | 0, _, _ => none
  | fuel + 1, p, s =>
    let repeated (least : Nat) (most : Option Nat) (r : Rest) :=
      match repeatLast least most p.parts with
      | none => none
      | some parts => patternLoop fuel { p with parts := parts } (dropLazy r)
    match skip p.extended s with
    | [] => p.finish?
    | '(' :: r =>
      match readGroupStart p.extended r with
      | none => none
      | some (start, r) =>
        match p.start? start with
        | none => none
        | some p => patternLoop fuel p r
    | ')' :: r =>
      match p.closeGroup? with
      | none => none
      | some p => patternLoop fuel p r
    | '|' :: r => patternLoop fuel p.branch r
    | '[' :: r =>
      match readSet p.extended ('[' :: r) with
      | none => none
      | some ((negated, set), r) => patternLoop fuel (p.push (.bracketed negated set)) r
    | '?' :: r => repeated 0 (some 1) r
    | '*' :: r => repeated 0 none r
    | '+' :: r => repeated 1 none r
    | '{' :: r =>
      match readBounds p.extended r with
      | none => none
      | some ((least, most), r) => repeated least most (skip p.extended r)
    | s =>
      match readPrimitive p.extended s with
      | none => none
      | some (prim, r) => patternLoop fuel (p.push prim.tree) r

/-- How deeply the parts of a pattern may nest. -/
def depthLimit : Nat := 250

/-- The syntax tree of a pattern, if it is well formed. -/
def parseTree? (s : List Char) : Option Tree :=
  match patternLoop (s.length + 1) ⟨[], [], false, []⟩ s with
  | some t => if t.depth ≤ depthLimit then some t else none
  | none => none

end LatencyHarness.Pattern
