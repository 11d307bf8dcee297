import LatencyHarness.Json.Quoted
import LatencyHarness.Text.Numeral
import LatencyHarness.Text.Utf8

/-! Reading JSON for a value of a known shape.

A text is refused for one of three reasons: it is malformed, it ends too early, or it is well
formed as far as it was read but says something else than is wanted. Reading stops at the first of
these, so the reason depends on how far the reader looks: what is skipped is only checked for its
form, and a value of the wrong kind is read before it is refused unless it is a list or an
object. -/
namespace LatencyHarness.Json

open Text

/-- Why a text is refused. -/
inductive Fault where
  | malformed
  | unsuitable
  | unfinished
  deriving DecidableEq, Repr

abbrev Scan := StateT (List Char) (Except Fault)

namespace Scan

def isBlank (c : Char) : Bool := c = ' ' || c = '\n' || c = '\t' || c = '\r'

/-- The next character, which stays where it is. -/
def peek : Scan (Option Char) := return (← get).head?

def drop (n : Nat) : Scan Unit := modify (·.drop n)

/-- The next character that is no blank; blanks are passed over. -/
def peekSolid : Scan (Option Char) := do
  modify (·.dropWhile isBlank)
  peek

/-- The next character. The text must not end here. -/
def next : Scan Char := do
  match ← get with
  | [] => throw .unfinished
  | c :: r =>
    set r
    return c

/-- Passes over a word, character by character. -/
def word : List Char → Scan Unit
  | [] => return
  | c :: cs => do
    if (← next) ≠ c then throw .malformed
    word cs

/-! ### Strings -/

/-- Four hexadecimal digits. Four bytes of text must be left. -/
def hex4 : Scan Nat := do
  let s ← get
  if Utf8.size s < 4 then throw .unfinished
  match (s.take 4).mapM Hex.value? with
  | some [a, b, c, d] =>
    drop 4
    return ((a * 16 + b) * 16 + c) * 16 + d
  | _ => throw .malformed

def isLeading (n : Nat) : Bool := 0xD800 ≤ n && n ≤ 0xDBFF

def isTrailing (n : Nat) : Bool := 0xDC00 ≤ n && n ≤ 0xDFFF

/-- The character of an escape by number; two of them make one beyond the first plane. -/
def unicode : Scan Char := do
  let n ← hex4
  if isTrailing n then throw .malformed
  if isLeading n then
    word ['\\', 'u']
    let m ← hex4
    if !isTrailing m then throw .malformed
    return .ofNat (0x10000 + (n - 0xD800) * 0x400 + (m - 0xDC00))
  return .ofNat n

/-- The character of an escape, after the backslash. -/
def escaped : Scan Char := do
  let c ← next
  if c = 'u' then unicode
  else if c = '/' then return '/'
  else match shortEscapes.lookup c with
    | some d => return d
    | none => throw .malformed

/-- An escape that is skipped: the number in it may stand for no character. -/
def escapedSkipping : Scan Char := do
  let c ← next
  if c = 'u' then
    let _ ← hex4
    return c
  else if c = '/' ∨ (shortEscapes.lookup c).isSome then return c
  else throw .malformed

/-- The rest of a string, after its first quote, onto the reversed text `acc`. -/
def stringOnto (escape : Scan Char) : Nat → List Char → Scan (List Char)
  | 0, _ => throw .unfinished
  | fuel + 1, acc => do
    let c ← next
    if c = '"' then return acc.reverse
    else if c = '\\' then stringOnto escape fuel ((← escape) :: acc)
    else if c.toNat < 0x20 then throw .malformed
    else stringOnto escape fuel (c :: acc)

/-- A string, after its first quote. -/
def stringBody : Scan (List Char) := do stringOnto escaped ((← get).length + 1) []

def skipStringBody : Scan Unit := do
  let _ ← stringOnto escapedSkipping ((← get).length + 1) []

/-! ### Numbers -/

/-- A number as far as its kind matters: whole and small enough for 64 bits, or any other. -/
inductive Number where
  | natural (n : Nat)
  | other
  deriving DecidableEq, Repr

def digits : Scan (List Char) := do
  let ds := (← get).takeWhile (·.isDigit)
  drop ds.length
  return ds

def valueOf (ds : List Char) : Nat := ds.foldl (fun n c => 10 * n + (c.toNat - '0'.toNat)) 0

/-- The digits before a point: a zero stands alone. -/
def wholeDigits : Scan (List Char) := do
  let ds ← digits
  match ds with
  | [] => if (← peek).isNone then throw .unfinished else throw .malformed
  | ['0'] => return ds
  | '0' :: _ => throw .malformed
  | _ => return ds

/-- The decimals after a point, if there is one. -/
def decimals : Scan (List Char) := do
  if (← peek) ≠ some '.' then return []
  drop 1
  let ds ← digits
  if ds.isEmpty then
    if (← peek).isNone then throw .unfinished else throw .malformed
  return ds

def isExponentMark (c : Option Char) : Bool := c = some 'e' || c = some 'E'

/-- A sign, if there is one: whether it is a minus. -/
def sign : Scan Bool := do
  match ← peek with
  | some '-' => drop 1; return true
  | some '+' => drop 1; return false
  | _ => return false

/-- The power of ten after an exponent mark, if there is one. -/
def exponent : Scan (Option Int) := do
  if !isExponentMark (← peek) then return none
  drop 1
  let negative ← sign
  let ds ← digits
  if ds.isEmpty then
    if (← peek).isNone then throw .unfinished else throw .malformed
  let n : Int := valueOf ds
  return some (if negative then -n else n)

/-- The least number that double precision cannot hold. -/
def overflowBound : Nat := Nat.pow 2 1024 - Nat.pow 2 970

/-- Whether a decimal number is too large for double precision. -/
def isTooLarge (significand : Nat) (power : Int) : Bool :=
  let magnitude := ((numeral significand).length : Int) + power
  significand ≠ 0 && 300 < magnitude &&
    (400 < magnitude ||
      overflowBound * Nat.pow 10 (-power).toNat ≤ significand * Nat.pow 10 power.toNat)

/-- A number, after its sign. -/
def number (negative : Bool) : Scan Number := do
  let whole ← wholeDigits
  let fraction ← decimals
  let power ← exponent
  if isTooLarge (valueOf (whole ++ fraction)) (power.getD 0 - fraction.length) then
    throw .malformed
  let n := valueOf whole
  return if negative || !fraction.isEmpty || power.isSome || n > maxU64 then .other
    else .natural n

/-- A number that is skipped, after its sign. -/
def skipNumber : Scan Unit := do
  match ← digits with
  | [] => throw .malformed
  | ['0'] => pure ()
  | '0' :: _ => throw .malformed
  | _ => pure ()
  if (← peek) = some '.' then
    drop 1
    if (← digits).isEmpty then throw .malformed
  if isExponentMark (← peek) then
    drop 1
    let _ ← sign
    if (← digits).isEmpty then throw .malformed

/-! ### Refusing -/

/-- Refuses what comes next for not being of the wanted kind. A word, a number or a string is read
first, so it may turn out to be malformed. -/
def refuse {α : Type} : Scan α := do
  match ← peek with
  | some 'n' => drop 1; word ['u', 'l', 'l']
  | some 't' => drop 1; word ['r', 'u', 'e']
  | some 'f' => drop 1; word ['a', 'l', 's', 'e']
  | some '"' => drop 1; let _ ← stringBody
  | some '-' => drop 1; let _ ← number true
  | some c =>
    if c.isDigit then let _ ← number false
    else if c ≠ '[' ∧ c ≠ '\x7b' then throw .malformed
  | none => throw .unfinished
  throw .unsuitable

/-! ### Objects and lists -/

/-- Goes one level deeper; there are 127. -/
def deeper (depth : Nat) : Scan Nat := if depth ≤ 1 then throw .malformed else return depth - 1

def maxDepth : Nat := 128

/-- The key of the next member of an object, if there is one, up to its colon. -/
def key? (first : Bool) : Scan (Option (List Char)) := do
  let mut c ← peekSolid
  if c = some '\x7d' then return none
  if !first then
    if c ≠ some ',' then
      if c.isNone then throw .unfinished else throw .malformed
    drop 1
    c ← peekSolid
  match c with
  | some '"' =>
    drop 1
    return some (← stringBody)
  | some _ => throw .malformed
  | none => throw .unfinished

/-- Passes over the colon after a key. -/
def colon : Scan Unit := do
  match ← peekSolid with
  | some ':' => drop 1
  | some _ => throw .malformed
  | none => throw .unfinished

/-- Whether a list has another element; the comma before it is passed over. -/
def hasElement (first : Bool) : Scan Bool := do
  let mut c ← peekSolid
  if c = some ']' then return false
  if !first then
    if c ≠ some ',' then
      if c.isNone then throw .unfinished else throw .malformed
    drop 1
    c ← peekSolid
  match c with
  | some ']' => throw .malformed
  | some _ => return true
  | none => throw .unfinished

/-- Passes over a closing bracket. -/
def close (bracket : Char) : Scan Unit := do
  match ← peekSolid with
  | some c => if c = bracket then drop 1 else throw .malformed
  | none => throw .unfinished

/-- Goes through the members of an object, up to its closing brace. -/
def members {α : Type} (member : List Char → α → Scan α) : Nat → Bool → α → Scan α
  | 0, _, _ => throw .unfinished
  | fuel + 1, first, a => do
    match ← key? first with
    | none => return a
    | some k => members member fuel false (← member k a)

/-- Skips a value of any kind: `inside` tells what is still open, the innermost first. -/
def skipWithin : Nat → List Char → Scan Unit
  | 0, _ => throw .unfinished
  | fuel + 1, inside => do
    match ← peekSolid with
    | some '[' => drop 1; afterOpening fuel (']' :: inside)
    | some '\x7b' => drop 1; afterOpening fuel ('\x7d' :: inside)
    | some c =>
      drop 1
      if c = 'n' then word ['u', 'l', 'l']
      else if c = 't' then word ['r', 'u', 'e']
      else if c = 'f' then word ['a', 'l', 's', 'e']
      else if c = '"' then skipStringBody
      else if c = '-' then skipNumber
      else if c.isDigit then modify (c :: ·); skipNumber
      else throw .malformed
      afterValue fuel inside
    | none => throw .unfinished
where
  /-- What may stand after an opening bracket. -/
  afterOpening : Nat → List Char → Scan Unit
    | 0, _ => throw .unfinished
    | fuel + 1, inside => do
      match ← peekSolid with
      | some c =>
        if inside.head? = some c then drop 1; afterValue fuel inside.tail
        else beforeValue fuel inside
      | none => throw .unfinished
  /-- What may stand after a value. -/
  afterValue : Nat → List Char → Scan Unit
    | _, [] => return
    | 0, _ => throw .unfinished
    | fuel + 1, bracket :: inside => do
      match ← peekSolid with
      | some c =>
        if c = ',' then drop 1; beforeValue fuel (bracket :: inside)
        else if c = bracket then drop 1; afterValue fuel inside
        else throw .malformed
      | none => throw .unfinished
  /-- The key that stands before a value in an object, and the value. -/
  beforeValue : Nat → List Char → Scan Unit
    | 0, _ => throw .unfinished
    | fuel + 1, inside => do
      if inside.head? = some '\x7d' then
        match ← peekSolid with
        | some '"' => drop 1; skipStringBody
        | some _ => throw .malformed
        | none => throw .unfinished
        colon
      skipWithin fuel inside

/-- Skips a value of any kind. -/
def skip : Scan Unit := do skipWithin (4 * (← get).length + 4) []

/-- Reads to the end with one reader; nothing but blanks may follow. -/
def run {α : Type} (t : Scan α) (s : List Char) : Except Fault α := do
  let (a, rest) ← t s
  if rest.all isBlank then return a else throw .malformed

end Scan

/-! ### Values that are read before it is known what they are for -/

/-- A value as far as it can be told apart later. -/
inductive Value where
  | null
  | text (s : List Char)
  | object (members : List (List Char × Value))
  | other

namespace Scan

mutual

/-- A value of any kind. -/
def value : Nat → Nat → Scan Value
  | 0, _ => throw .unfinished
  | fuel + 1, depth => do
    match ← peekSolid with
    | some 'n' => drop 1; word ['u', 'l', 'l']; return .null
    | some 't' => drop 1; word ['r', 'u', 'e']; return .other
    | some 'f' => drop 1; word ['a', 'l', 's', 'e']; return .other
    | some '"' => drop 1; return .text (← stringBody)
    | some '-' => drop 1; let _ ← number true; return .other
    | some '[' =>
      drop 1
      elements fuel (← deeper depth) true
      close ']'
      return .other
    | some '\x7b' =>
      drop 1
      let ms ← pairs fuel (← deeper depth) true
      close '\x7d'
      return .object ms
    | some c =>
      if c.isDigit then
        let _ ← number false
        return .other
      else throw .malformed
    | none => throw .unfinished

/-- The elements of a list. -/
def elements : Nat → Nat → Bool → Scan Unit
  | 0, _, _ => throw .unfinished
  | fuel + 1, depth, first => do
    if ← hasElement first then
      let _ ← value fuel depth
      elements fuel depth false

/-- The members of an object. -/
def pairs : Nat → Nat → Bool → Scan (List (List Char × Value))
  | 0, _, _ => throw .unfinished
  | fuel + 1, depth, first => do
    match ← key? first with
    | none => return []
    | some k =>
      colon
      let v ← value fuel depth
      return (k, v) :: (← pairs fuel depth false)

end

end Scan

end LatencyHarness.Json
