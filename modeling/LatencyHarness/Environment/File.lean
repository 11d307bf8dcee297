import LatencyHarness.Environment
import LatencyHarness.Pattern.Unicode.Category
import LatencyHarness.Pattern.Unicode.Properties
import LatencyHarness.Text.Blank
import LatencyHarness.Text.Lines

/-! Files that set variables: on each line a name, an equals sign and a value.

A value may be quoted, may go over several lines inside quotes, and may refer to other variables
by `$`. A variable that is set already keeps its value. What follows the first malformed line is
not read. -/
namespace LatencyHarness.Environment.File

open Text.Utf8 (Bytes)

/-! ### Lines -/

/-- Where a character stands while lines are put together. -/
inductive Position where
  | plain
  /-- behind a blank -/
  | blank
  | escaped
  | strong
  | strongEscaped
  | weak
  | weakEscaped
  deriving DecidableEq, Repr

/-- Where a character leads that is no comment sign. -/
def Position.enter : Char → Position
  | '\\' => escaped
  | '"' => weak
  | '\'' => strong
  | _ => plain

/-- The position after a character; none if a comment begins with it. -/
def Position.after : Position → Char → Option Position
  | .plain, c => some (if Text.isBlank c ∧ c ≠ '\n' ∧ c ≠ '\r' then .blank else .enter c)
  | .blank, c => if c = '#' then none else some (.enter c)
  | .escaped, _ => some .plain
  | .strong, c => some (if c = '\\' then .strongEscaped else if c = '\'' then .plain else .strong)
  | .strongEscaped, _ => some .strong
  | .weak, c => some (if c = '\\' then .weakEscaped else if c = '"' then .plain else .weak)
  | .weakEscaped, _ => some .weak

/-- What of a line comes before a comment, and the position at its end if there is no comment. -/
def beforeComment (p : Position) : List Char → List Char × Option Position
  | [] => ([], some p)
  | c :: r =>
    match p.after c with
    | none => ([], none)
    | some q =>
      let (taken, stop) := beforeComment q r
      (c :: taken, stop)

/-- The lines of a file, each with its line feed. -/
def physicalLines (s : Bytes) : List Bytes :=
  match _h : s.dropWhile (· ≠ 10) with
  | [] => if s.isEmpty then [] else [s]
  | _ :: rest => (s.takeWhile (· ≠ 10) ++ [10]) :: physicalLines rest
  termination_by s.length
  decreasing_by
    have := List.IsSuffix.length_le (List.dropWhile_suffix (l := s) (· ≠ 10))
    simp only [_h, List.length_cons] at this
    omega

/-- A line without the line break at its end. -/
def dropBreak (line : List Char) : List Char :=
  if line.getLast? = some '\n' then Text.dropReturn .char line.dropLast else line

/-- Puts lines together that belong to one quoted value. The last is none if the file is not text
there or ends within quotes. -/
def logicalLines (begun : List Char) (p : Position) : List Bytes → List (Option (List Char))
  | [] => if p = .plain then [] else [none]
  | raw :: rest =>
    match Text.Utf8.decode raw with
    | .error _ => [none]
    | .ok line =>
      let whole := begun ++ line
      if (Text.trimStart whole).head? = some '#' then some [] :: logicalLines [] .plain rest
      else match beforeComment p line with
        | (taken, none) => some (begun ++ taken) :: logicalLines [] .plain rest
        | (_, some .plain) => some (dropBreak whole) :: logicalLines [] .plain rest
        | (_, some q) => logicalLines whole q rest

/-! ### Values -/

/-- How the next character of a value is read. -/
inductive Mode where
  | plain
  | strong
  | weak
  | escaped (weak : Bool)
  /-- in the name of a variable, of which the reversed beginning is given -/
  | reference (weak : Bool) (name : List Char)
  /-- the same in braces -/
  | braced (weak : Bool) (name : List Char)
  /-- behind the value -/
  | ended
  deriving DecidableEq, Repr

def Mode.within (weak : Bool) : Mode := if weak then .weak else .plain

/-- The character that an escape stands for. -/
def unescape? (c : Char) : Option Char :=
  if c = 'n' then some '\n' else if c ∈ ['\\', '\'', '"', '$', ' '] then some c else none

def isNumeric (c : Char) : Bool :=
  (Pattern.Unicode.ofCategories ["Nd", "Nl", "No"]).contains c

/-- The characters that the name of a variable goes on with outside braces. -/
def isNameChar (c : Char) : Bool :=
  if c.toNat < 0x80 then c.isAlphanum
  else Pattern.Unicode.alphabetic.contains c || isNumeric c

/-- The value of a variable that a name stands for; nothing if it is not set. -/
def substitute (env : Environment) (name : List Char) : List Char :=
  ((env.text? (String.ofList name.reverse)).getD "").toList

/-- Reads a value onto the reversed text `out`; none if it is malformed. -/
def readValue (env : Environment) : Mode → List Char → List Char → Option (List Char)
  | .reference weak name, out, [] =>
    if weak then none else some (((substitute env name).reverse ++ out).reverse)
  | .plain, out, [] | .escaped false, out, [] | .ended, out, [] => some out.reverse
  | _, _, [] => none
  | .ended, out, c :: r =>
    if c = ' ' ∨ c = '\t' then readValue env .ended out r
    else if c = '#' then some out.reverse
    else none
  | .escaped weak, out, c :: r =>
    match unescape? c with
    | some d => readValue env (.within weak) (d :: out) r
    | none => none
  | .strong, out, c :: r =>
    if c = '\'' then readValue env .plain out r else readValue env .strong (c :: out) r
  | .reference weak name, out, c :: r =>
    if isNameChar c then readValue env (.reference weak (c :: name)) out r
    else if c = '\x7b' ∧ name = [] then readValue env (.braced weak []) out r
    else
      let out := (substitute env name).reverse ++ out
      if c = '$' then readValue env (.reference weak []) out r
      else readValue env (.within weak) (c :: out) r
  | .braced weak name, out, c :: r =>
    if c = '\x7d' then readValue env (.within weak) ((substitute env name).reverse ++ out) r
    else readValue env (.braced weak (c :: name)) out r
  | .weak, out, c :: r =>
    if c = '$' then readValue env (.reference true []) out r
    else if c = '"' then readValue env .plain out r
    else if c = '\\' then readValue env (.escaped true) out r
    else readValue env .weak (c :: out) r
  | .plain, out, c :: r =>
    if c = '$' then readValue env (.reference false []) out r
    else if c = '\'' then readValue env .strong out r
    else if c = '"' then readValue env .weak out r
    else if c = '\\' then readValue env (.escaped false) out r
    else if c = ' ' ∨ c = '\t' then readValue env .ended out r
    else readValue env .plain (c :: out) r

/-! ### Assignments -/

/-- What a line says. -/
inductive Line where
  | empty
  | assignment (name value : String)
  | malformed
  deriving DecidableEq, Repr

/-- A name at the start of a text, and the rest. -/
def splitName (s : List Char) : Option (List Char × List Char) :=
  let inName := fun (c : Char) => c.isAlphanum || c = '_' || c = '.'
  match s with
  | c :: _ => if c.isAlpha || c = '_' then some (s.takeWhile inName, s.dropWhile inName) else none
  | [] => none

/-- The text behind an equals sign and the blanks around it. -/
def afterEquals (s : List Char) : Option (List Char) :=
  match Text.trimStart s with
  | '=' :: r => some (Text.trimStart r)
  | _ => none

/-- The name that a line sets, and the text of its value. The word `export` may come first. -/
def splitAssignment (s : List Char) : Option (List Char × List Char) := do
  let (name, rest) ← splitName s
  match afterEquals rest with
  | some value => return (name, value)
  | none =>
    if name ≠ "export".toList then none
    let (name, rest) ← splitName (Text.trimStart rest)
    return (name, ← afterEquals rest)

def isBlankOrComment (s : List Char) : Bool := s.isEmpty || s.head? == some '#'

def readLine (env : Environment) (s : List Char) : Line :=
  let s := Text.trim s
  if isBlankOrComment s then .empty
  else match splitAssignment s with
    | none => .malformed
    | some (name, value) =>
      if isBlankOrComment value then .assignment (String.ofList name) ""
      else match readValue env .plain [] value with
        | none => .malformed
        | some text => .assignment (String.ofList name) (String.ofList text)

/-- Sets what the lines say, up to the first that is malformed. -/
def loadLines (env : Environment) : List (Option (List Char)) → Environment
  | [] | none :: _ => env
  | some line :: rest =>
    match readLine env line with
    | .empty => loadLines env rest
    | .malformed => env
    | .assignment name value => loadLines (env.setDefault name value) rest

/-- The file without a byte order mark in front. -/
def dropMark : Bytes → Bytes
  | 0xEF :: 0xBB :: 0xBF :: r => r
  | s => s

/-- The variables after a file has been read. -/
def load (content : Bytes) (env : Environment) : Environment :=
  loadLines env (logicalLines [] .plain (physicalLines (dropMark content)))

end LatencyHarness.Environment.File
