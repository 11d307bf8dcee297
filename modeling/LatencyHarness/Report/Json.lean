import LatencyHarness.Json.Scan
import LatencyHarness.Report
import LatencyHarness.Role

/-! Reports, and what they are made of, as JSON. A report is written on one line, with its fields
in a fixed order and without blanks. -/
namespace LatencyHarness

open Json (quote Fault Scan Value)
open Json.Scan

/-! ### Writing -/

/-- A text between quotes. -/
def quoted (s : String) : List Char := quote s.toList

def Role.toJson (r : Role) : List Char := quoted r.name

def Verdict.toJson (v : Verdict) : List Char := quoted v.tag

namespace RunState

/-- The word for the state in a written report. -/
def tag : RunState → String
  | preflightCleanup => "preflight_cleanup"
  | startingDependencyA => "starting_dependency_a"
  | startingDependencyB => "starting_dependency_b"
  | runningClient => "running_client"
  | tearingDown => "tearing_down"
  | done _ => "done"

/-- The name and the value of a member, with a colon between them. -/
def member (name : String) (value : List Char) : List Char := quoted name ++ ':' :: value

/-- An object with the members in their order. -/
def object (members : List (List Char)) : List Char :=
  '\x7b' :: (List.intersperse [','] members).flatten ++ ['\x7d']

def toJson (s : RunState) : List Char :=
  match s with
  | done v => object [member "state" (quoted s.tag), member "verdict" v.toJson]
  | s => object [member "state" (quoted s.tag)]

end RunState

open RunState (member object)

def RunReport.toJson (r : RunReport) : List Char :=
  object [member "state" r.state.toJson,
    member "failure" (match r.failure with | some t => quoted t | none => "null".toList),
    member "teardown_passes" (Text.numeral r.teardownPasses.toNat),
    member "started_at" (quote r.startedAt.write),
    member "finished_at" (quote r.finishedAt.write)]

/-! ### Reading -/

/-- A string. -/
def stringValue : Scan (List Char) := do
  match ← peekSolid with
  | some '"' => drop 1; stringBody
  | _ => refuse

/-- The value of a name, or a refusal. -/
def named {α : Type} (lookup : List Char → Option α) (name : List Char) : Scan α :=
  match lookup name with
  | some a => return a
  | none => throw .unsuitable

/-- Nothing, written as `null`. -/
def nullValue : Scan Unit := do
  match ← peekSolid with
  | some 'n' => drop 1; word ['u', 'l', 'l']
  | _ => refuse

/-- One of some names: as a string, or as the only key of an object whose value is nothing. -/
def choice {α : Type} (lookup : List Char → Option α) (depth : Nat) : Scan α := do
  match ← peekSolid with
  | some '"' => named lookup (← stringValue)
  | some '\x7b' =>
    let _ ← deeper depth
    drop 1
    let a ← named lookup (← stringValue)
    colon
    nullValue
    close '\x7d'
    return a
  | some _ => throw .malformed
  | none => throw .unfinished

def Role.ofName? (name : List Char) : Option Role :=
  Role.startOrder.find? (·.name.toList == name)

def Role.scan (depth : Nat) : Scan Role := choice Role.ofName? depth

def Verdict.ofTag? (name : List Char) : Option Verdict :=
  Verdict.all.find? (·.tag.toList == name)

def Verdict.scan (depth : Nat) : Scan Verdict := choice Verdict.ofTag? depth

/-- The verdict that a value read in advance stands for. -/
def Verdict.ofValue? : Value → Option Verdict
  | .text s => Verdict.ofTag? s
  | .object [(k, .null)] => Verdict.ofTag? k
  | .object [(k, .object [])] => Verdict.ofTag? k
  | _ => none

namespace RunState

/-- A state without its verdict. -/
inductive Tag where
  | plain (s : RunState)
  | done
  deriving DecidableEq, Repr

def Tag.ofName? (name : List Char) : Option Tag :=
  let plain := [preflightCleanup, startingDependencyA, startingDependencyB, runningClient,
    tearingDown]
  if name = "done".toList then some .done
  else (plain.find? (·.tag.toList == name)).map .plain

/-- The state of a tag, given how its content is read: a plain state has none. -/
def ofTag (nothing : Scan Unit) (verdict : Scan Verdict) : Tag → Scan RunState
  | .plain s => do nothing; return s
  | .done => return .done (← verdict)

/-- A member of a written state. -/
inductive Part where
  | state
  | verdict
  deriving DecidableEq, Repr

/-- The next member that matters, up to its colon. Others are skipped. -/
def nextPart : Nat → Bool → Scan (Option Part)
  | 0, _ => throw .unfinished
  | fuel + 1, first => do
    match ← key? first with
    | none => return none
    | some k =>
      if k = "state".toList then return some .state
      else if k = "verdict".toList then return some .verdict
      else
        colon
        skip
        nextPart fuel false

/-- What follows the first two members: nothing that matters. -/
def noMore (fuel : Nat) (s : RunState) : Scan RunState := do
  match ← nextPart fuel false with
  | none => return s
  | some _ => throw .unsuitable

/-- The state whose tag comes first. -/
def afterTag (fuel depth : Nat) : Scan RunState := do
  colon
  let tag ← choice Tag.ofName? depth
  match ← nextPart fuel false, tag with
  | some .state, _ => throw .unsuitable
  | some .verdict, tag =>
    colon
    noMore fuel (← ofTag nullValue (Verdict.scan depth) tag)
  | none, .plain s => return s
  | none, .done => throw .unsuitable

/-- The state whose verdict comes first; it is read in advance. -/
def afterVerdict (fuel depth : Nat) : Scan RunState := do
  colon
  let content ← value fuel depth
  match ← nextPart fuel false with
  | some .state =>
    colon
    let tag ← choice Tag.ofName? depth
    let nothing : Scan Unit :=
      match content with
      | .null => return ()
      | _ => throw .unsuitable
    let verdict : Scan Verdict :=
      match Verdict.ofValue? content with
      | some v => return v
      | none => throw .unsuitable
    noMore fuel (← ofTag nothing verdict tag)
  | _ => throw .unsuitable

/-- A state: an object with a tag and, if need be, a verdict, or a list of the two. -/
def scan (depth : Nat) : Scan RunState := do
  match ← peekSolid with
  | some '\x7b' =>
    let depth ← deeper depth
    drop 1
    let fuel := 2 * (← get).length + 2
    let s ← match ← nextPart fuel true with
      | some .state => afterTag fuel depth
      | some .verdict => afterVerdict fuel depth
      | none => throw .unsuitable
    close '\x7d'
    return s
  | some '[' =>
    let depth ← deeper depth
    drop 1
    if !(← hasElement true) then throw .unsuitable
    let tag ← choice Tag.ofName? depth
    if !(← hasElement false) then throw .unsuitable
    let s ← ofTag nullValue (Verdict.scan depth) tag
    close ']'
    return s
  | _ => refuse

end RunState

/-- A text or nothing. -/
def optionalText : Scan (Option String) := do
  match ← peekSolid with
  | some 'n' =>
    drop 1
    word ['u', 'l', 'l']
    return none
  | _ => return some (String.ofList (← stringValue))

/-- A 32-bit number. -/
def wordValue : Scan UInt32 := do
  let c ← peekSolid
  let n ← match c with
    | some '-' => drop 1; number true
    | some c => if c.isDigit then number false else refuse
    | none => throw .unfinished
  match n with
  | .natural n => if n ≤ Text.maxU32 then return .ofNat n else throw .unsuitable
  | .other => throw .unsuitable

/-- A point in time. -/
def timestampValue : Scan Timestamp := do named Timestamp.read? (← stringValue)

namespace RunReport

/-- The fields of a report that have been read so far. -/
structure Draft where
  state : Option RunState := none
  failure : Option (Option String) := none
  teardownPasses : Option UInt32 := none
  startedAt : Option Timestamp := none
  finishedAt : Option Timestamp := none

/-- Reads a field that must not have been read before. -/
def once {α : Type} (before : Option α) (t : Scan α) : Scan (Option α) := do
  if before.isSome then throw .unsuitable
  colon
  return some (← t)

/-- Reads the member with this name; unknown ones are skipped. -/
def Draft.member (depth : Nat) (name : List Char) (d : Draft) : Scan Draft := do
  if name = "state".toList then
    return { d with state := ← once d.state (RunState.scan depth) }
  else if name = "failure".toList then
    return { d with failure := ← once d.failure optionalText }
  else if name = "teardown_passes".toList then
    return { d with teardownPasses := ← once d.teardownPasses wordValue }
  else if name = "started_at".toList then
    return { d with startedAt := ← once d.startedAt timestampValue }
  else if name = "finished_at".toList then
    return { d with finishedAt := ← once d.finishedAt timestampValue }
  else
    colon
    skip
    return d

/-- The report of a draft. Only the failure may be missing. -/
def Draft.report? (d : Draft) : Option RunReport := do
  return ⟨← d.state, d.failure.getD none, ← d.teardownPasses, ← d.startedAt, ← d.finishedAt⟩

/-- Reads the next element of a list that must have one. -/
def element {α : Type} (first : Bool) (t : Scan α) : Scan α := do
  if ← hasElement first then t else throw .unsuitable

/-- A report: an object with its fields, or a list of their values. -/
def scan (depth : Nat) : Scan RunReport := do
  match ← peekSolid with
  | some '\x7b' =>
    let depth ← deeper depth
    drop 1
    let d ← members (fun k d => Draft.member depth k d) ((← get).length + 1) true {}
    match d.report? with
    | none => throw .unsuitable
    | some r =>
      close '\x7d'
      return r
  | some '[' =>
    let depth ← deeper depth
    drop 1
    let state ← element true (RunState.scan depth)
    let failure ← element false optionalText
    let passes ← element false wordValue
    let startedAt ← element false timestampValue
    let finishedAt ← element false timestampValue
    close ']'
    return ⟨state, failure, passes, startedAt, finishedAt⟩
  | _ => refuse

end RunReport

/-! ### Whole texts -/

def Role.ofJson (s : List Char) : Except Fault Role := run (Role.scan Json.Scan.maxDepth) s

def Verdict.ofJson (s : List Char) : Except Fault Verdict := run (Verdict.scan Json.Scan.maxDepth) s

def RunState.ofJson (s : List Char) : Except Fault RunState :=
  run (RunState.scan Json.Scan.maxDepth) s

def RunReport.ofJson (s : List Char) : Except Fault RunReport :=
  run (RunReport.scan Json.Scan.maxDepth) s

end LatencyHarness
