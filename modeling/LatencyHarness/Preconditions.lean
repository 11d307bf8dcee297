import LatencyHarness.Session

/-! What has to hold before anything is launched: the declaration file is there and the task
runner works. -/
namespace LatencyHarness.Preconditions

open Text

variable {σ : Type} [Host σ]

/-- The first line of a text, without blanks around it. -/
def firstLine (s : List Char) : String := String.ofList (trim ((lines s).head?.getD []))

/-- What a program says about its version: the first line of its output or, if that is blank, of
its error output. None if it did not succeed. -/
def versionText? (c : Captured) : Option String :=
  if c.status.isSuccess then
    let out := Utf8.decodeLossy c.out
    some (firstLine (if isBlankText out then Utf8.decodeLossy c.err else out))
  else none

/-- Asks a program for its version. -/
def version? (program : String) (args : List String) : Task σ (Option String) := do
  match ← Task.perform (Host.capture ⟨program, args⟩ none) with
  | some (.ok c) => return versionText? c
  | _ => return none

/-- Checks the declaration file and the task runner, for the runner's version. -/
def check (c : Config) : Task σ (Except HarnessError String) := do
  let path := c.declarationPath
  if !(← Task.ask (Host.isFile path)) then
    return .error (.configuration
      s!"{path.text} not found. Run from the project root or pass --working-dir.")
  let runner := c.taskRunner
  match ← version? runner.program runner.versionArgs with
  | some v => return .ok v
  | none =>
    return .error (.configuration
      s!"'{runner.program}' is not installed or not working. Install it with: {runner.installHint}")

end LatencyHarness.Preconditions
