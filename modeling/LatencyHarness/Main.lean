import LatencyHarness.Invocation
import LatencyHarness.Simulation.Machine

/-! The command line. A run goes on a machine that has the current directory, the variables and the
declaration file of this one, but none of its programs. -/
namespace LatencyHarness.Main

open Text.Utf8 (Bytes)
open Simulation

/-- The content of a file that can be read. -/
def content? (path : String) : IO (Option Bytes) := do
  try return some (← IO.FS.readBinFile path).toList
  catch _ => return none

/-- The variables that options go by. -/
def names : List String :=
  RunOption.grammar.options.filterMap fun o =>
    match o.effect with
    | .value _ spec => spec.fallback?
    | _ => none

/-- The variables of some names that are set. -/
def environment (names : List String) : IO Environment := do
  let values ← names.mapM fun name => return (name, ← IO.getEnv name)
  return values.filterMap fun (name, value) => value.map fun v => (name, v.toUTF8.toList)

/-- The file that the run asks for first, if the command line is accepted. -/
def declaration? (i : Invocation) : Option Path := do
  let o ← (RunOptions.parse i.fullEnvironment i.args).toOption
  let c ← (o.config i.currentDir).toOption
  return c.declarationPath

/-- The machine to run on. -/
def machine (i : Invocation) (dir : Path) : IO Machine := do
  let m := { Machine.blank "/usr/bin" with currentDir := dir }
  match declaration? i with
  | none => return m
  | some path => return if (← content? path.text).isSome then m.addFile (dir.join path) else m

end LatencyHarness.Main

open LatencyHarness in
def main (args : List String) : IO UInt32 := do
  let dir := Path.ofString (← IO.currentDir).toString
  let i : Invocation := ⟨args, ← Main.environment Main.names, ← Main.content? ".env", .ok dir⟩
  let c := i.run (← Main.machine i dir) .absent
  IO.print c.out
  IO.eprint (c.err ++ Completion.ofLines c.log)
  return .ofNat c.code
