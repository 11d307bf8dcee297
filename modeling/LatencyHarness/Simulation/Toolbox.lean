import LatencyHarness.Session

/-! A host with tools and nothing else.

What a tool answers depends on its arguments alone. With any others than those that are listed it
does not come to its end. -/
namespace LatencyHarness.Simulation

/-- The answers are part of the type, so that they are the same in every state. -/
structure Toolbox (answers : List (List String × Except SystemError Captured)) where
  deriving DecidableEq, Repr

instance {answers : List (List String × Except SystemError Captured)} : Host (Toolbox answers) where
  patience _ := 20
  selfPid _ := 2
  ownGroup _ := 2
  now _ := 0
  wallClock _ := ⟨⟨2024, 5, 1⟩, 0, 0⟩
  isFile _ _ := true
  bindable _ _ := true
  hasProcess _ _ := false
  processes _ := []
  observe _ t := t
  await _ _ _ t := t
  news? t := (none, t)
  spawn _ _ t := (.error (.errno 11), t)
  spawn_le hspawn := by cases hspawn
  exitStatus? _ _ := .ok none
  signal _ _ t := (.error (.errno 3), t)
  firstStream t := (.out, t)
  look _ _ t := (⟨[], .ended⟩, t)
  capture l _ t := (answers.lookup l.args, t)

namespace Toolbox

/-- What a tool has printed that has come to its end. -/
def printed (text : String) : Except SystemError Captured :=
  .ok ⟨.exited 0, Text.Utf8.encode text.toList, []⟩

/-- The answer to the question who holds a port. -/
def ofPort (answers : List (List String × Except SystemError Captured)) (port : Port) :
    Option (Except SystemError Captured) :=
  answers.lookup ["-ti", s!":{port.toNat}"]

end Toolbox

end LatencyHarness.Simulation
