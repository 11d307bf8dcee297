import LatencyHarness.Path

/-! The directories and files of a simulated machine. -/
namespace LatencyHarness.Simulation

/-- The names on the way from the root. -/
abbrev Trail := List (List UInt8)

structure FileTree where
  folders : List Trail
  files : List Trail
  deriving Repr

namespace FileTree

/-- The parts of a path between its slashes. -/
def components (p : Path) : List (List UInt8) := p.bytes.splitOn Path.slash

def dot : List UInt8 := [46]
def dotDot : List UInt8 := [46, 46]

/-- The parts of a path without those that stay in place. -/
def trailOf (p : Path) : Trail := (components p).filter fun c => c ≠ [] ∧ c ≠ dot

def isFolder (t : FileTree) (trail : Trail) : Bool := trail = [] || t.folders.contains trail

/-- Adds a directory and those above it. -/
def addFolder (t : FileTree) (p : Path) : FileTree :=
  let trail := trailOf p
  { t with folders := t.folders ++ (List.range (trail.length + 1)).map trail.take }

/-- Adds a file, and the directories above it. -/
def addFile (t : FileTree) (p : Path) : FileTree :=
  let trail := trailOf p
  let above := (List.range trail.length).map trail.take
  ⟨t.folders ++ above, t.files ++ [trail]⟩

/-- Follows a path from a directory. -/
def resolve (t : FileTree) : Trail → List (List UInt8) → Option Trail
  | here, [] => some here
  | here, c :: cs =>
    if !t.isFolder here then none
    else if c = [] ∨ c = dot then resolve t here cs
    else if c = dotDot then resolve t here.dropLast cs
    else resolve t (here ++ [c]) cs

/-- Whether an absolute path leads to a file. -/
def isFile (t : FileTree) (p : Path) : Bool :=
  match t.resolve [] (components p) with
  | some trail => t.files.contains trail
  | none => false

end FileTree

end LatencyHarness.Simulation
