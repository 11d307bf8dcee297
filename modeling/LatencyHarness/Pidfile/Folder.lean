import LatencyHarness.SystemError
import LatencyHarness.Text.Utf8

/-! One directory of the file system, and what can be done with the files in it. -/
namespace LatencyHarness

open Text.Utf8 (Bytes)

/-- The name of a directory entry. -/
abbrev FileName := Bytes

/-- What a name stands for. -/
inductive Node where
  | file (content : Bytes)
  | folder
  deriving DecidableEq, Repr

/-- The place of a directory: nothing is there, a file is in the way, or the directory with its
entries, each name once. -/
inductive Folder where
  | absent
  | blocked
  | listing (entries : List (FileName × Node))
  deriving DecidableEq, Repr

namespace Folder

def erase (entries : List (FileName × Node)) (name : FileName) : List (FileName × Node) :=
  entries.filter (·.1 != name)

/-- The entries with `name` standing for `node`. -/
def insert (entries : List (FileName × Node)) (name : FileName) (node : Node) :
    List (FileName × Node) :=
  (name, node) :: erase entries name

/-- What a name stands for. -/
def get? : Folder → FileName → Option Node
  | listing es, name => es.lookup name
  | _, _ => none

def names : Folder → List FileName
  | listing es => es.map (·.1)
  | _ => []

theorem lookup_erase (es : List (FileName × Node)) (n m : FileName) :
    (erase es n).lookup m = if m = n then none else es.lookup m := by
  induction es with
  | nil => simp [erase]
  | cons e es ih =>
    obtain ⟨k, v⟩ := e
    by_cases hk : k = n
    · have : erase ((k, v) :: es) n = erase es n := by simp [erase, hk]
      rw [this, ih]
      by_cases hm : m = n
      · simp [hm]
      · have hb : (m == k) = false := by simpa [hk] using hm
        simp [hm, List.lookup_cons, hb]
    · have : erase ((k, v) :: es) n = (k, v) :: erase es n := by simp [erase, hk]
      rw [this]
      by_cases hm : m = k
      · simp [hm, hk]
      · have hb : (m == k) = false := by simpa using hm
        simp only [List.lookup_cons, hb, ih]

theorem lookup_insert (es : List (FileName × Node)) (n m : FileName) (v : Node) :
    (insert es n v).lookup m = if m = n then some v else es.lookup m := by
  by_cases h : m = n
  · subst h; simp [insert]
  · have hb : (m == n) = false := by simpa using h
    simp [insert, List.lookup_cons, hb, h, lookup_erase]

end Folder

/-- A piece of work in a directory. What was done before a failure stays done. -/
abbrev FolderTask := EStateM SystemError Folder

namespace FolderTask

/-- The outcome of a piece of work in a directory, and what it leaves. -/
def on {α : Type} (t : FolderTask α) (f : Folder) : Except SystemError α × Folder :=
  match t f with
  | .ok a f => (.ok a, f)
  | .error e f => (.error e, f)

/-- The entries of the directory, or why it has none. -/
def entries : FolderTask (List (FileName × Node)) := do
  match ← get with
  | .absent => throw .notFound
  | .blocked => throw .notADirectory
  | .listing es => return es

/-- Makes the directory if it is not there. -/
def create : FolderTask Unit := do
  match ← get with
  | .absent => set (Folder.listing [])
  | .blocked => throw .alreadyExists
  | .listing _ => return ()

/-- Puts a file in the place of one of that name. -/
def write (name : FileName) (content : Bytes) : FolderTask Unit := do
  let es ← entries
  if es.lookup name = some .folder then throw .isADirectory
  set (Folder.listing (Folder.insert es name (.file content)))

/-- Makes a directory inside the directory, which is made too if need be. -/
def createInside (name : FileName) : FolderTask Unit := do
  create
  let es ← entries
  if (es.lookup name).isSome then throw .alreadyExists
  set (Folder.listing (Folder.insert es name .folder))

def read (name : FileName) : FolderTask Bytes := do
  match (← entries).lookup name with
  | none => throw .notFound
  | some .folder => throw .isADirectory
  | some (.file content) => return content

def remove (name : FileName) : FolderTask Unit := do
  let es ← entries
  match es.lookup name with
  | none => throw .notFound
  | some .folder => throw .isADirectory
  | some (.file _) => set (Folder.listing (Folder.erase es name))

/-- Gives a file another name, in one step; a file of that name is replaced. -/
def rename (name newName : FileName) : FolderTask Unit := do
  let es ← entries
  match es.lookup name with
  | none => throw .notFound
  | some node =>
    if es.lookup newName = some .folder ∧ node ≠ .folder then throw .isADirectory
    set (Folder.listing (Folder.insert (Folder.erase es name) newName node))

end FolderTask

end LatencyHarness
