import LatencyHarness.Pidfile.Folder
import LatencyHarness.Pidfile.Record
import LatencyHarness.Role

/-! Pidfiles: one small file for each launched service, by which a later run finds a process that
an earlier one has left behind.

A file is written under a temporary name and then renamed, so a reader never sees a part of it. -/
namespace LatencyHarness.Pidfile

open Text.Utf8 (Bytes)

def fileName (role : Role) : FileName := Text.Utf8.encode (role.slug ++ ".pid").toList

def temporaryName (role : Role) : FileName := Text.Utf8.encode (role.slug ++ ".pid.tmp").toList

/-- A step of writing a pidfile. -/
inductive Step where
  | create
  | write (name : FileName) (content : Bytes)
  | rename (name newName : FileName)
  deriving DecidableEq, Repr

def Step.run : Step → FolderTask Unit
  | create => FolderTask.create
  | write name content => FolderTask.write name content
  | rename name newName => FolderTask.rename name newName

def steps (role : Role) (r : PidRecord) : List Step :=
  [.create, .write (temporaryName role) (Text.Utf8.encode r.render),
    .rename (temporaryName role) (fileName role)]

/-- Records a process under its role. -/
def write (role : Role) (r : PidRecord) : FolderTask Unit := (steps role r).forM Step.run

/-- The record that the bytes of a pidfile stand for. -/
def decode (content : Bytes) : Except SystemError PidRecord :=
  match Text.Utf8.decode content with
  | .error _ => .error (.custom .invalidData "stream did not contain valid UTF-8")
  | .ok text => (PidRecord.parse text).mapError fun e => .custom .invalidData e.message

def read (role : Role) : FolderTask PidRecord := do
  match decode (← FolderTask.read (fileName role)) with
  | .error e => throw e
  | .ok r => return r

/-- Removes a role's pidfile, if there is one. -/
def delete (role : Role) : FolderTask Unit := do
  try FolderTask.remove (fileName role)
  catch e => if e.kind = .notFound then return () else throw e

/-- The byte between a file's stem and its extension. -/
def dot : UInt8 := 46

/-- A file name's stem and, after the last dot, its extension. A dot at the beginning belongs to
the stem. -/
def splitExtension (name : FileName) : FileName × Option FileName :=
  let ext := (name.reverse.takeWhile (· ≠ dot)).reverse
  let stem := name.take (name.length - ext.length - 1)
  if stem.isEmpty ∨ ext.length = name.length then (name, none) else (stem, some ext)

/-- The role whose pidfile has this name. -/
def roleOf? (name : FileName) : Option Role :=
  match splitExtension name with
  | (stem, some ext) =>
    if ext = Text.Utf8.encode ['p', 'i', 'd'] then
      Role.startOrder.find? fun r => stem == Text.Utf8.encode r.slug.toList
    else none
  | (_, none) => none

/-- The record of a directory entry, if it is a readable pidfile of a role. -/
def recordOf? : FileName × Node → Option (Role × PidRecord)
  | (name, .file content) =>
    match roleOf? name, decode content with
    | some role, .ok r => some (role, r)
    | _, _ => none
  | (_, .folder) => none

/-- The readable pidfiles in start order. A missing directory has none. -/
def list : FolderTask (List (Role × PidRecord)) := do
  if (← get) = .absent then return []
  let records := (← FolderTask.entries).filterMap recordOf?
  return Role.startOrder.flatMap fun role => records.filter (·.1 = role)

end LatencyHarness.Pidfile
