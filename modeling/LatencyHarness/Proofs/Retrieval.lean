import LatencyHarness.Proofs.Partition

/-! What is read from the directory of the pidfiles.

A reader's answer depends on what stands under the name of the role's pidfile and on nothing else,
so reading the roles one by one and looking through the whole directory find the same records. What
has been written is read back, but for the lines of the command behind the first. -/
namespace LatencyHarness

open Text

/-! ### One operation in a directory -/

namespace Folder

variable {es es' : List (FileName × Node)}

/-- What stands in the directory, if there is one. -/
def entries : Folder → List (FileName × Node)
  | listing es => es
  | absent | blocked => []

theorem get?_eq_lookup (f : Folder) (name : FileName) : f.get? name = f.entries.lookup name := by
  cases f with
  | absent => rfl
  | blocked => rfl
  | listing es => rfl

theorem erase_insert (es : List (FileName × Node)) (name : FileName) (node : Node) :
    erase (insert es name node) name = erase es name := by
  simp [insert, erase]

end Folder

namespace FolderTask

open Folder (insert erase)

section Bind

variable {α β : Type} {t : FolderTask α} {k : α → FolderTask β} {f f' : Folder}

theorem on_bind {a : α} (h : t.on f = (.ok a, f')) : (t >>= k).on f = (k a).on f' := by
  unfold on at h
  split at h
  · next hrun =>
    obtain ⟨ha, hf'⟩ := Prod.mk.inj h
    obtain rfl := Except.ok.inj ha
    subst hf'
    simp only [on, bind, EStateM.bind, hrun]
  · exact absurd (Prod.mk.inj h).1 nofun

theorem on_bind_error {e : SystemError} (h : t.on f = (.error e, f')) :
    (t >>= k).on f = (.error e, f') := by
  unfold on at h
  split at h
  · exact absurd (Prod.mk.inj h).1 nofun
  · next hrun =>
    obtain ⟨he, hf'⟩ := Prod.mk.inj h
    obtain rfl := Except.error.inj he
    subst hf'
    simp only [on, bind, EStateM.bind, hrun]

end Bind

variable {es : List (FileName × Node)} {name newName : FileName}

theorem entries_on : entries.on (.listing es) = (.ok es, .listing es) := rfl

/-- Where nothing is in the way there is a directory afterwards. -/
theorem create_on {f : Folder} (hplace : f ≠ .blocked) :
    create.on f = (.ok (), .listing f.entries) := by
  cases f with
  | absent => rfl
  | blocked => exact absurd rfl hplace
  | listing es => rfl

theorem write_on (es : List (FileName × Node)) (name : FileName) (content : Utf8.Bytes) :
    (write name content).on (.listing es) =
      if es.lookup name = some .folder then (.error .isADirectory, .listing es)
      else (.ok (), .listing (insert es name (.file content))) := by
  refine (on_bind entries_on).trans ?_
  split
  · rfl
  · rfl

/-- A file takes the place of another one, but not that of a directory. -/
theorem rename_on (newName : FileName) {content : Utf8.Bytes}
    (hfile : es.lookup name = some (.file content)) :
    (rename name newName).on (.listing es) =
      if es.lookup newName = some .folder then (.error .isADirectory, .listing es)
      else (.ok (), .listing (insert (erase es name) newName (.file content))) := by
  refine (on_bind entries_on).trans ?_
  rw [hfile]
  by_cases hfolder : es.lookup newName = some .folder
  · rw [if_pos hfolder]
    dsimp only
    rw [if_pos ⟨hfolder, nofun⟩]
    rfl
  · rw [if_neg hfolder]
    dsimp only
    rw [if_neg fun h => hfolder h.1]
    rfl

theorem read_on (es : List (FileName × Node)) (name : FileName) :
    (read name).on (.listing es) =
      match es.lookup name with
      | none => (.error .notFound, .listing es)
      | some .folder => (.error .isADirectory, .listing es)
      | some (.file content) => (.ok content, .listing es) := by
  refine (on_bind entries_on).trans ?_
  cases es.lookup name with
  | none => rfl
  | some node =>
    cases node with
    | folder => rfl
    | file content => rfl

end FolderTask

namespace Pidfile

variable {f f' : Folder} {role : Role} {r : PidRecord}

/-! ### One pidfile -/

/-- The answer to a reader for what stands under the name of a pidfile. -/
def reply : Option Node → Except SystemError PidRecord
  | none => .error .notFound
  | some .folder => .error .isADirectory
  | some (.file content) => decode content

theorem read_on (hplace : f ≠ .blocked) :
    (read role).on f = (reply (f.get? (fileName role)), f) := by
  cases f with
  | absent => rfl
  | blocked => exact absurd rfl hplace
  | listing es =>
    change _ = (reply (es.lookup (fileName role)), _)
    have hfetch := FolderTask.read_on es (fileName role)
    cases hnode : es.lookup (fileName role) with
    | none =>
      rw [hnode] at hfetch
      exact FolderTask.on_bind_error hfetch
    | some node =>
      rw [hnode] at hfetch
      cases node with
      | folder => exact FolderTask.on_bind_error hfetch
      | file content =>
        refine (FolderTask.on_bind hfetch).trans ?_
        have hreply : reply (some (.file content)) = decode content := rfl
        rw [hreply]
        cases decode content with
        | error e => rfl
        | ok r => rfl

theorem reply_eq_ok {node? : Option Node} :
    reply node? = .ok r ↔ node?.bind Node.record? = some r := by
  match node? with
  | none => exact ⟨nofun, nofun⟩
  | some .folder => exact ⟨nofun, nofun⟩
  | some (.file content) =>
    change decode content = .ok r ↔ (Node.file content).record? = some r
    rw [Node.record?_eq_some]
    exact ⟨fun h => ⟨content, rfl, h⟩, fun ⟨_, heq, h⟩ => Node.file.inj heq ▸ h⟩

/-- A role's pidfile is read exactly if it holds a record. -/
theorem read_eq_ok : (read role).on f = (.ok r, f) ↔ record? f role = some r := by
  by_cases hplace : f = .blocked
  · subst hplace
    exact ⟨nofun, nofun⟩
  · rw [read_on hplace, Prod.mk.injEq, and_iff_left rfl]
    exact reply_eq_ok

/-- Two directories that hold the same under the name of a pidfile are read with the same result. -/
theorem read_congr (hplace : f' = .blocked ↔ f = .blocked)
    (hget : f'.get? (fileName role) = f.get? (fileName role)) :
    ((read role).on f').1 = ((read role).on f).1 := by
  by_cases h : f = .blocked
  · rw [h, hplace.mpr h]
  · rw [read_on h, read_on (mt hplace.mp h), hget]

/-- A written record goes by way of the temporary file. A directory under one of the two names is
in the way. -/
theorem write_on (hplace : f ≠ .blocked) : (write role r).on f =
    if f.get? (temporaryName role) = some .folder then (.error .isADirectory, .listing f.entries)
    else if f.get? (fileName role) = some .folder then
      (.error .isADirectory,
        .listing (Folder.insert f.entries (temporaryName role) (.file (Utf8.encode r.render))))
    else
      (.ok (), .listing (Folder.insert (Folder.erase f.entries (temporaryName role)) (fileName role)
        (.file (Utf8.encode r.render)))) := by
  let content := Utf8.encode r.render
  have hwrite := FolderTask.write_on f.entries (temporaryName role) content
  -- the renaming finds the file that the writing has put there
  have hfile : (Folder.insert f.entries (temporaryName role) (.file content)).lookup
      (temporaryName role) = some (.file content) :=
    (Folder.lookup_insert f.entries (temporaryName role) _ _).trans (if_pos rfl)
  have hrename := FolderTask.rename_on (fileName role) hfile
  rw [Folder.lookup_insert, if_neg (fileName_ne_temporaryName role role), Folder.erase_insert]
    at hrename
  simp only [Folder.get?_eq_lookup]
  refine (FolderTask.on_bind (FolderTask.create_on hplace)).trans ?_
  split
  · next htemporary =>
    rw [if_pos htemporary] at hwrite
    exact FolderTask.on_bind_error hwrite
  · next htemporary =>
    rw [if_neg htemporary] at hwrite
    refine (FolderTask.on_bind hwrite).trans ?_
    split
    · next hfile =>
      rw [if_pos hfile] at hrename
      exact FolderTask.on_bind_error hrename
    · next hfile =>
      rw [if_neg hfile] at hrename
      exact FolderTask.on_bind hrename

/-- The directory after a record has been written. -/
theorem eq_of_written (hwritten : (write role r).on f = (.ok (), f')) : f ≠ .blocked ∧
    f' = .listing (Folder.insert (Folder.erase f.entries (temporaryName role)) (fileName role)
      (.file (Utf8.encode r.render))) := by
  have hplace : f ≠ .blocked := by
    rintro rfl
    exact absurd (Prod.mk.inj hwritten).1 nofun
  rw [write_on hplace] at hwritten
  split at hwritten
  · exact absurd (Prod.mk.inj hwritten).1 nofun
  · split at hwritten
    · exact absurd (Prod.mk.inj hwritten).1 nofun
    · exact ⟨hplace, (Prod.mk.inj hwritten).2.symm⟩

/-- The record stands under the name of the pidfile, nothing under that of the temporary file, and
all other names are left alone. -/
theorem get?_written (hwritten : (write role r).on f = (.ok (), f')) (name : FileName) :
    f'.get? name = if name = fileName role then some (.file (Utf8.encode r.render))
      else if name = temporaryName role then none else f.get? name := by
  obtain ⟨-, rfl⟩ := eq_of_written hwritten
  simp only [Folder.get?_eq_lookup]
  exact (Folder.lookup_insert _ _ _ _).trans (by rw [Folder.lookup_erase])

/-- What has been written can be written over again. -/
theorem write_again (hwritten : (write role r).on f = (.ok (), f')) (k : PidRecord) :
    ((write role k).on f').1 = .ok () := by
  have hplace : f' ≠ .blocked := by
    obtain ⟨-, rfl⟩ := eq_of_written hwritten
    exact nofun
  have htemporary : f'.get? (temporaryName role) = none := by
    rw [get?_written hwritten, if_neg (fileName_ne_temporaryName role role).symm, if_pos rfl]
  have hfile : f'.get? (fileName role) = some (.file (Utf8.encode r.render)) := by
    rw [get?_written hwritten, if_pos rfl]
  rw [write_on hplace, htemporary, hfile]
  rfl

theorem read_written (hwritten : (write role r).on f = (.ok (), f')) :
    (read role).on f' = (.ok r.kept, f') := by
  have hfile : f'.get? (fileName role) = some (.file (Utf8.encode r.render)) := by
    rw [get?_written hwritten, if_pos rfl]
  exact read_eq_ok.mpr (record?_eq_some.mpr ⟨_, hfile, decode_encode_render r⟩)

theorem read_written_of_ne (hwritten : (write role r).on f = (.ok (), f')) {other : Role}
    (hother : other ≠ role) : ((read other).on f').1 = ((read other).on f).1 := by
  obtain ⟨hplace, hf'⟩ := eq_of_written hwritten
  refine read_congr ⟨fun h => absurd (hf'.symm.trans h) nofun, fun h => absurd h hplace⟩ ?_
  rw [get?_written hwritten, if_neg fun h => hother (fileName_inj h),
    if_neg (fileName_ne_temporaryName other role)]

/-- A record that has been written is read back. Its process id and its port are as they were, and
of the command there is the first line, without the blanks around it. A command that is such a line
comes back unchanged, and so does all that has been read before. The pidfile of the other role is
read as it was. -/
theorem record_is_read_back (hwritten : (write role r).on f = (.ok (), f')) :
    (read role).on f' =
        (.ok ⟨r.pid, r.port, String.ofList (trim (PidRecord.firstLine r.command))⟩, f') ∧
      (PidRecord.IsOneLine r.command → (read role).on f' = (.ok r, f')) ∧
      (∀ k g g', (read role).on g = (.ok k, g) → (write role k).on g = (.ok (), g') →
        (read role).on g' = (.ok k, g')) ∧
      (∀ k, ((write role k).on f').1 = .ok ()) ∧
      ∀ other ≠ role, ((read other).on f').1 = ((read other).on f).1 := by
  refine ⟨read_written hwritten, fun hline => ?_, fun k g g' hbefore hk => ?_,
    write_again hwritten, fun other hother => read_written_of_ne hwritten hother⟩
  · rw [read_written hwritten, PidRecord.kept_eq_self hline]
  · obtain ⟨_, -, hdecode⟩ := record?_eq_some.mp (read_eq_ok.mp hbefore)
    rw [read_written hk, PidRecord.kept_eq_self (isOneLine_of_decode hdecode)]

/-- A record whose command has blanks in front and goes on after a line break. -/
def brokenRecord : PidRecord := ⟨4294967295, 65535, "  exec just server2\r\n7\n--port 3004 "⟩

theorem record_is_read_back_with_broken_command :
    (write .server2 brokenRecord).on .absent =
        (.ok (), ((write .server2 brokenRecord).on .absent).2) ∧
      (read .server2).on ((write .server2 brokenRecord).on .absent).2 =
        (.ok ⟨4294967295, 65535, "exec just server2"⟩,
          ((write .server2 brokenRecord).on .absent).2) := by
  have hwritten : (write .server2 brokenRecord).on .absent =
      (.ok (), ((write .server2 brokenRecord).on .absent).2) := rfl
  have hcommand : String.ofList (trim (PidRecord.firstLine brokenRecord.command)) =
      "exec just server2" := by decide +kernel
  refine ⟨hwritten, (record_is_read_back hwritten).1.trans ?_⟩
  rw [hcommand]
  rfl

/-! ### The whole directory -/

theorem list_on (hnames : f.names.Nodup) (hplace : f ≠ .blocked) :
    list.on f = (.ok (records f), f) :=
  Prod.ext (list_eq hnames hplace) (list_keeps f)

/-- Looking through a directory finds the records that reading the pidfiles one by one finds, in
start order and each role once at most. It does not matter what else is there, and in which order
the names are listed. -/
theorem list_agrees_with_read (hnames : f.names.Nodup) (hplace : f ≠ .blocked) :
    ∃ rs, list.on f = (.ok rs, f) ∧
      (∀ role r, (role, r) ∈ rs ↔ (read role).on f = (.ok r, f)) ∧
      (rs.map (·.1)).Sublist [.server2, .server1] ∧
      (f = .absent → rs = []) ∧
      ∀ es es', f = .listing es → es.Perm es' →
        list.on (.listing es') = (.ok rs, .listing es') := by
  refine ⟨records f, list_on hnames hplace, fun role r => mem_records.trans read_eq_ok.symm,
    records_order, ?_, ?_⟩
  · rintro rfl
    rfl
  · rintro es es' rfl hperm
    have hnames' : (Folder.listing es').names.Nodup := (hperm.map _).nodup_iff.mp hnames
    have hsame : records (.listing es') = records (.listing es) := by
      have hrole (role : Role) : record? (.listing es') role = record? (.listing es) role :=
        record?_congr (f := .listing es) (lookup_perm hperm hnames (fileName role))
      unfold records
      simp only [hrole]
    rw [list_on hnames' nofun, hsame]

/-- A directory with all kinds of names, one of which is no text, and a directory in the place of
a pidfile. -/
def oddFolder : Folder := .listing
  [(fileName .server1, .folder), (temporaryName .server2, .file (Utf8.encode "1\n2\n".toList)),
    (Utf8.encode ".pid".toList, .file (Utf8.encode "1\n2\n".toList)),
    ([0xff, 0x2e, 0x70, 0x69, 0x64], .file [0xff]),
    (Utf8.encode "server2.PID".toList, .file (Utf8.encode "1\n2\n".toList)),
    (fileName .server2, .file (Utf8.encode " +0101 \r\n3004".toList)),
    (Utf8.encode "server1.old.pid".toList, .file (Utf8.encode "1\n2\n".toList))]

theorem list_agrees_with_read_in_odd_folder : oddFolder.names.Nodup ∧ oddFolder ≠ .blocked ∧
    ∃ rs, list.on oddFolder = (.ok rs, oddFolder) ∧
      (.server2, ⟨101, 3004, ""⟩) ∈ rs ∧ ∀ r, (.server1, r) ∉ rs := by
  have hnames : oddFolder.names.Nodup := by decide +kernel
  obtain ⟨rs, hlist, hmem, -⟩ := list_agrees_with_read hnames (by decide)
  refine ⟨hnames, by decide, rs, hlist, (hmem _ _).mpr ?_, fun r hr => ?_⟩
  · exact read_eq_ok.mpr (by decide +kernel)
  · exact absurd (read_eq_ok.mp ((hmem _ _).mp hr)) nofun

end Pidfile

end LatencyHarness
