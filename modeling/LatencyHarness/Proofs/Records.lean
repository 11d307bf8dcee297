import LatencyHarness.Pidfile
import LatencyHarness.Proofs.Lookups
import LatencyHarness.Proofs.Steps
import LatencyHarness.Proofs.Texts

/-! What a pidfile keeps of a launched process, and what becomes of the pidfiles in their directory.

A record is read back with its process id and its port; of the command its first line is kept,
without the blanks around it. Writing a pidfile and deleting one leave the file of the other role
alone, and a failed write leaves both as they were. -/
namespace LatencyHarness

open Text

/-! ### The text of a record -/

namespace PidRecord

/-- The first line of a command, as far as the first line feed. -/
def firstLine (command : String) : List Char := command.toList.takeWhile (· ≠ '\n')

/-- The record with what its pidfile keeps of the command. -/
def kept (r : PidRecord) : PidRecord :=
  { r with command := String.ofList (trim (firstLine r.command)) }

theorem feed_notMem_firstLine (command : String) : '\n' ∉ firstLine command := by
  intro hmem
  have hne := List.mem_takeWhile_imp hmem
  exact absurd rfl (of_decide_eq_true hne)

/-- A command with a line feed behind it begins with its first line. -/
theorem command_append_feed (command : String) :
    ∃ rest, command.toList ++ ['\n'] = firstLine command ++ '\n' :: rest := by
  by_cases hfeed : '\n' ∈ command.toList
  · obtain ⟨rest, hcut⟩ := takeWhile_ne_append_of_mem hfeed
    refine ⟨rest ++ ['\n'], ?_⟩
    calc command.toList ++ ['\n']
        = (firstLine command ++ '\n' :: rest) ++ ['\n'] := congrArg (· ++ ['\n']) hcut
      _ = firstLine command ++ '\n' :: (rest ++ ['\n']) := by
        rw [List.append_assoc, List.cons_append]
  · refine ⟨[], ?_⟩
    rw [firstLine, takeWhile_ne_of_notMem hfeed]

/-- The first three lines of a pidfile are the process id, the port and the command's first
line. -/
theorem lines_render (r : PidRecord) :
    ∃ rest, lines r.render = numeral r.pid.toNat :: numeral r.port.toNat ::
      dropReturn .char (firstLine r.command) :: rest := by
  obtain ⟨rest, hrest⟩ := command_append_feed r.command
  have hrender : r.render = numeral r.pid.toNat ++ '\n' ::
      (numeral r.port.toNat ++ '\n' :: (firstLine r.command ++ '\n' :: rest)) := by
    rw [← hrest]
    simp [render]
  have hpid := splitLines_append_feed (b := .char) (feed_notMem_numeral r.pid.toNat)
  have hport := splitLines_append_feed (b := .char) (feed_notMem_numeral r.port.toNat)
  have hcommand := splitLines_append_feed (b := .char) (feed_notMem_firstLine r.command) rest
  rw [dropReturn_numeral] at hpid hport
  refine ⟨splitLines .char rest, ?_⟩
  calc lines r.render
      = splitLines .char (numeral r.pid.toNat ++ '\n' ::
          (numeral r.port.toNat ++ '\n' :: (firstLine r.command ++ '\n' :: rest))) :=
        congrArg lines hrender
    _ = numeral r.pid.toNat :: splitLines .char
          (numeral r.port.toNat ++ '\n' :: (firstLine r.command ++ '\n' :: rest)) := hpid _
    _ = numeral r.pid.toNat :: numeral r.port.toNat ::
          splitLines .char (firstLine r.command ++ '\n' :: rest) := congrArg _ (hport _)
    _ = numeral r.pid.toNat :: numeral r.port.toNat :: dropReturn .char (firstLine r.command) ::
          splitLines .char rest := congrArg _ (congrArg _ hcommand)

theorem numberLine?_numeral {limit n : Nat} (h : n ≤ limit) :
    numberLine? limit (some (numeral n)) = some n := by
  change nat? limit (trim (numeral n)) = some n
  rw [trim_numeral, nat?_numeral h]

/-- A record is read back from its text. -/
theorem parse_render (r : PidRecord) : parse r.render = .ok r.kept := by
  obtain ⟨rest, hlines⟩ := lines_render r
  have hpid : r.pid.toNat ≤ maxU32 := Nat.le_of_lt_succ r.pid.toNat_lt
  have hport : r.port.toNat ≤ maxU16 := Nat.le_of_lt_succ r.port.toNat_lt
  simp only [parse, hlines, List.getElem?_cons_zero, List.getElem?_cons_succ, Option.getD_some,
    numberLine?_numeral hpid, numberLine?_numeral hport, UInt32.ofNat_toNat, UInt16.ofNat_toNat,
    trim_dropReturn]
  rfl

/-- A command that its pidfile keeps as it is: one line, without blanks around it. -/
structure IsOneLine (command : String) : Prop where
  line : '\n' ∉ command.toList
  trimmed : trim command.toList = command.toList

theorem kept_eq_self {r : PidRecord} (h : IsOneLine r.command) : r.kept = r := by
  have hcommand : String.ofList (trim (firstLine r.command)) = r.command := by
    rw [firstLine, takeWhile_ne_of_notMem h.line, h.trimmed, String.ofList_toList]
  rw [kept, hcommand]

/-- The command of a record that was read is such a line. -/
theorem isOneLine_of_parse {text : List Char} {r : PidRecord} (h : parse text = .ok r) :
    IsOneLine r.command := by
  unfold parse at h
  dsimp only at h
  split at h
  · exact absurd h nofun
  · exact absurd h nofun
  · obtain rfl := Except.ok.inj h
    have hline : '\n' ∉ (lines text)[2]?.getD [] := by
      cases hthird : (lines text)[2]? with
      | none => exact List.not_mem_nil
      | some line => exact feed_notMem_of_mem_splitLines (List.mem_of_getElem? hthird)
    refine ⟨?_, ?_⟩
    · rw [String.toList_ofList]
      exact fun hmem => hline ((trim_isPart _).subset hmem)
    · rw [String.toList_ofList, trim_trim]

end PidRecord

namespace Folder

/-! ### Files in a directory -/

/-- The content of a file, if the name stands for one. -/
def file? (f : Folder) (name : FileName) : Option Text.Utf8.Bytes :=
  match f.get? name with
  | some (.file content) => some content
  | some .folder | none => none

theorem file?_eq_some {f : Folder} {name : FileName} {content : Text.Utf8.Bytes} :
    f.file? name = some content ↔ f.get? name = some (.file content) := by
  unfold file?
  split <;> simp_all

theorem file?_congr {f f' : Folder} {name : FileName} (h : f'.get? name = f.get? name) :
    f'.file? name = f.file? name := by
  unfold file?
  rw [h]

end Folder

namespace FolderTask

open Folder

theorem ends_on {α : Type} {t : FolderTask α} {f : Folder} {Q : α → Folder → Prop}
    {E : SystemError → Folder → Prop} (h : Ends t f Q E) :
    match (t.on f).1 with
    | .ok a => Q a (t.on f).2
    | .error e => E e (t.on f).2 := by
  unfold on
  cases ht : t f with
  | ok a f' => exact h.of_ok ht
  | error e f' => exact h.of_error ht

variable (f : Folder) (name newName : FileName)

theorem create_ends :
    Ends create f (fun _ f' => ∀ n, f'.get? n = f.get? n) (fun _ f' => f' = f) := by
  cases f with
  | absent => exact fun _ => rfl
  | blocked => rfl
  | listing es => exact fun _ => rfl

theorem entries_ends :
    Ends entries f (fun es f' => f = .listing es ∧ f' = .listing es)
      (fun _ f' => f' = f ∧ f.file? name = none) := by
  cases f with
  | absent => exact ⟨rfl, rfl⟩
  | blocked => exact ⟨rfl, rfl⟩
  | listing es => exact ⟨rfl, rfl⟩

theorem write_ends (content : Text.Utf8.Bytes) :
    Ends (write name content) f
      (fun _ f' => ∀ n, f'.get? n = if n = name then some (.file content) else f.get? n)
      (fun _ f' => f' = f) := by
  refine ((entries_ends f name).mono (fun _ _ h => h) fun _ _ h => h.1).bind
    fun es _ ⟨hf, hf'⟩ => ?_
  subst hf hf'
  change Ends (if es.lookup name = some .folder then _ else _) (Folder.listing es) _ _
  split
  · rfl
  · exact fun n => lookup_insert es name n (.file content)

theorem rename_ends :
    Ends (rename name newName) f
      (fun _ f' => ∀ n, f'.get? n = if n = newName then f.get? name
        else if n = name then none else f.get? n)
      (fun _ f' => f' = f) := by
  refine ((entries_ends f name).mono (fun _ _ h => h) fun _ _ h => h.1).bind
    fun es _ ⟨hf, hf'⟩ => ?_
  subst hf hf'
  cases hnode : es.lookup name with
  | none => rfl
  | some node =>
    change Ends (if es.lookup newName = some .folder ∧ node ≠ .folder then _ else _)
      (Folder.listing es) _ _
    split
    · rfl
    · intro n
      change (insert (erase es name) newName node).lookup n =
        if n = newName then es.lookup name else if n = name then none else es.lookup n
      rw [lookup_insert, lookup_erase, hnode]

theorem remove_ends :
    Ends (remove name) f (fun _ f' => ∀ n, f'.get? n = if n = name then none else f.get? n)
      (fun _ f' => f' = f ∧ f.file? name = none) := by
  refine (entries_ends f name).bind fun es _ ⟨hf, hf'⟩ => ?_
  subst hf hf'
  have hfile : (Folder.listing es).get? name = es.lookup name := rfl
  unfold file?
  rw [hfile]
  cases es.lookup name with
  | none => exact ⟨rfl, rfl⟩
  | some node =>
    cases node with
    | folder => exact ⟨rfl, rfl⟩
    | file content => exact fun n => lookup_erase es name n

theorem read_ends :
    Ends (read name) f (fun content f' => f' = f ∧ f.file? name = some content)
      (fun _ f' => f' = f ∧ f.file? name = none) := by
  refine (entries_ends f name).bind fun es _ ⟨hf, hf'⟩ => ?_
  subst hf hf'
  have hfile : (Folder.listing es).get? name = es.lookup name := rfl
  unfold file?
  rw [hfile]
  cases es.lookup name with
  | none => exact ⟨rfl, rfl⟩
  | some node =>
    cases node with
    | folder => exact ⟨rfl, rfl⟩
    | file content => exact ⟨rfl, rfl⟩

end FolderTask

/-! ### The pidfiles in a directory -/

namespace Pidfile

variable (role : Role) (r : PidRecord) (f : Folder)

theorem fileName_inj {role role' : Role} (h : fileName role = fileName role') : role = role' := by
  cases role <;> cases role' <;> first | rfl | exact absurd h (by decide)

theorem fileName_ne_temporaryName (role role' : Role) : fileName role ≠ temporaryName role' := by
  cases role <;> cases role' <;> decide

/-- A pidfile that has been written holds the record; one that could not be written is as it was.
In both cases nothing happens to that of the other role. -/
theorem write_ends :
    Ends (write role r) f
      (fun _ f' => f'.get? (fileName role) = some (.file (Text.Utf8.encode r.render)) ∧
        ∀ other ≠ role, f'.get? (fileName other) = f.get? (fileName other))
      (fun _ f' => ∀ other, f'.get? (fileName other) = f.get? (fileName other)) := by
  change Ends (do
    FolderTask.create
    FolderTask.write (temporaryName role) (Text.Utf8.encode r.render)
    FolderTask.rename (temporaryName role) (fileName role)
    pure ()) f _ _
  refine ((FolderTask.create_ends f).mono (fun _ _ h => h) fun _ f' h => ?_).bind fun _ f₁ h₁ => ?_
  · subst h
    exact fun _ => rfl
  refine ((FolderTask.write_ends f₁ _ _).mono (fun _ _ h => h) fun _ f' h => ?_).bind
    fun _ f₂ h₂ => ?_
  · subst h
    exact fun other => h₁ _
  -- the file has its contents under the temporary name, which no pidfile goes by
  have hkept (other : Role) : f₂.get? (fileName other) = f.get? (fileName other) := by
    rw [h₂, if_neg (fileName_ne_temporaryName other role), h₁]
  refine ((FolderTask.rename_ends f₂ _ _).mono (fun _ _ h => h) fun _ f' h => ?_).bind
    fun _ f₃ h₃ => ?_
  · subst h
    exact hkept
  refine ⟨?_, fun other hother => ?_⟩
  · rw [h₃, if_pos rfl, h₂, if_pos rfl]
  · rw [h₃, if_neg fun h => hother (fileName_inj h),
      if_neg (fileName_ne_temporaryName other role), hkept]

/-- The pidfile of a role after an attempt to write it. -/
theorem file?_write : ((write role r).on f).2.file? (fileName role) =
    if ((write role r).on f).1.isOk then some (Text.Utf8.encode r.render)
    else f.file? (fileName role) := by
  have hends := FolderTask.ends_on (write_ends role r f)
  split at hends
  · next hok =>
    rw [hok]
    exact Folder.file?_eq_some.mpr hends.1
  · next herror =>
    rw [herror]
    exact Folder.file?_congr (hends role)

theorem file?_write_of_ne {role other : Role} (hother : other ≠ role) :
    ((write role r).on f).2.file? (fileName other) = f.file? (fileName other) := by
  have hends := FolderTask.ends_on (write_ends role r f)
  split at hends
  · exact Folder.file?_congr (hends.2 other hother)
  · exact Folder.file?_congr (hends other)

/-- A directory without the pidfile of a role, and otherwise the same. -/
structure Loses (f f' : Folder) : Prop where
  gone : f'.file? (fileName role) = none
  others : ∀ name ≠ fileName role, f'.get? name = f.get? name

/-- Whether a pidfile was there to be deleted or not, there is none afterwards. -/
theorem delete_ends :
    Ends (delete role) f (fun _ f' => Loses role f f') (fun _ f' => Loses role f f') := by
  have hremove : Ends (FolderTask.remove (fileName role)) f (fun _ f' => Loses role f f')
      (fun _ f' => f' = f ∧ f.file? (fileName role) = none) := by
    refine (FolderTask.remove_ends f (fileName role)).mono (fun _ f' h => ?_) fun _ _ h => h
    have hgone : f'.get? (fileName role) = none := by rw [h, if_pos rfl]
    refine ⟨?_, fun name hname => by rw [h, if_neg hname]⟩
    unfold Folder.file?
    rw [hgone]
  unfold delete
  -- a file that is missing is passed over, any other fault is passed on; both leave all as it was
  refine Ends.bind (Q := fun _ f' => Loses role f f')
    (Ends.tryCatch (hremove.bind fun _ _ h => h) fun e f' ⟨hf', hnone⟩ => ?_) fun r f' h => ?_
  · subst hf'
    split
    · exact ⟨hnone, fun _ _ => rfl⟩
    · exact ⟨hnone, fun _ _ => rfl⟩
  · cases r with
    | error _ => exact h
    | ok _ => exact h

theorem loses_delete : Loses role f ((delete role).on f).2 := by
  have hends := FolderTask.ends_on (delete_ends role f)
  split at hends
  · exact hends
  · exact hends

/-- A pidfile that can be read is a file, and its text is that of a record. -/
theorem read_ends :
    Ends (read role) f
      (fun r f' => f' = f ∧ ∃ content, f.file? (fileName role) = some content ∧
        decode content = .ok r)
      (fun _ f' => f' = f) := by
  refine ((FolderTask.read_ends f (fileName role)).mono (fun _ _ h => h) fun _ _ h => h.1).bind
    fun content f' ⟨hf', hfile⟩ => ?_
  subst hf'
  cases hdecode : decode content with
  | error e => rfl
  | ok r => exact ⟨rfl, content, hfile, hdecode⟩

theorem read_of_file? {content : Text.Utf8.Bytes} {r : PidRecord}
    (hfile : f.file? (fileName role) = some content) (hdecode : decode content = .ok r) :
    read role f = .ok r f := by
  have hread : Ends (read role) f (fun r' f' => r' = r ∧ f' = f) (fun _ _ => False) := by
    refine Ends.bind (Q := fun c f' => f' = f ∧ f.file? (fileName role) = some c)
      ((FolderTask.read_ends f (fileName role)).mono (fun _ _ h => h) fun _ _ h => ?_)
      fun c f' ⟨hf', hc⟩ => ?_
    · exact absurd (h.2.symm.trans hfile) nofun
    · subst hf'
      obtain rfl := Option.some.inj (hc.symm.trans hfile)
      rw [hdecode]
      exact ⟨rfl, rfl⟩
  obtain ⟨_, _, hrun, rfl, rfl⟩ := hread.exists_ok
  exact hrun

/-- The bytes of a rendered record are those of the record as its pidfile keeps it. -/
theorem decode_encode_render : decode (Text.Utf8.encode r.render) = .ok r.kept := by
  unfold decode
  rw [Text.Utf8.decode_encode]
  change (PidRecord.parse r.render).mapError _ = .ok r.kept
  rw [PidRecord.parse_render]
  rfl

theorem isOneLine_of_decode {content : Text.Utf8.Bytes} {r : PidRecord}
    (h : decode content = .ok r) : PidRecord.IsOneLine r.command := by
  unfold decode at h
  split at h
  · exact absurd h nofun
  · next text _ =>
    cases hparse : PidRecord.parse text with
    | error e =>
      rw [hparse] at h
      exact absurd h nofun
    | ok r' =>
      rw [hparse] at h
      obtain rfl := Except.ok.inj h
      exact PidRecord.isOneLine_of_parse hparse

/-! ### The names of the pidfiles -/

theorem roleOf?_fileName : roleOf? (fileName role) = some role := by
  cases role <;> decide

theorem fileName_eq :
    fileName role =
      Text.Utf8.encode role.slug.toList ++ dot :: Text.Utf8.encode ['p', 'i', 'd'] := by
  cases role <;> decide

/-- A name that has an extension is put together from its stem and its extension. -/
theorem splitExtension_spec {name stem ext : FileName}
    (h : splitExtension name = (stem, some ext)) : name = stem ++ dot :: ext := by
  unfold splitExtension at h
  extract_lets ext' stem' at h
  split at h
  · exact absurd h nofun
  · next hproper =>
    obtain ⟨hstem, hext⟩ := Prod.mk.inj h
    obtain rfl := Option.some.inj hext
    obtain rfl := hstem
    by_cases hdot : dot ∈ name.reverse
    · obtain ⟨front, hcut⟩ := takeWhile_ne_append_of_mem hdot
      have hname : name = front.reverse ++ dot :: ext' := by
        have hreverse := congrArg List.reverse hcut
        simpa [ext'] using hreverse
      -- the stem is what is left when the extension and the dot are taken off the end
      have hstem : stem' = front.reverse := by
        have hlen : name.length - ext'.length - 1 = front.reverse.length := by
          have hsum := congrArg List.length hname
          rw [List.length_append, List.length_cons] at hsum
          omega
        change name.take (name.length - ext'.length - 1) = _
        rw [hlen, hname, List.take_left]
      rw [hstem]
      exact hname
    · -- without a dot all of the name would be the extension
      have hall : ext'.length = name.length := by
        change (List.reverse (List.takeWhile _ name.reverse)).length = name.length
        rw [takeWhile_ne_of_notMem hdot, List.reverse_reverse]
      exact absurd (.inr hall) hproper

/-- The role of a directory entry is that of the pidfile of this name. -/
theorem eq_fileName_of_roleOf? {name : FileName} {role : Role} (h : roleOf? name = some role) :
    name = fileName role := by
  unfold roleOf? at h
  split at h
  · next stem ext hsplit =>
    split at h
    · next hext =>
      have hstem := List.find?_some h
      rw [splitExtension_spec hsplit, hext, fileName_eq, eq_of_beq hstem]
    · exact absurd h nofun
  · exact absurd h nofun

/-! ### Looking through the directory -/

theorem recordOf?_eq_some {name : FileName} {node : Node} {role : Role} {r : PidRecord} :
    recordOf? (name, node) = some (role, r) ↔
      name = fileName role ∧ ∃ content, node = .file content ∧ decode content = .ok r := by
  cases node with
  | folder => simp [recordOf?]
  | file content =>
    simp only [recordOf?]
    constructor
    · intro h
      split at h
      · next role' r' hrole hdecode =>
        obtain ⟨rfl, rfl⟩ := Prod.mk.inj (Option.some.inj h)
        exact ⟨eq_fileName_of_roleOf? hrole, content, rfl, hdecode⟩
      · exact absurd h nofun
    · rintro ⟨rfl, content, hnode, hdecode⟩
      obtain rfl := Node.file.inj hnode
      simp only [roleOf?_fileName, hdecode]

theorem list_keeps : (list.on f).2 = f := by
  cases f with
  | absent => rfl
  | blocked => rfl
  | listing es => rfl

/-- The records of a directory in which each name stands once are those of its pidfiles. -/
theorem mem_list {f : Folder} {rs : List (Role × PidRecord)} (hnodup : f.names.Nodup)
    (hlist : (list.on f).1 = .ok rs) (role : Role) (r : PidRecord) :
    (role, r) ∈ rs ↔
      ∃ content, f.file? (fileName role) = some content ∧ decode content = .ok r := by
  cases f with
  | absent =>
    obtain rfl := Except.ok.inj hlist
    exact ⟨nofun, fun ⟨_, hfile, _⟩ => absurd hfile nofun⟩
  | blocked => exact absurd hlist nofun
  | listing es =>
    obtain rfl := Except.ok.inj hlist
    have hlookup (content : Text.Utf8.Bytes) :
        (Folder.listing es).file? (fileName role) = some content ↔
          (fileName role, .file content) ∈ es :=
      Folder.file?_eq_some.trans (lookup_eq_some_iff_mem hnodup)
    simp only [List.mem_flatMap, List.mem_filter, List.mem_filterMap, hlookup]
    constructor
    · rintro ⟨_, _, ⟨⟨name, node⟩, hmem, hrecord⟩, _⟩
      obtain ⟨rfl, content, rfl, hdecode⟩ := recordOf?_eq_some.mp hrecord
      exact ⟨content, hmem, hdecode⟩
    · rintro ⟨content, hmem, hdecode⟩
      refine ⟨role, role.mem_startOrder, ⟨_, hmem, ?_⟩, decide_eq_true rfl⟩
      exact recordOf?_eq_some.mpr ⟨rfl, content, rfl, hdecode⟩

theorem exists_list {f : Folder} {name : FileName} {content : Text.Utf8.Bytes}
    (hfile : f.file? name = some content) : ∃ rs, (list.on f).1 = .ok rs := by
  cases f with
  | absent => exact absurd hfile nofun
  | blocked => exact absurd hfile nofun
  | listing es => exact ⟨_, rfl⟩

end Pidfile

end LatencyHarness
