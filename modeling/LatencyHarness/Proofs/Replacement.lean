import LatencyHarness.Proofs.Retrieval

/-! A pidfile is replaced as a whole or not at all.

Everything up to the renaming happens under a temporary name, which no reader looks at. A call that
stops before, wherever that is, leaves a directory that cannot be told from the one before, and what
stays behind under the temporary name is in nobody's way. -/
namespace LatencyHarness.Pidfile

open Text
open Folder (erase insert)

variable {f f' f'' : Folder} {role : Role} {r : PidRecord}

/-! ### The records of the roles -/

/-- The records of one role among the entries of a directory. -/
def recordsOf (role : Role) (es : List (FileName × Node)) : List (Role × PidRecord) :=
  (es.filterMap recordOf?).filter (·.1 = role)

theorem recordsOf_eq (role : Role) (es : List (FileName × Node)) : recordsOf role es =
    es.filterMap fun e => if fileName role = e.1 then e.2.record?.map (role, ·) else none := by
  unfold recordsOf
  rw [List.filter_filterMap]
  exact congrArg (List.filterMap · es) (funext fun e => recordOf?_filter e.1 e.2 role)

theorem recordsOf_erase (role : Role) (es : List (FileName × Node)) (name : FileName) :
    recordsOf role (erase es name) = if fileName role = name then [] else recordsOf role es := by
  simp only [recordsOf_eq, erase, List.filterMap_filter]
  split
  · next hname =>
    refine List.filterMap_eq_nil_iff.mpr fun e _ => ?_
    split
    · next he => exact if_neg fun hrole => bne_iff_ne.mp he (hrole.symm.trans hname)
    · rfl
  · next hname =>
    refine congrArg (List.filterMap · es) (funext fun e => ?_)
    split
    · rfl
    · next he =>
      have hsame : e.1 = name := by simpa using he
      exact (if_neg fun hrole => hname (hrole.trans hsame)).symm

theorem recordsOf_insert (role : Role) (es : List (FileName × Node)) (name : FileName)
    (node : Node) : recordsOf role (insert es name node) =
      if fileName role = name then (node.record?.map (role, ·)).toList else recordsOf role es := by
  have herase := recordsOf_erase role es name
  rw [recordsOf_eq] at herase
  rw [recordsOf_eq, Folder.insert.eq_1, List.filterMap_cons, herase]
  by_cases hname : fileName role = name
  · simp only [hname, if_true]
    cases node.record? with
    | none => rfl
    | some r => rfl
  · simp only [hname, if_false]

/-- A directory is listed role by role. -/
theorem list_eq_recordsOf (hplace : f ≠ .blocked) :
    list.on f = (.ok (Role.startOrder.flatMap (recordsOf · f.entries)), f) := by
  cases f with
  | absent => rfl
  | blocked => exact absurd rfl hplace
  | listing es => rfl

theorem filter_recordsOf (es : List (FileName × Node)) (role : Role) :
    (Role.startOrder.flatMap (recordsOf · es)).filter (·.1 = role) = recordsOf role es := by
  have hrole (other : Role) : (recordsOf other es).filter (·.1 = role) =
      if other = role then recordsOf role es else [] := by
    unfold recordsOf
    rw [List.filter_filter]
    split
    · next hsame => simp only [hsame, Bool.and_self]
    · next hother =>
      refine List.filter_eq_nil_iff.mpr fun x _ hx => ?_
      rw [Bool.and_eq_true, decide_eq_true_iff, decide_eq_true_iff] at hx
      exact hother (hx.2.symm.trans hx.1)
  rw [List.filter_flatMap]
  simp only [hrole]
  cases role with
  | server2 => simp [Role.startOrder]
  | server1 => simp [Role.startOrder]

/-! ### Steps that no reader notices -/

/-- From the one directory to the other nothing has changed but some files under temporary names. -/
structure Hides (f f' : Folder) : Prop where
  place : f' = .blocked ↔ f = .blocked
  pidfiles : ∀ role, f'.get? (fileName role) = f.get? (fileName role)
  temporary : ∀ role, f'.get? (temporaryName role) = some .folder ↔
    f.get? (temporaryName role) = some .folder
  records : ∀ role, recordsOf role f'.entries = recordsOf role f.entries

/-- Two directories that look the same to readers and to those who write to them. -/
structure Alike (f f' : Folder) : Prop where
  read : ∀ role, ((read role).on f').1 = ((read role).on f).1
  list : (list.on f').1 = (list.on f).1
  write : ∀ role r, ((write role r).on f').1 = ((write role r).on f).1

namespace Hides

theorem refl (f : Folder) : Hides f f :=
  ⟨.rfl, fun _ => rfl, fun _ => .rfl, fun _ => rfl⟩

theorem symm (h : Hides f f') : Hides f' f :=
  ⟨h.place.symm, fun role => (h.pidfiles role).symm, fun role => (h.temporary role).symm,
    fun role => (h.records role).symm⟩

theorem trans (h : Hides f f') (h' : Hides f' f'') : Hides f f'' :=
  ⟨h'.place.trans h.place, fun role => (h'.pidfiles role).trans (h.pidfiles role),
    fun role => (h'.temporary role).trans (h.temporary role),
    fun role => (h'.records role).trans (h.records role)⟩

theorem alike (h : Hides f f') : Alike f f' := by
  refine ⟨fun role => read_congr h.place (h.pidfiles role), ?_, fun role r => ?_⟩
  · by_cases hplace : f = .blocked
    · rw [hplace, h.place.mpr hplace]
    · rw [list_eq_recordsOf hplace, list_eq_recordsOf (mt h.place.mp hplace)]
      simp only [h.records]
  · by_cases hplace : f = .blocked
    · rw [hplace, h.place.mpr hplace]
    · rw [write_on hplace, write_on (mt h.place.mp hplace), h.pidfiles]
      simp only [h.temporary]
      split
      · rfl
      · split
        · rfl
        · rfl

/-- A directory that is made is empty. -/
theorem listing (hplace : f ≠ .blocked) : Hides f (.listing f.entries) := by
  cases f with
  | absent => exact ⟨⟨nofun, nofun⟩, fun _ => rfl, fun _ => .rfl, fun _ => rfl⟩
  | blocked => exact absurd rfl hplace
  | listing es => exact .refl _

/-- A temporary file is put in the place of nothing or of another one. -/
theorem insert {es : List (FileName × Node)} {role : Role} (content : Utf8.Bytes)
    (hfile : es.lookup (temporaryName role) ≠ some .folder) :
    Hides (.listing es) (.listing (Folder.insert es (temporaryName role) (.file content))) := by
  have hlookup (name : FileName) :
      (Folder.insert es (temporaryName role) (.file content)).lookup name =
        if name = temporaryName role then some (.file content) else es.lookup name :=
    Folder.lookup_insert es _ name _
  refine ⟨⟨nofun, nofun⟩, fun other => ?_, fun other => ?_, fun other => ?_⟩
  · exact (hlookup _).trans (if_neg (fileName_ne_temporaryName other role))
  · change (Folder.insert es _ _).lookup _ = _ ↔ es.lookup _ = _
    rw [hlookup]
    split
    · next hsame =>
      rw [hsame]
      exact ⟨nofun, fun h => absurd h hfile⟩
    · exact .rfl
  · exact (recordsOf_insert other es _ _).trans (if_neg (fileName_ne_temporaryName other role))

theorem erase {es : List (FileName × Node)} {role : Role}
    (hfile : es.lookup (temporaryName role) ≠ some .folder) :
    Hides (.listing es) (.listing (Folder.erase es (temporaryName role))) := by
  have hlookup (name : FileName) : (Folder.erase es (temporaryName role)).lookup name =
      if name = temporaryName role then none else es.lookup name := Folder.lookup_erase es _ name
  refine ⟨⟨nofun, nofun⟩, fun other => ?_, fun other => ?_, fun other => ?_⟩
  · exact (hlookup _).trans (if_neg (fileName_ne_temporaryName other role))
  · change (Folder.erase es _).lookup _ = _ ↔ es.lookup _ = _
    rw [hlookup]
    split
    · next hsame =>
      rw [hsame]
      exact ⟨nofun, fun h => absurd h hfile⟩
    · exact .rfl
  · exact (recordsOf_erase other es _).trans (if_neg (fileName_ne_temporaryName other role))

end Hides

/-! ### A call that stops -/

/-- What has been done of some steps when their execution stops: the steps up to some point, the
last of which may have put only the beginning of a file in place. -/
inductive Stopped : List Step → List Step → Prop
  | here (steps : List Step) : Stopped steps []
  | torn (name : FileName) {content part : Utf8.Bytes} (steps : List Step) (h : part <+: content) :
    Stopped (.write name content :: steps) [.write name part]
  | next (s : Step) {steps done : List Step} (h : Stopped steps done) :
    Stopped (s :: steps) (s :: done)

/-- A step that leaves the names of the pidfiles alone. -/
inductive Step.IsHidden : Step → Prop
  | create : IsHidden .create
  | write (role : Role) (content : Utf8.Bytes) : IsHidden (.write (temporaryName role) content)

/-- The steps that have been done are all of them, or none has touched a pidfile. -/
theorem Stopped.eq_or_hidden {done : List Step} (h : Stopped (steps role r) done) :
    done = steps role r ∨ ∀ s ∈ done, s.IsHidden := by
  -- the case split goes along the three steps; only the last one touches a pidfile
  cases h with
  | here => exact .inr nofun
  | next _ h =>
    cases h with
    | here => exact .inr (List.forall_mem_singleton.mpr .create)
    | torn _ _ hpart =>
      exact .inr (List.forall_mem_cons.mpr ⟨.create, List.forall_mem_singleton.mpr (.write ..)⟩)
    | next _ h =>
      cases h with
      | here =>
        exact .inr (List.forall_mem_cons.mpr ⟨.create, List.forall_mem_singleton.mpr (.write ..)⟩)
      | next _ h =>
        cases h with
        | here => exact .inl rfl

theorem Step.IsHidden.hides {s : Step} (h : s.IsHidden) (f : Folder) : Hides f (s.run.on f).2 := by
  cases h with
  | create =>
    by_cases hplace : f = .blocked
    · subst hplace
      exact .refl _
    · change Hides f (FolderTask.create.on f).2
      rw [FolderTask.create_on hplace]
      exact .listing hplace
  | write role content =>
    change Hides f ((FolderTask.write (temporaryName role) content).on f).2
    cases f with
    | absent => exact .refl _
    | blocked => exact .refl _
    | listing es =>
      rw [FolderTask.write_on]
      split
      · exact .refl _
      · next hfile => exact .insert content hfile

/-- However many hidden steps are done, no reader notices. -/
theorem hides_run {done : List Step} (h : ∀ s ∈ done, s.IsHidden) (f : Folder) :
    Hides f ((done.forM Step.run).on f).2 := by
  induction done generalizing f with
  | nil => exact .refl f
  | cons s done ih =>
    obtain ⟨hs, hdone⟩ := List.forall_mem_cons.mp h
    have hfirst : Hides f (s.run.on f).2 := hs.hides f
    change Hides f ((s.run >>= fun _ => done.forM Step.run).on f).2
    cases hrun : s.run.on f with
    | mk result f₁ =>
      rw [hrun] at hfirst
      cases result with
      | ok u =>
        rw [FolderTask.on_bind hrun]
        exact hfirst.trans (ih hdone f₁)
      | error e =>
        rw [FolderTask.on_bind_error hrun]
        exact hfirst

/-- A call that fails leaves a temporary file at most. -/
theorem hides_failed {e : SystemError} (hfailed : (write role r).on f = (.error e, f')) :
    Hides f f' := by
  by_cases hplace : f = .blocked
  · subst hplace
    obtain rfl := (Prod.mk.inj hfailed).2
    exact .refl _
  · rw [write_on hplace] at hfailed
    split at hfailed
    · obtain rfl := (Prod.mk.inj hfailed).2
      exact .listing hplace
    · next htemporary =>
      rw [Folder.get?_eq_lookup] at htemporary
      split at hfailed
      · obtain rfl := (Prod.mk.inj hfailed).2
        exact (Hides.listing hplace).trans (.insert _ htemporary)
      · exact absurd (Prod.mk.inj hfailed).1 nofun

/-- A call to write a pidfile that does not come to its end: it is broken off, be it in the middle
of a step, or a step fails. -/
inductive Aborts (f : Folder) : Folder → Prop
  | broken {role : Role} {r : PidRecord} {done : List Step} (h : Stopped (steps role r) done)
    (hdone : done ≠ steps role r) : Aborts f ((done.forM Step.run).on f).2
  | failed {role : Role} {r : PidRecord} {e : SystemError} {f' : Folder}
    (h : (write role r).on f = (.error e, f')) : Aborts f f'

theorem Aborts.hides (h : Aborts f f') : Hides f f' := by
  cases h with
  | broken h hdone => exact hides_run (h.eq_or_hidden.resolve_left hdone) f
  | failed h => exact hides_failed h

/-- Of any number of such calls no reader notices anything. -/
theorem hides_aborts (h : Relation.ReflTransGen Aborts f f') : Hides f f' := by
  induction h with
  | refl => exact .refl f
  | tail _ hlast ih => exact ih.trans hlast.hides

/-! ### A call that succeeds -/

/-- From the one directory to the other the record of one role has been replaced, and those of the
others are as they were. -/
structure Replaces (role : Role) (r : PidRecord) (f f' : Folder) : Prop where
  parses : decode (Utf8.encode r.render) = .ok r.kept
  read : (read role).on f' = (.ok r.kept, f')
  others : ∀ other ≠ role, ((Pidfile.read other).on f').1 = ((Pidfile.read other).on f).1
  list : ∃ rs rs', list.on f = (.ok rs, f) ∧ list.on f' = (.ok rs', f') ∧
    rs'.filter (·.1 = role) = [(role, r.kept)] ∧
    ∀ other ≠ role, rs'.filter (·.1 = other) = rs.filter (·.1 = other)

theorem replaces (hwritten : (write role r).on f = (.ok (), f')) : Replaces role r f f' := by
  obtain ⟨hplace, hf'⟩ := eq_of_written hwritten
  -- the listing goes by the roles, and only the one role has a new entry
  have hrecords (other : Role) : recordsOf other f'.entries =
      if other = role then [(role, r.kept)] else recordsOf other f.entries := by
    have hrecord : (Node.file (Utf8.encode r.render)).record? = some r.kept :=
      Node.record?_eq_some.mpr ⟨_, rfl, decode_encode_render r⟩
    rw [hf']
    change recordsOf other (insert (erase f.entries (temporaryName role)) (fileName role) _) = _
    rw [recordsOf_insert, recordsOf_erase, if_neg (fileName_ne_temporaryName other role), hrecord]
    by_cases hother : other = role
    · subst hother
      rw [if_pos rfl, if_pos rfl]
      rfl
    · rw [if_neg fun h => hother (fileName_inj h), if_neg hother]
  refine ⟨decode_encode_render r, read_written hwritten,
    fun other hother => read_written_of_ne hwritten hother, _, _,
    list_eq_recordsOf hplace, list_eq_recordsOf (hf' ▸ nofun), ?_, fun other hother => ?_⟩
  · rw [filter_recordsOf, hrecords, if_pos rfl]
  · rw [filter_recordsOf, filter_recordsOf, hrecords, if_neg hother]

/-- Wherever a call stops, the record has been replaced or nothing has happened. -/
theorem alike_or_replaces {done : List Step} (h : Stopped (steps role r) done) (f : Folder) :
    Alike f ((done.forM Step.run).on f).2 ∨
      done = steps role r ∧ Replaces role r f ((done.forM Step.run).on f).2 := by
  rcases h.eq_or_hidden with rfl | hhidden
  · change Alike f ((write role r).on f).2 ∨ _ ∧ Replaces role r f ((write role r).on f).2
    cases hrun : (write role r).on f with
    | mk result f' =>
      cases result with
      | ok u => exact .inr ⟨rfl, replaces hrun⟩
      | error e => exact .inl (hides_failed hrun).alike
  · exact .inl (hides_run hhidden f).alike

/-- A pidfile is replaced as a whole or not at all, wherever a call to write it stops. Any number of
calls that break off or fail leave a directory that looks as before, to readers and later writers.
A call that succeeds replaces the record of its role and no other. A temporary file that was left
behind makes no difference. -/
theorem write_is_atomic (f : Folder) :
    (∀ role r done, Stopped (steps role r) done → Alike f ((done.forM Step.run).on f).2 ∨
        done = steps role r ∧ Replaces role r f ((done.forM Step.run).on f).2) ∧
      (∀ f', Relation.ReflTransGen Aborts f f' → Alike f f') ∧
      (∀ role r f', (write role r).on f = (.ok (), f') → Replaces role r f f') ∧
      ∀ es role content, f = .listing es → es.lookup (temporaryName role) = some (.file content) →
        Alike (.listing (erase es (temporaryName role))) f := by
  refine ⟨fun role r done h => alike_or_replaces h f, fun f' h => (hides_aborts h).alike,
    fun role r f' => replaces, ?_⟩
  rintro es role content rfl hfile
  have hfolder : es.lookup (temporaryName role) ≠ some .folder := by
    rw [hfile]
    exact nofun
  exact (Hides.erase hfolder).symm.alike

/-- A directory with a pidfile and a torn temporary file. -/
def tornFolder : Folder := .listing
  [(fileName .server1, .file (Utf8.encode "101\n3002\njust server1\n".toList)),
    (temporaryName .server2, .file (Utf8.encode "10".toList))]

/-- What a call has done that stops in the middle of the temporary file. -/
def tornSteps : List Step :=
  [.create, .write (temporaryName .server1) (Utf8.encode "7\n30".toList)]

theorem write_is_atomic_in_torn_folder :
    Relation.ReflTransGen Aborts tornFolder ((tornSteps.forM Step.run).on tornFolder).2 ∧
      ((read .server1).on ((tornSteps.forM Step.run).on tornFolder).2).1 =
        .ok ⟨101, 3002, "just server1"⟩ ∧
      Replaces .server2 ⟨102, 3004, "just server2"⟩ tornFolder
        ((write .server2 ⟨102, 3004, "just server2"⟩).on tornFolder).2 ∧
      tornFolder.get? (temporaryName .server2) = some (.file (Utf8.encode "10".toList)) ∧
      ((write .server2 ⟨102, 3004, "just server2"⟩).on
        (.listing (erase tornFolder.entries (temporaryName .server2)))).1 = .ok () := by
  obtain ⟨-, haborts, hsucceeds, hleft⟩ := write_is_atomic tornFolder
  have hpart : Utf8.encode "7\n30".toList <+:
      Utf8.encode (PidRecord.render ⟨7, 3002, "just server1 --fast"⟩) := by decide +kernel
  have hstopped : Stopped (steps .server1 ⟨7, 3002, "just server1 --fast"⟩) tornSteps :=
    .next _ (.torn _ _ hpart)
  have haborted := Aborts.broken (f := tornFolder) hstopped
    fun h => absurd (congrArg List.length h) (by decide)
  have hwritten : (write .server2 ⟨102, 3004, "just server2"⟩).on tornFolder =
      (.ok (), ((write .server2 ⟨102, 3004, "just server2"⟩).on tornFolder).2) := rfl
  have hread : ((read .server1).on tornFolder).1 = .ok ⟨101, 3002, "just server1"⟩ := by
    decide +kernel
  refine ⟨.single haborted, ?_, hsucceeds _ _ _ hwritten, rfl, ?_⟩
  · exact ((haborts _ (.single haborted)).read .server1).trans hread
  · exact ((hleft _ .server2 _ rfl rfl).write _ _).symm.trans (congrArg Prod.fst hwritten)

end LatencyHarness.Pidfile
