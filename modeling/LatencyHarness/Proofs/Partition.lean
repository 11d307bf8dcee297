import LatencyHarness.Proofs.Recognition

/-! The probe for pidfiles parts the recorded processes in two.

One that is there and still looks as it was recorded is reported and keeps its pidfile. The pidfile
of any other is removed. Nothing else in the directory is touched, so a second look at the same
processes finds the same ones, and nothing more to remove. -/
namespace LatencyHarness

open Pidfile (fileName)

variable {σ : Type} [Host σ]

/-! ### The records of a directory -/

namespace Node

/-- The record that stands in a readable pidfile. -/
def record? : Node → Option PidRecord
  | file content => (Pidfile.decode content).toOption
  | folder => none

theorem record?_eq_some {node : Node} {r : PidRecord} :
    node.record? = some r ↔ ∃ content, node = .file content ∧ Pidfile.decode content = .ok r := by
  cases node with
  | folder => exact ⟨nofun, fun ⟨_, h, _⟩ => absurd h nofun⟩
  | file content =>
    have hread : (file content).record? = some r ↔ Pidfile.decode content = .ok r := by
      change (Pidfile.decode content).toOption = some r ↔ _
      cases Pidfile.decode content with
      | error e => simp [Except.toOption]
      | ok r' => simp [Except.toOption]
    rw [hread]
    exact ⟨fun h => ⟨content, rfl, h⟩, fun ⟨_, heq, h⟩ => file.inj heq ▸ h⟩

end Node

namespace Pidfile

/-- The record of a role, if its pidfile is there and can be read. -/
def record? (f : Folder) (role : Role) : Option PidRecord :=
  (f.get? (fileName role)).bind Node.record?

variable {f f' f'' : Folder} {role : Role} {r : PidRecord}

theorem record?_eq_some : record? f role = some r ↔
    ∃ content, f.get? (fileName role) = some (.file content) ∧ decode content = .ok r := by
  unfold record?
  rw [Option.bind_eq_some_iff]
  constructor
  · rintro ⟨node, hnode, hr⟩
    obtain ⟨content, rfl, hdecode⟩ := Node.record?_eq_some.mp hr
    exact ⟨content, hnode, hdecode⟩
  · rintro ⟨content, hnode, hdecode⟩
    exact ⟨_, hnode, Node.record?_eq_some.mpr ⟨content, rfl, hdecode⟩⟩

theorem record?_congr (h : f'.get? (fileName role) = f.get? (fileName role)) :
    record? f' role = record? f role := by
  unfold record?
  rw [h]

/-- The command of a record that was read has no blanks around it. -/
theorem trim_command (h : record? f role = some r) :
    Text.trim r.command.toList = r.command.toList := by
  obtain ⟨_, _, hdecode⟩ := record?_eq_some.mp h
  exact (isOneLine_of_decode hdecode).trimmed

/-- Of the entries under a key there is one at most, the one that is looked up. -/
theorem filterMap_key_eq {κ β γ : Type} [BEq κ] [LawfulBEq κ] [DecidableEq κ] {es : List (κ × β)}
    (hnodup : (es.map (·.1)).Nodup) (k : κ) (g : β → Option γ) :
    es.filterMap (fun e => if k = e.1 then g e.2 else none) = ((es.lookup k).bind g).toList := by
  induction es with
  | nil => rfl
  | cons e es ih =>
    obtain ⟨key, value⟩ := e
    obtain ⟨hnew, hrest⟩ := List.nodup_cons.mp hnodup
    rw [List.filterMap_cons]
    by_cases hk : k = key
    · subst hk
      have hlater : es.filterMap (fun e => if k = e.1 then g e.2 else none) = [] := by
        refine List.filterMap_eq_nil_iff.mpr fun e he => if_neg fun heq => hnew ?_
        exact heq ▸ List.mem_map_of_mem (f := (·.1)) he
      simp only [if_true, List.lookup_cons_self, Option.bind_some, hlater]
      cases g value with
      | none => rfl
      | some c => rfl
    · simp only [hk, if_false, List.lookup_cons, beq_false_of_ne hk]
      exact ih hrest

/-- The record that an entry is for a role: that of a readable file with the role's name. -/
theorem recordOf?_filter (name : FileName) (node : Node) (role : Role) :
    (recordOf? (name, node)).filter (·.1 = role) =
      if fileName role = name then (node.record?.map (role, ·)) else none := by
  refine Option.ext fun x => ?_
  obtain ⟨other, r⟩ := x
  rw [Option.filter_eq_some_iff, recordOf?_eq_some, decide_eq_true_iff]
  constructor
  · rintro ⟨⟨rfl, content, rfl, hdecode⟩, rfl⟩
    rw [if_pos rfl]
    exact Option.map_eq_some_iff.mpr ⟨r, Node.record?_eq_some.mpr ⟨content, rfl, hdecode⟩, rfl⟩
  · intro h
    split at h
    · next hname =>
      obtain ⟨r', hr', heq⟩ := Option.map_eq_some_iff.mp h
      obtain ⟨rfl, rfl⟩ := Prod.mk.inj heq
      exact ⟨⟨hname.symm, Node.record?_eq_some.mp hr'⟩, rfl⟩
    · exact absurd h nofun

/-- The entries of a directory hold one record of a role at most. -/
theorem records_of_role {es : List (FileName × Node)} (hnodup : (es.map (·.1)).Nodup)
    (role : Role) : (es.filterMap recordOf?).filter (·.1 = role) =
      ((record? (.listing es) role).map (role, ·)).toList := by
  have hentry (e : FileName × Node) : (recordOf? e).filter (·.1 = role) =
      if fileName role = e.1 then (e.2.record?.map (role, ·)) else none :=
    recordOf?_filter e.1 e.2 role
  calc (es.filterMap recordOf?).filter (·.1 = role)
    _ = es.filterMap fun e => if fileName role = e.1 then e.2.record?.map (role, ·) else none := by
      rw [List.filter_filterMap]
      exact congrArg (List.filterMap · es) (funext hentry)
    _ = ((es.lookup (fileName role)).bind fun node => node.record?.map (role, ·)).toList :=
      filterMap_key_eq hnodup (fileName role) fun node => node.record?.map (role, ·)
    _ = ((record? (.listing es) role).map (role, ·)).toList := by
      rw [record?, Option.map_bind]
      rfl

/-- The records of a directory, in start order. -/
def records (f : Folder) : List (Role × PidRecord) :=
  Role.startOrder.filterMap fun role => (record? f role).map (role, ·)

theorem list_eq (hnames : f.names.Nodup) (hlisted : f ≠ .blocked) :
    (list.on f).1 = .ok (records f) := by
  cases f with
  | absent => rfl
  | blocked => exact absurd rfl hlisted
  | listing es =>
    refine congrArg Except.ok ?_
    calc Role.startOrder.flatMap (fun role => (es.filterMap recordOf?).filter (·.1 = role))
      _ = Role.startOrder.flatMap fun role =>
          ((record? (.listing es) role).map (role, ·)).toList :=
        congrArg (Role.startOrder.flatMap ·) (funext fun role => records_of_role hnames role)
      _ = records (.listing es) := (List.filterMap_eq_flatMap_toList _ _).symm

theorem mem_records : (role, r) ∈ records f ↔ record? f role = some r := by
  unfold records
  rw [List.mem_filterMap]
  constructor
  · rintro ⟨other, -, hother⟩
    obtain ⟨r', hr', heq⟩ := Option.map_eq_some_iff.mp hother
    obtain ⟨rfl, rfl⟩ := Prod.mk.inj heq
    exact hr'
  · intro hr
    exact ⟨role, role.mem_startOrder, by rw [hr, Option.map_some]⟩

theorem records_order : ((records f).map (·.1)).Sublist Role.startOrder := by
  have horder (l : List Role) :
      ((l.filterMap fun role => (record? f role).map (role, ·)).map (·.1)).Sublist l := by
    induction l with
    | nil => exact .slnil
    | cons role l ih =>
      rw [List.filterMap_cons]
      cases record? f role with
      | none => exact ih.cons role
      | some r => exact ih.cons_cons role
  exact horder Role.startOrder

/-! ### The loss of pidfiles -/

/-- From the one directory to the other the pidfiles of some roles have gone, and nothing else has
changed. -/
structure Drops (gone : Role → Prop) (f f' : Folder) : Prop where
  names : f'.names.Sublist f.names
  listed : f ≠ .blocked → f' ≠ .blocked
  same : (∀ role, ¬ gone role) → f' = f
  absent : ∀ role, gone role → f'.get? (fileName role) = none
  others : ∀ name, (∀ role, gone role → name ≠ fileName role) → f'.get? name = f.get? name

variable {gone gone' : Role → Prop}

theorem Drops.refl (h : ∀ role, ¬ gone role) : Drops gone f f :=
  ⟨.refl _, id, fun _ => rfl, fun role hrole => absurd hrole (h role), fun _ _ => rfl⟩

theorem Drops.congr (h : Drops gone f f') (hiff : ∀ role, gone role ↔ gone' role) :
    Drops gone' f f' := by
  obtain rfl : gone = gone' := funext fun role => propext (hiff role)
  exact h

theorem Drops.trans (h : Drops gone f f') (h' : Drops gone' f' f'') :
    Drops (fun role => gone role ∨ gone' role) f f'' := by
  refine ⟨h'.names.trans h.names, fun hf => h'.listed (h.listed hf), fun hnone => ?_,
    fun role hrole => ?_, fun name hname => ?_⟩
  · rw [h'.same fun role hrole => hnone role (.inr hrole),
      h.same fun role hrole => hnone role (.inl hrole)]
  · by_cases hlater : gone' role
    · exact h'.absent role hlater
    · -- what has gone in the first part stays away
      have hkept : f''.get? (fileName role) = f'.get? (fileName role) := by
        refine h'.others _ fun other hother heq => ?_
        obtain rfl := fileName_inj heq
        exact hlater hother
      exact hkept.trans (h.absent role (hrole.resolve_right hlater))
  · calc f''.get? name
      _ = f'.get? name := h'.others name fun role hrole => hname role (.inr hrole)
      _ = f.get? name := h.others name fun role hrole => hname role (.inl hrole)

theorem names_erase (es : List (FileName × Node)) (name : FileName) :
    (Folder.listing (Folder.erase es name)).names.Sublist (Folder.listing es).names :=
  List.filter_sublist.map _

/-- A file that is there can be deleted. -/
theorem delete_on {es : List (FileName × Node)} {content : Text.Utf8.Bytes}
    (hfile : es.lookup (fileName role) = some (.file content)) :
    (delete role).on (.listing es) = (.ok (), .listing (Folder.erase es (fileName role))) := by
  let removed : Folder := .listing (Folder.erase es (fileName role))
  have hremove : Ends (FolderTask.remove (fileName role)) (.listing es) (fun _ f' => f' = removed)
      (fun _ _ => False) := by
    have hentries : Ends FolderTask.entries (.listing es)
        (fun es' f' => es' = es ∧ f' = .listing es) (fun _ _ => False) := ⟨rfl, rfl⟩
    refine hentries.bind fun es' f' ⟨hes, hf'⟩ => ?_
    rw [hes, hf', hfile]
    rfl
  have hdelete : Ends (delete role) (.listing es) (fun _ f' => f' = removed)
      (fun _ _ => False) := by
    unfold delete
    refine Ends.bind (Q := fun r f' => (∃ u, r = .ok u) ∧ f' = removed)
      (Ends.tryCatch (hremove.bind fun _ _ h => ⟨⟨_, rfl⟩, h⟩) fun _ _ he => he.elim)
      fun r f' ⟨⟨_, hr⟩, h⟩ => ?_
    subst hr
    exact h
  obtain ⟨_, f', hrun, rfl⟩ := hdelete.exists_ok
  unfold FolderTask.on
  rw [hrun]

/-- A pidfile that can be read can be deleted, and nothing else goes with it. -/
theorem delete_drops (h : record? f role = some r) :
    ((delete role).on f).1 = .ok () ∧ Drops (· = role) f ((delete role).on f).2 := by
  obtain ⟨content, hfile, -⟩ := record?_eq_some.mp h
  cases f with
  | absent => exact absurd hfile nofun
  | blocked => exact absurd hfile nofun
  | listing es =>
    have hget (name : FileName) : (Folder.erase es (fileName role)).lookup name =
        if name = fileName role then none else es.lookup name := Folder.lookup_erase es _ name
    rw [delete_on hfile]
    refine ⟨rfl, names_erase es _, nofun, fun hnone => absurd rfl (hnone role), ?_, ?_⟩
    · rintro other rfl
      exact (hget _).trans (if_pos rfl)
    · intro name hname
      exact (hget name).trans (if_neg (hname role rfl))

/-! ### What a second look finds -/

variable {p : PidRecord → Bool}

/-- What has not gone is the record that was there before, and is one of those to keep. -/
theorem Drops.record?_eq_some (h : Drops (fun role => ∃ r, record? f role = some r ∧ p r = false)
    f f') : record? f' role = some r ↔ record? f role = some r ∧ p r = true := by
  -- either the pidfile has gone, or nothing has happened to it
  by_cases hgone : ∃ r, record? f role = some r ∧ p r = false
  · have habsent : record? f' role = none := by
      rw [record?, h.absent role hgone, Option.bind_none]
    obtain ⟨r', hr', hp⟩ := hgone
    rw [habsent, hr']
    refine ⟨nofun, fun ⟨heq, htrue⟩ => ?_⟩
    obtain rfl := Option.some.inj heq
    exact absurd (hp.symm.trans htrue) nofun
  · have hkept : record? f' role = record? f role := by
      refine record?_congr (h.others _ fun other hother heq => ?_)
      obtain rfl := fileName_inj heq
      exact hgone hother
    rw [hkept]
    refine ⟨fun hr => ⟨hr, ?_⟩, And.left⟩
    exact eq_true_of_ne_false fun hp => hgone ⟨r, hr, hp⟩

/-- The records that are left are those to keep. -/
theorem Drops.records_eq (h : Drops (fun role => ∃ r, record? f role = some r ∧ p r = false)
    f f') : records f' = (records f).filter (p ·.2) := by
  unfold records
  rw [List.filter_filterMap]
  refine congrArg (List.filterMap · Role.startOrder) (funext fun role => Option.ext fun x => ?_)
  obtain ⟨other, r⟩ := x
  simp only [Option.filter_eq_some_iff, Option.map_eq_some_iff, h.record?_eq_some, Prod.mk.injEq]
  constructor
  · rintro ⟨_, ⟨hr, hp⟩, rfl, rfl⟩
    exact ⟨⟨_, hr, rfl, rfl⟩, hp⟩
  · rintro ⟨⟨_, hr, rfl, rfl⟩, hp⟩
    exact ⟨_, ⟨hr, hp⟩, rfl, rfl⟩

end Pidfile

/-! ### The processes of the records -/

namespace Session

/-- The one session shows the same processes as the other. -/
structure SameTable (s s' : Session σ) : Prop where
  processes : Host.processes s'.host = Host.processes s.host
  hasProcess : ∀ n, Host.hasProcess n s'.host = Host.hasProcess n s.host

/-- The processes stay as they are while pidfiles are dropped. A host hears what is noted, so that
this has to be said. -/
def KeepsTable (s : Session σ) : Prop :=
  ∀ s', s.Reaches (Action.isDropping ·) s' → s.SameTable s'

theorem KeepsTable.reaches {s s' : Session σ} (h : s.KeepsTable)
    (hs : s.Reaches (Action.isDropping ·) s') : s'.KeepsTable := by
  intro s'' hs'
  have hfirst := h s' hs
  have hall := h s'' (hs.trans hs')
  exact ⟨hall.processes.trans hfirst.processes.symm,
    fun n => (hall.hasProcess n).trans (hfirst.hasProcess n).symm⟩

/-- A recorded process is there, and its command line holds the recorded command or matches one
of the patterns. -/
structure IsOurs (s : Session σ) (patterns : List Pattern) (r : PidRecord) : Prop where
  representable : r.pid.toNat ≤ maxOsPid
  alive : Host.hasProcess r.pid.toNat s.host = true
  shown : ∃ p, (Host.processes s.host).find? (·.pid == r.pid) = some p ∧
    (r.command ≠ "" ∧ r.command.toList <:+: p.commandLine.toList ∨
      ∃ m ∈ patterns, m.isMatch p.commandLine = true)

end Session

namespace Probe

variable {s : Session σ} {patterns : List Pattern} {role : Role} {r : PidRecord}

/-- Whether the process of a record is there and still looks as it was recorded. -/
def owns (patterns : List Pattern) (h : σ) (r : PidRecord) : Bool :=
  (osPid? r.pid).any (Host.hasProcess · h) &&
    (((Host.processes h).find? (·.pid == r.pid)).map (·.commandLine)).any
      (recognises r.command patterns)

theorem owns_congr {t : Session σ} (h : s.SameTable t) :
    owns patterns t.host = owns patterns s.host := by
  funext r
  unfold owns
  simp only [h.processes, h.hasProcess]

theorem recognises_iff (htrim : Text.trim r.command.toList = r.command.toList) (line : String) :
    recognises r.command patterns line = true ↔
      r.command ≠ "" ∧ r.command.toList <:+: line.toList ∨
        ∃ m ∈ patterns, m.isMatch line = true := by
  have hempty : r.command.toList.isEmpty = false ↔ r.command ≠ "" := by
    rw [List.isEmpty_eq_false_iff, ne_eq, ne_eq, String.toList_eq_nil_iff]
  unfold recognises Pattern.anyMatch
  rw [htrim, Bool.or_eq_true, Bool.and_eq_true, Bool.not_eq_true', hempty, Text.occursIn_iff,
    List.any_eq_true]

theorem owns_iff (htrim : Text.trim r.command.toList = r.command.toList) :
    owns patterns s.host r = true ↔ s.IsOurs patterns r := by
  have halive : (osPid? r.pid).any (Host.hasProcess · s.host) = true ↔
      r.pid.toNat ≤ maxOsPid ∧ Host.hasProcess r.pid.toNat s.host = true := by
    unfold osPid?
    split
    · next hpid => exact (and_iff_right hpid).symm
    · next hpid => exact ⟨nofun, fun h => absurd h.1 hpid⟩
  have hshown (entry : Option ProcessEntry) :
      (entry.map (·.commandLine)).any (recognises r.command patterns) = true ↔
        ∃ p, entry = some p ∧ (r.command ≠ "" ∧ r.command.toList <:+: p.commandLine.toList ∨
          ∃ m ∈ patterns, m.isMatch p.commandLine = true) := by
    cases entry with
    | none => exact ⟨nofun, fun ⟨_, h, _⟩ => absurd h nofun⟩
    | some p =>
      refine (recognises_iff htrim p.commandLine).trans ⟨fun h => ⟨p, rfl, h⟩, ?_⟩
      rintro ⟨_, heq, h⟩
      obtain rfl := Option.some.inj heq
      exact h
  unfold owns
  rw [Bool.and_eq_true, halive, hshown]
  exact ⟨fun ⟨⟨hpid, ha⟩, hs⟩ => ⟨hpid, ha, hs⟩, fun h => ⟨⟨h.representable, h.alive⟩, h.shown⟩⟩

/-! ### One record after the other -/

open Pidfile (record? records Drops)

/-- Some records are parted: those of the processes that are ours stand for targets, and the
pidfiles of the others have gone. -/
structure Parts (patterns : List Pattern) (s : Session σ) (rs : List (Role × PidRecord))
    (targets : List Target) (s' : Session σ) : Prop where
  targets : targets =
    (rs.filter (owns patterns s.host ·.2)).map fun x => recordedTarget x.1 x.2
  reaches : s.Reaches (Action.isDropping ·) s'
  drops : Drops (fun role => ∃ r, (role, r) ∈ rs ∧ owns patterns s.host r = false) s.pids s'.pids

namespace Parts

variable {rs rs' : List (Role × PidRecord)} {ts ts' : List Target} {s' t : Session σ}

theorem nil (s : Session σ) : Parts patterns s [] [] s :=
  ⟨rfl, .refl s, .refl fun _ ⟨_, hmem, _⟩ => absurd hmem nofun⟩

theorem kept (h : owns patterns s.host r = true) :
    Parts patterns s [(role, r)] [recordedTarget role r] s := by
  refine ⟨?_, .refl s, .refl fun other ⟨r', hmem, hgone⟩ => ?_⟩
  · simp [h]
  · obtain ⟨rfl, rfl⟩ := Prod.mk.inj (List.mem_singleton.mp hmem)
    exact absurd (h.symm.trans hgone) nofun

theorem dropped (h : owns patterns s.host r = false) (hreach : s.Reaches (Action.isDropping ·) s')
    (hdrops : Drops (· = role) s.pids s'.pids) : Parts patterns s [(role, r)] [] s' := by
  refine ⟨?_, hreach, hdrops.congr fun other => ⟨?_, ?_⟩⟩
  · simp [h]
  · rintro rfl
    exact ⟨r, List.mem_singleton_self _, h⟩
  · rintro ⟨r', hmem, -⟩
    exact (Prod.mk.inj (List.mem_singleton.mp hmem)).1

/-- What is parted later is judged by the same processes, if these stay as they are. -/
theorem append (h : Parts patterns s rs ts t) (hkeeps : s.KeepsTable)
    (h' : Parts patterns t rs' ts' s') : Parts patterns s (rs ++ rs') (ts ++ ts') s' := by
  have hsame : owns patterns t.host = owns patterns s.host := owns_congr (hkeeps t h.reaches)
  obtain ⟨htargets, hreach, hdrops⟩ := h'
  rw [hsame] at htargets hdrops
  refine ⟨?_, h.reaches.trans hreach, (h.drops.trans hdrops).congr fun role => ?_⟩
  · rw [h.targets, htargets, List.filter_append, List.map_append]
  · simp only [List.mem_append, or_and_right, exists_or]

end Parts

theorem dropRecord_drops (h : record? s.pids role = some r) :
    Ends (dropRecord role : Task σ Unit) s
      (fun _ s' => s.Reaches (Action.isDropping ·) s' ∧ Drops (· = role) s.pids s'.pids)
      (fun _ _ => False) := by
  obtain ⟨hok, hdrops⟩ := Pidfile.delete_drops h
  have hdelete : Ends (Task.inFolder (Pidfile.delete role) : Task σ _) s
      (fun result s' => result = .ok () ∧
        s' = (Action.folder ((Pidfile.delete role).on s.pids).2).apply s) (fun _ _ => False) :=
    ⟨hok, rfl⟩
  refine hdelete.bind fun result s₁ ⟨hresult, hs₁⟩ => ?_
  subst hresult hs₁
  exact ⟨.step s rfl, hdrops⟩

/-- A record stands for a target, or is dropped. -/
theorem recordTarget?_parts (patterns : List Pattern) (h : record? s.pids role = some r) :
    Ends (recordTarget? patterns role r : Task σ _) s
      (fun o s' => Parts patterns s [(role, r)] o.toList s') (fun _ _ => False) := by
  have hdrop {e : Event} (he : (Action.note e).isDropping = true)
      (hgone : owns patterns s.host r = false) :
      Ends (do
        Task.emit e
        dropRecord role
        return none : Task σ (Option Target)) s
        (fun o s' => Parts patterns s [(role, r)] o.toList s') (fun _ _ => False) := by
    have hnoted : s.Reaches (Action.isDropping ·) ((Action.note e).apply s) := .step s he
    have hrecord : record? ((Action.note e).apply s).pids role = some r := h
    refine Task.ends_emit_bind ((dropRecord_drops hrecord).bind fun _ s' ⟨hreach, hdrops⟩ => ?_)
    exact .dropped hgone (hnoted.trans hreach) hdrops
  have halive : Ends (isAlive r.pid : Task σ Bool) s
      (fun b s' => b = (osPid? r.pid).any (Host.hasProcess · s.host) ∧ s' = s)
      (fun _ _ => False) := by
    unfold isAlive
    cases osPid? r.pid with
    | none => exact ⟨rfl, rfl⟩
    | some n => exact ⟨rfl, rfl⟩
  have hours : Ends (isOurs r.pid r.command patterns : Task σ Bool) s
      (fun b s' => b = (((Host.processes s.host).find? (·.pid == r.pid)).map
        (·.commandLine)).any (recognises r.command patterns) ∧ s' = s) (fun _ _ => False) :=
    ⟨rfl, rfl⟩
  -- a record is dropped at the first of the two questions that is answered with no
  unfold recordTarget?
  refine halive.bind fun alive s₁ ⟨ha, hs₁⟩ => ?_
  subst hs₁
  have howns : owns patterns s₁.host r = (alive && _) := congrArg (· && _) ha.symm
  cases alive with
  | false => exact hdrop rfl howns
  | true =>
    refine hours.bind fun ours s₂ ⟨ho, hs₂⟩ => ?_
    subst hs₂
    rw [Bool.true_and, ← ho] at howns
    cases ours with
    | false => exact hdrop rfl howns
    | true => exact Parts.kept howns

/-- The records of different roles are looked into one after the other. What becomes of one
does not depend on the ones before. -/
theorem recordTargets_part (patterns : List Pattern) {rs : List (Role × PidRecord)}
    (hroles : (rs.map (·.1)).Nodup) (hrecords : ∀ x ∈ rs, record? s.pids x.1 = some x.2)
    (hkeeps : s.KeepsTable) :
    Ends (rs.filterMapM fun (role, r) => recordTarget? patterns role r : Task σ _) s
      (Parts patterns s rs) (fun _ _ => False) := by
  induction rs generalizing s with
  | nil => exact .nil s
  | cons x rs ih =>
    obtain ⟨role, r⟩ := x
    obtain ⟨hnew, hrest⟩ := List.nodup_cons.mp hroles
    rw [List.filterMapM_cons]
    refine (recordTarget?_parts patterns (hrecords _ List.mem_cons_self)).bind fun o s₁ h₁ => ?_
    -- the pidfiles of the records that follow are still there
    have hlater : ∀ y ∈ rs, record? s₁.pids y.1 = some y.2 := by
      intro y hy
      refine (Pidfile.record?_congr (h₁.drops.others _ fun other ⟨r', hmem, _⟩ heq => ?_)).trans
        (hrecords y (List.mem_cons_of_mem _ hy))
      have hrole : y.1 = role := (Pidfile.fileName_inj heq).trans
        (Prod.mk.inj (List.mem_singleton.mp hmem)).1
      exact hnew (hrole ▸ List.mem_map_of_mem (f := (·.1)) hy)
    have hnext := ih hrest hlater (hkeeps.reaches h₁.reaches)
    cases o with
    | none => exact hnext.mono (fun _ _ h => h₁.append hkeeps h) fun _ _ h => h
    | some target => exact hnext.bind fun _ _ h => h₁.append hkeeps h

/-- The probe parts the records of the directory. -/
theorem discover_parts (q : Request) (hnames : s.pids.names.Nodup) (hlisted : s.pids ≠ .blocked)
    (hkeeps : s.KeepsTable) :
    Ends ((pidfile : Probe σ).discover q) s
      (fun result s' => ∃ targets, result = .ok targets ∧
        Parts q.patterns s (records s.pids) targets s')
      (fun _ _ => False) := by
  have hlooked : Ends (Task.inFolder Pidfile.list : Task σ _) s
      (fun result s' => result = .ok (records s.pids) ∧ s' = s) (fun _ _ => False) := by
    refine ⟨Pidfile.list_eq hnames hlisted, ?_⟩
    change { s with pids := (Pidfile.list.on s.pids).2 } = s
    rw [Pidfile.list_keeps]
  have hroles : ((records s.pids).map (·.1)).Nodup :=
    Pidfile.records_order.nodup (by decide : Role.startOrder.Nodup)
  refine hlooked.bind fun result s₁ ⟨hresult, hs₁⟩ => ?_
  subst hresult hs₁
  refine (recordTargets_part q.patterns hroles (fun x hx => Pidfile.mem_records.mp hx)
    hkeeps).bind fun targets s' h => ?_
  exact ⟨targets, rfl, h⟩

/-- The probe for pidfiles parts the recorded processes. Those that are there and look as they were
recorded are reported in start order, and the pidfiles of the others, and no other file, are
removed. A second look at the same processes reports the same ones and removes nothing more. -/
theorem recorded_processes_are_parted {s : Session σ} (hnames : s.pids.names.Nodup)
    (hlisted : s.pids ≠ .blocked) (hkeeps : s.KeepsTable) (q : Request) :
    ∃ (kept : List (Role × PidRecord)) (s' : Session σ), (pidfile : Probe σ).discover q s =
        .ok (.ok (kept.map fun x => recordedTarget x.1 x.2)) s' ∧
      (kept.map (·.1)).Sublist Role.startOrder ∧
      (∀ role r, (role, r) ∈ kept ↔ record? s.pids role = some r ∧ s.IsOurs q.patterns r) ∧
      s.Reaches (Action.isDropping ·) s' ∧
      Drops (fun role => ∃ r, record? s.pids role = some r ∧ ¬ s.IsOurs q.patterns r)
        s.pids s'.pids ∧
      ∀ t : Session σ, t.pids = s'.pids → s.SameTable t → t.KeepsTable →
        ∃ t', (pidfile : Probe σ).discover q t =
            .ok (.ok (kept.map fun x => recordedTarget x.1 x.2)) t' ∧ t'.pids = t.pids := by
  obtain ⟨_, s', hrun, _, rfl, hparts⟩ := (discover_parts q hnames hlisted hkeeps).exists_ok
  have howns {role : Role} {r : PidRecord} (hr : record? s.pids role = some r) :
      owns q.patterns s.host r = true ↔ s.IsOurs q.patterns r := owns_iff (Pidfile.trim_command hr)
  have hdrops : Drops (fun role => ∃ r, record? s.pids role = some r ∧
      owns q.patterns s.host r = false) s.pids s'.pids :=
    hparts.drops.congr fun role => by simp only [Pidfile.mem_records]
  refine ⟨_, s', hparts.targets ▸ hrun, ?_, fun role r => ?_, hparts.reaches,
    hdrops.congr fun role => ?_, fun t hpids htable hkeeps' => ?_⟩
  · exact (List.filter_sublist.map _).trans Pidfile.records_order
  · rw [List.mem_filter, Pidfile.mem_records]
    exact and_congr_right howns
  · refine exists_congr fun r => and_congr_right fun hr => ?_
    rw [← howns hr, Bool.not_eq_true]
  · -- what is left are the records of processes that are ours, and nothing is dropped of these
    have hleft : records t.pids = (records s.pids).filter (owns q.patterns s.host ·.2) := by
      rw [hpids, hdrops.records_eq]
    obtain ⟨_, t', hrun', _, rfl, hparts'⟩ := (discover_parts q
      (hpids ▸ hdrops.names.nodup hnames) (hpids ▸ hdrops.listed hlisted) hkeeps').exists_ok
    obtain ⟨htargets, -, hdrops'⟩ := hparts'
    rw [owns_congr htable, hleft] at htargets hdrops'
    rw [List.filter_filter] at htargets
    simp only [Bool.and_self] at htargets
    refine ⟨t', htargets ▸ hrun', hdrops'.same fun role ⟨r, hmem, hgone⟩ => ?_⟩
    exact absurd ((List.mem_filter.mp hmem).2.symm.trans hgone) nofun

end Probe

namespace Simulation.Population

/-- A directory with a pidfile of a process that is there, one whose process id there cannot be,
and some other entries. -/
def mixedFolder : Folder := .listing
  [(fileName .server2, .file (Text.Utf8.encode "101\n3004\njust server2\n".toList)),
    (fileName .server1, .file (Text.Utf8.encode "4294967295\n3002\njust server1\n".toList)),
    (Text.Utf8.encode "server9.pid".toList, .file (Text.Utf8.encode "101\n3004\n".toList)),
    (Text.Utf8.encode "notes.pid".toList, .folder)]

def mixed : Session Population :=
  Session.start ⟨[⟨101, false, ["just", "server2", "--release"]⟩]⟩ mixedFolder

theorem keepsTable (s : Session Population) : s.KeepsTable := by
  intro s' hs
  have hhost : s'.host = s.host := host_eq_of_dropping hs
  exact ⟨congrArg Host.processes hhost, fun n => congrArg (Host.hasProcess n) hhost⟩

end Simulation.Population

namespace Probe

open Simulation.Population (mixed mixedFolder keepsTable)

/-- The process that is there is reported; of the rest only the pidfile of the other one goes. -/
theorem recorded_processes_are_parted_in_population :
    mixed.pids.names.Nodup ∧ mixed.pids ≠ .blocked ∧
      ∃ targets s', (pidfile : Probe Simulation.Population).discover ⟨[], []⟩ mixed =
        .ok (.ok targets) s' ∧ ⟨101, "recorded Server2 (port 3004)"⟩ ∈ targets ∧
        s'.pids.get? (fileName .server1) = none ∧
        ∀ name ≠ fileName .server1, s'.pids.get? name = mixedFolder.get? name := by
  have hnames : mixed.pids.names.Nodup := by decide +kernel
  obtain ⟨kept, s', hrun, -, hkept, -, hdrops, -⟩ :=
    recorded_processes_are_parted hnames (by decide) (keepsTable mixed) ⟨[], []⟩
  have hrecord : Pidfile.record? mixed.pids .server2 = some ⟨101, 3004, "just server2"⟩ := by
    decide +kernel
  have hother : Pidfile.record? mixed.pids .server1 =
      some ⟨4294967295, 3002, "just server1"⟩ := by decide +kernel
  have hours : mixed.IsOurs [] ⟨101, 3004, "just server2"⟩ := by
    refine ⟨by decide, rfl, _, rfl, .inl ⟨by decide, ?_⟩⟩
    exact Text.occursIn_iff.mp (by decide +kernel)
  have hstranger : ¬ mixed.IsOurs [] ⟨4294967295, 3002, "just server1"⟩ := fun h =>
    absurd h.representable (by decide)
  refine ⟨hnames, by decide, _, s', hrun, ?_, hdrops.absent _ ⟨_, hother, hstranger⟩, ?_⟩
  · exact List.mem_map.mpr ⟨_, (hkept _ _).mpr ⟨hrecord, hours⟩, by decide +kernel⟩
  · intro name hname
    refine hdrops.others name fun role ⟨r, hr, hgone⟩ => ?_
    cases role with
    | server1 => exact hname
    | server2 =>
      obtain rfl := Option.some.inj (hrecord.symm.trans hr)
      exact absurd hours hgone

end Probe

end LatencyHarness
