import LatencyHarness.Proofs.Conservation
import LatencyHarness.Proofs.Records

/-! The pidfiles follow the services that are tracked.

A start writes the pidfile of the service that it enters; a stop, a reaping and the probe that looks
through the pidfiles remove some. Nothing else that a supervisor does touches the directory. So a
pidfile is there only for a service that is tracked, and it says what the entry says. -/
namespace LatencyHarness

variable {σ : Type} [Host σ] {α β : Type}

/-! ### What leaves the directory alone -/

namespace Action

/-- The actions that do not touch the pidfile directory. -/
def leavesFolder : Action → Bool
  | folder _ => false
  | _ => true

theorem leavesFolder_of_isAsking {a : Action} (h : a.isAsking = true) : a.leavesFolder = true := by
  cases a with
  | folder f => exact absurd h nofun
  | _ => rfl

theorem leavesFolder_of_isKilling {a : Action} (h : a.isKilling = true) :
    a.leavesFolder = true := by
  cases a with
  | folder f => exact absurd h nofun
  | _ => rfl

theorem leavesFolder_of_isEnding {a : Action} (h : a.isEnding = true) : a.leavesFolder = true := by
  cases a with
  | folder f => exact absurd h nofun
  | _ => rfl

theorem leavesFolder_of_isStarting {a : Action} (h : a.isStarting = true) :
    a.leavesFolder = true := by
  cases a with
  | folder f => exact absurd h nofun
  | _ => rfl

end Action

theorem Session.Reaches.pids_eq {s s' : Session σ} (h : s.Reaches (Action.leavesFolder ·) s') :
    s'.pids = s.pids := by
  refine h.keeps (P := fun t => t.pids = s.pids) (fun t a ha ht => ?_) rfl
  cases a with
  | folder f => exact absurd ha nofun
  | _ => exact ht

namespace Pidfile

/-- From the one directory to the other every pidfile has stayed as it was or, if there may be a
loss, has gone. -/
def Dwindles (loss : Prop) (f f' : Folder) : Prop := ∀ role,
  f'.file? (fileName role) = f.file? (fileName role) ∨ loss ∧ f'.file? (fileName role) = none

variable {loss : Prop} {f f' f'' : Folder} {role : Role}

theorem Dwindles.refl (f : Folder) : Dwindles loss f f := fun _ => .inl rfl

theorem Dwindles.trans (h : Dwindles loss f f') (h' : Dwindles loss f' f'') :
    Dwindles loss f f'' := by
  intro role
  -- what is gone in the end may have gone in either part
  rcases h' role with hsame | hgone
  · rw [hsame]
    exact h role
  · exact .inr hgone

theorem Loses.dwindles (h : Loses role f f') : Dwindles True f f' := by
  intro other
  by_cases hother : other = role
  · subst hother
    exact .inr ⟨trivial, h.gone⟩
  · exact .inl (Folder.file?_congr (h.others _ fun heq => hother (fileName_inj heq)))

end Pidfile

open Pidfile (Dwindles fileName)

namespace Task

variable {loss : Prop} {t : Task σ α} {f : α → Task σ β}

/-- Whatever becomes of the task, no more than a loss of pidfiles has come over the directory. -/
def Dwindles (loss : Prop) (t : Task σ α) : Prop := ∀ s,
  Ends t s (fun _ s' => Pidfile.Dwindles loss s.pids s'.pids)
    (fun _ s' => Pidfile.Dwindles loss s.pids s'.pids)

theorem Within.dwindles (h : t.Within (Action.leavesFolder ·)) : t.Dwindles loss := by
  have hkept {s s' : Session σ} (hs : s.Reaches (Action.leavesFolder ·) s') :
      Pidfile.Dwindles loss s.pids s'.pids := by
    rw [hs.pids_eq]
    exact .refl s.pids
  exact fun s => (h s).mono (fun _ _ => hkept) fun _ _ => hkept

namespace Dwindles

omit [Host σ] in
theorem pure (a : α) : (Pure.pure a : Task σ α).Dwindles loss := fun s => .refl s.pids

omit [Host σ] in
theorem bind (ht : t.Dwindles loss) (hf : ∀ a, (f a).Dwindles loss) : (t >>= f).Dwindles loss := by
  intro s
  refine (ht s).bind fun a s' h => ?_
  exact (hf a s').mono (fun _ _ h' => h.trans h') fun _ _ h' => h.trans h'

omit [Host σ] in
theorem isClosed : IsClosed fun α (t : Task σ α) => t.Dwindles loss where
  pure := pure
  bind := bind

end Dwindles

end Task

/-! ### The probes -/

namespace Probe

theorem dwindles_coversRecords : CoversRecords fun α (t : Task σ α) => t.Dwindles True where
  toIsClosed := Task.Dwindles.isClosed
  ask g := (Task.within_ask g).dwindles
  list s := by
    change Pidfile.Dwindles True s.pids (Pidfile.list.on s.pids).2
    rw [Pidfile.list_keeps]
    exact .refl s.pids
  delete role s := (Pidfile.loses_delete role s.pids).dwindles
  note _ := (Task.within_emit (A := (Action.leavesFolder ·)) rfl).dwindles

/-- The probe that looks through the pidfiles removes some of them at most. -/
theorem pidfile_dwindles (q : Request) : ((pidfile : Probe σ).discover q).Dwindles True :=
  dwindles_coversRecords.pidfile q

end Probe

namespace Reclaimer

/-- None but the probe that looks through the pidfiles touches their directory. -/
def SparesFolder (r : Reclaimer σ) : Prop :=
  ∀ p ∈ r.probes, p = Probe.pidfile ∨ p.Within (Action.leavesFolder ·)

variable {loss : Prop} {r : Reclaimer σ}

theorem dwindles_covers : Covers fun α (t : Task σ α) => t.Dwindles loss where
  toIsClosed := Task.Dwindles.isClosed
  isProtected _ := ((Task.within_ask _).bind fun _ => .pure _).dwindles
  forceKill pid := (Task.within_forceKill (fun _ => Action.leavesFolder_of_isKilling) pid).dwindles
  sleep d := (Task.within_sleep (fun _ ha => Action.leavesFolder_of_isKilling
    (Action.isKilling_of_isWaiting ha)) d).dwindles
  note _ := (Task.within_emit (A := (Action.leavesFolder ·)) rfl).dwindles

theorem reclaim_dwindles (hr : ∀ p ∈ r.probes, ∀ q, (p.discover q).Dwindles loss)
    (ports : List Port) (patterns : List Pattern) : (r.reclaim ports patterns).Dwindles loss :=
  dwindles_covers.reclaim fun p hp => hr p hp _

end Reclaimer

/-! ### A teardown -/

namespace Supervising

/-- From the one supervisor to the other some services have been let go of, and their pidfiles are
gone. Those of the others have stayed or, if there may be a loss, gone. -/
def Sheds (loss : Prop) (v v' : Supervisor σ) : Prop := ∀ role,
  v'.tracked role = v.tracked role ∧
      (v'.session.pids.file? (fileName role) = v.session.pids.file? (fileName role) ∨
        loss ∧ v'.session.pids.file? (fileName role) = none) ∨
    v'.tracked role = none ∧ v'.session.pids.file? (fileName role) = none

variable {loss : Prop} {v v' v'' : Supervisor σ}

omit [Host σ] in
theorem Sheds.of_dwindles (h : Pidfile.Dwindles loss v.session.pids v'.session.pids)
    (ht : v'.tracked = v.tracked) : Sheds loss v v' :=
  fun role => .inl ⟨congrFun ht role, h role⟩

omit [Host σ] in
theorem Sheds.trans (h : Sheds loss v v') (h' : Sheds loss v' v'') : Sheds loss v v'' := by
  intro role
  rcases h' role with ⟨htracked, hfile⟩ | hgone
  · rcases hfile with hsame | ⟨hloss, hgone⟩
    · rw [htracked, hsame]
      exact h role
    · -- the pidfile has been lost in the second part
      rcases h role with ⟨htracked', _⟩ | ⟨hnone, _⟩
      · exact .inl ⟨htracked.trans htracked', .inr ⟨hloss, hgone⟩⟩
      · exact .inr ⟨htracked.trans hnone, hgone⟩
  · exact .inr hgone

/-- A task of the supervisor that does no more than let go of services. -/
def ShedsOnly (loss : Prop) (t : Supervising σ α) : Prop :=
  ∀ v, Ends t v (fun _ v' => Sheds loss v v') (fun _ v' => Sheds loss v v')

namespace ShedsOnly

variable {t : Supervising σ α} {f : α → Supervising σ β}

omit [Host σ] in
theorem pure (a : α) : (Pure.pure a : Supervising σ α).ShedsOnly loss := fun _ =>
  .of_dwindles (.refl _) rfl

omit [Host σ] in
theorem bind (ht : t.ShedsOnly loss) (hf : ∀ a, (f a).ShedsOnly loss) :
    (t >>= f).ShedsOnly loss := by
  intro v
  refine (ht v).bind fun a v' h => ?_
  exact (hf a v').mono (fun _ _ h' => h.trans h') fun _ _ h' => h.trans h'

omit [Host σ] in
theorem lift {t : Task σ α} (ht : t.Dwindles loss) :
    (liftM t : Supervising σ α).ShedsOnly loss := by
  intro v
  exact ends_lift ((ht v.session).mono (fun _ _ h => .of_dwindles h rfl)
    fun _ _ h => .of_dwindles h rfl)

theorem of_within {t : Task σ α} (ht : t.Within (Action.leavesFolder ·)) :
    (liftM t : Supervising σ α).ShedsOnly loss := lift ht.dwindles

theorem emit (e : Event) :
    (liftM (Task.emit e : Task σ Unit) : Supervising σ Unit).ShedsOnly loss :=
  of_within (Task.within_emit rfl)

end ShedsOnly

/-- A service is forgotten with its pidfile. -/
theorem shedsOnly_forget (role : Role) (pid : Pid) :
    (forget role pid : Supervising σ Unit).ShedsOnly loss := by
  intro v
  have hloses := Pidfile.loses_delete role v.session.pids
  let stopped := (Action.forwarders (v.session.forwarders.filter (·.pid ≠ pid))).apply v.session
  let s := (Action.folder ((Pidfile.delete role).on v.session.pids).2).apply stopped
  have hsheds : Sheds loss v ((v.withSession s).withEntry role none) := by
    intro other
    by_cases hother : other = role
    · subst hother
      exact .inr ⟨if_pos rfl, hloses.gone⟩
    · have hname : fileName other ≠ fileName role := fun heq => hother (Pidfile.fileName_inj heq)
      exact .inl ⟨if_neg hother, .inl (Folder.file?_congr (hloses.others _ hname))⟩
  exact hsheds

theorem shedsOnly_covers (sv : Supervision σ) :
    Covers sv fun α (t : Supervising σ α) => t.ShedsOnly loss where
  toIsClosed := ⟨.pure, .bind⟩
  get v := .of_dwindles (.refl v.session.pids) rfl
  endStatus role t :=
    .of_within ((within_endStatus sv role t).mono fun _ => Action.leavesFolder_of_isEnding)
  exitStatus? _ := .of_within (Task.within_ask _)
  forget role pid := shedsOnly_forget role pid
  note _ := .emit _

/-- In a teardown pidfiles go with their services, and no others unless a probe removes them. -/
theorem shedsOnly_teardownAll {sv : Supervision σ}
    (hr : ∀ p ∈ sv.reclaimer.probes, ∀ q, (p.discover q).Dwindles loss) :
    (teardownAll sv).ShedsOnly loss := by
  have hbegin : (modify fun v => { v with passes := v.passes + 1 } :
      Supervising σ Unit).ShedsOnly loss := fun v => .of_dwindles (.refl v.session.pids) rfl
  refine hbegin.bind fun _ => (ShedsOnly.emit _).bind fun _ => ?_
  -- of its three parts only the reclamation can lose the pidfile of a service that stays
  exact ((shedsOnly_covers sv).stopAll _).bind fun _ =>
    (ShedsOnly.lift (Reclaimer.reclaim_dwindles hr _ _)).bind fun _ =>
      ((shedsOnly_covers sv).forgetReaped _).bind fun _ => .pure _

/-! ### The pidfiles of the tracked services -/

/-- A service that has been launched, and whether its pidfile could be written. -/
structure Launching where
  spec : ServiceSpec
  pid : Pid
  isRecorded : Bool

/-- What a start launches: its own service, if the role is free and the host can start the program,
or none. -/
def launchedBy (sv : Supervision σ) (spec : ServiceSpec) (v : Supervisor σ) : List Launching :=
  if v.isTracked spec.role then []
  else match (Host.spawn sv.workingDir spec.launch v.session.host).1 with
    | .ok pid =>
      let write := Pidfile.write spec.role ⟨pid, spec.port, spec.launch.display⟩
      [⟨spec, pid, (write.on v.session.pids).1.isOk⟩]
    | .error _ => []

/-- The last service that has been launched for a role. -/
def lastLaunch (launches : List Launching) (role : Role) : Option Launching :=
  launches.reverse.find? fun l => l.spec.role = role

theorem lastLaunch_concat (launches : List Launching) (l : Launching) (role : Role) :
    lastLaunch (launches ++ [l]) role =
      if l.spec.role = role then some l else lastLaunch launches role := by
  unfold lastLaunch
  rw [List.reverse_concat, List.find?_cons]
  by_cases hrole : l.spec.role = role
  · simp [hrole]
  · simp [hrole]

/-- The pidfiles agree with the entries, and the entries with what has been launched last. -/
structure Mirrors (launches : List Launching) (v : Supervisor σ) : Prop where
  files : ∀ role content, v.session.pids.file? (fileName role) = some content →
    ∃ t, v.tracked role = some t ∧
      content = Text.Utf8.encode (PidRecord.render ⟨t.pid, t.port, t.command⟩)
  entries : ∀ role t, v.tracked role = some t →
    ∃ l, lastLaunch launches role = some l ∧ l.pid = t.pid ∧ l.spec.port = t.port

/-- Every tracked service has its pidfile. -/
def Complete (v : Supervisor σ) : Prop :=
  ∀ role t, v.tracked role = some t → ∃ content, v.session.pids.file? (fileName role) = some content

variable {sv : Supervision σ} {spec : ServiceSpec} {launches : List Launching}

omit [Host σ] in
theorem Mirrors.sheds (h : Mirrors launches v) (hs : Sheds loss v v') : Mirrors launches v' := by
  constructor
  · -- a pidfile that is left has been there before, and so has its entry
    intro role content hfile
    rcases hs role with ⟨htracked, hsame | ⟨_, hgone⟩⟩ | ⟨_, hgone⟩
    · rw [htracked]
      exact h.files role content (hsame ▸ hfile)
    · exact absurd (hgone.symm.trans hfile) nofun
    · exact absurd (hgone.symm.trans hfile) nofun
  · intro role t ht
    rcases hs role with ⟨htracked, _⟩ | ⟨hnone, _⟩
    · exact h.entries role t (htracked ▸ ht)
    · exact absurd (hnone.symm.trans ht) nofun

omit [Host σ] in
theorem Complete.sheds (h : Complete v) (hs : Sheds False v v') : Complete v' := by
  intro role t ht
  rcases hs role with ⟨htracked, hsame | ⟨hlost, _⟩⟩ | ⟨hnone, _⟩
  · rw [hsame]
    exact h role t (htracked ▸ ht)
  · exact hlost.elim
  · exact absurd (hnone.symm.trans ht) nofun

theorem launchedBy_of_error {e : SystemError} (hfree : v.tracked spec.role = none)
    (hspawn : (Host.spawn sv.workingDir spec.launch v.session.host).1 = .error e) :
    launchedBy sv spec v = [] := by
  unfold launchedBy Supervisor.isTracked
  rw [hfree, hspawn]
  rfl

theorem launchedBy_of_ok {pid : Pid} (hfree : v.tracked spec.role = none)
    (hspawn : (Host.spawn sv.workingDir spec.launch v.session.host).1 = .ok pid) :
    launchedBy sv spec v = [⟨spec, pid, ((Pidfile.write spec.role
      ⟨pid, spec.port, spec.launch.display⟩).on v.session.pids).1.isOk⟩] := by
  unfold launchedBy Supervisor.isTracked
  rw [hfree, hspawn]
  rfl

/-- A start brings the entry of what it has launched, and the pidfile for it if that could be
written. -/
theorem Mirrors.leaves (h : Mirrors launches v) (hl : Leaves sv spec v v') :
    Mirrors (launches ++ launchedBy sv spec v) v' := by
  cases hl with
  | refused htracked =>
    have hnothing : launchedBy sv spec v = [] := if_pos htracked
    rw [hnothing, List.append_nil]
    exact h
  | unlaunched hfree hspawn =>
    rw [launchedBy_of_error hfree hspawn, List.append_nil]
    exact ⟨h.files, h.entries⟩
  | @entered pid exited v' hfree hspawn hreach htracked hexit =>
    rw [launchedBy_of_ok hfree hspawn]
    have hpids := (hreach.mono fun _ => Action.leavesFolder_of_isStarting).pids_eq
    have hentry (role : Role) : v'.tracked role = if role = spec.role then
        some { entryOf spec pid with exited := exited } else v.tracked role :=
      congrFun htracked role
    constructor
    · -- the write has been the only change to the directory
      intro role content hfile
      rw [hpids] at hfile
      change ((Pidfile.write spec.role ⟨pid, spec.port, spec.launch.display⟩).on
        v.session.pids).2.file? (fileName role) = some content at hfile
      rw [hentry]
      by_cases hrole : role = spec.role
      · subst hrole
        rw [Pidfile.file?_write] at hfile
        split at hfile
        · rw [if_pos rfl]
          exact ⟨_, rfl, (Option.some.inj hfile).symm⟩
        · -- what is not tracked has had no pidfile before
          obtain ⟨t, ht, _⟩ := h.files _ content hfile
          exact absurd (hfree.symm.trans ht) nofun
      · rw [Pidfile.file?_write_of_ne _ _ hrole] at hfile
        rw [if_neg hrole]
        exact h.files role content hfile
    · -- the new entry is that of the last launch, and the other roles have theirs from before
      intro role t ht
      rw [hentry] at ht
      rw [lastLaunch_concat]
      by_cases hrole : role = spec.role
      · rw [if_pos hrole] at ht
        obtain rfl := Option.some.inj ht
        exact ⟨_, if_pos hrole.symm, rfl, rfl⟩
      · rw [if_neg hrole] at ht
        rw [if_neg (Ne.symm hrole)]
        exact h.entries role t ht

theorem Complete.leaves (h : Complete v) (hl : Leaves sv spec v v')
    (hrecorded : ∀ l ∈ launchedBy sv spec v, l.isRecorded = true) : Complete v' := by
  cases hl with
  | refused htracked => exact h
  | unlaunched hfree hspawn => exact h
  | @entered pid exited v' hfree hspawn hreach htracked hexit =>
    rw [launchedBy_of_ok hfree hspawn] at hrecorded
    have hok := hrecorded _ List.mem_cons_self
    have hpids := (hreach.mono fun _ => Action.leavesFolder_of_isStarting).pids_eq
    intro role t ht
    rw [hpids]
    change ∃ content, ((Pidfile.write spec.role ⟨pid, spec.port, spec.launch.display⟩).on
      v.session.pids).2.file? (fileName role) = some content
    by_cases hrole : role = spec.role
    · subst hrole
      rw [Pidfile.file?_write, if_pos hok]
      exact ⟨_, rfl⟩
    · have ht : (if role = spec.role then _ else v.tracked role) = some t :=
        (congrFun htracked role).symm.trans ht
      rw [if_neg hrole] at ht
      rw [Pidfile.file?_write_of_ne _ _ hrole]
      exact h role t ht

/-- What may happen to a supervisor from its beginning on, in a directory without pidfiles: starts
and teardowns, any of which may be broken off, and between them what does not touch the directory.
The list is of the services that have been launched. -/
inductive Chronicle (sv : Supervision σ) : List Launching → Supervisor σ → Prop where
  | begin (s : Session σ) (hempty : ∀ role, s.pids.file? (fileName role) = none) :
    Chronicle sv [] (Supervisor.start s)
  | start {launches : List Launching} {v v' : Supervisor σ} (h : Chronicle sv launches v)
    (spec : ServiceSpec) {r : Except StartError Started}
    (hrun : Supervising.start sv spec v = .ok r v') :
    Chronicle sv (launches ++ launchedBy sv spec v) v'
  | dropped {launches : List Launching} {v v' : Supervisor σ} (h : Chronicle sv launches v)
    (spec : ServiceSpec) {halt : Halt} (hrun : Supervising.start sv spec v = .error halt v') :
    Chronicle sv (launches ++ launchedBy sv spec v) v'
  | teardown {launches : List Launching} {v v' : Supervisor σ} (h : Chronicle sv launches v)
    {summary : TeardownSummary} (hrun : teardownAll sv v = .ok summary v') :
    Chronicle sv launches v'
  | brokenOff {launches : List Launching} {v v' : Supervisor σ} (h : Chronicle sv launches v)
    {halt : Halt} (hrun : teardownAll sv v = .error halt v') : Chronicle sv launches v'
  | meanwhile {launches : List Launching} {v : Supervisor σ} {s : Session σ}
    (h : Chronicle sv launches v) (hs : v.session.Reaches (Action.leavesFolder ·) s) :
    Chronicle sv launches (v.withSession s)

theorem Chronicle.mirrors (hr : sv.reclaimer.SparesFolder) (h : Chronicle sv launches v) :
    Mirrors launches v := by
  have hprobes : ∀ p ∈ sv.reclaimer.probes, ∀ q, (p.discover q).Dwindles True := by
    intro p hp q
    rcases hr p hp with rfl | hwithin
    · exact Probe.pidfile_dwindles q
    · exact (hwithin q).dwindles
  -- what has happened last decides
  induction h with
  | begin s hempty =>
    refine ⟨fun role content hfile => ?_, nofun⟩
    exact absurd ((hempty role).symm.trans hfile) nofun
  | start _ spec hrun ih => exact ih.leaves ((start_leaves sv spec _).of_ok hrun)
  | dropped _ spec hrun ih => exact ih.leaves ((start_leaves sv spec _).of_error hrun)
  | teardown _ hrun ih => exact ih.sheds ((shedsOnly_teardownAll hprobes _).of_ok hrun)
  | brokenOff _ hrun ih => exact ih.sheds ((shedsOnly_teardownAll hprobes _).of_error hrun)
  | @meanwhile launches v s _ hs ih =>
    refine ⟨fun role content hfile => ih.files role content ?_, ih.entries⟩
    rw [← hs.pids_eq]
    exact hfile

theorem Chronicle.complete (hr : ∀ p ∈ sv.reclaimer.probes, p.Within (Action.leavesFolder ·))
    (h : Chronicle sv launches v) (hrecorded : ∀ l ∈ launches, l.isRecorded = true) :
    Complete v := by
  -- no probe loses a pidfile, so that a teardown removes only those of services it lets go of
  have hprobes : ∀ p ∈ sv.reclaimer.probes, ∀ q, (p.discover q).Dwindles False :=
    fun p hp q => (hr p hp q).dwindles
  induction h with
  | begin s hempty => exact nofun
  | start _ spec hrun ih =>
    refine (ih fun l hl => ?_).leaves ((start_leaves sv spec _).of_ok hrun) fun l hl => ?_
    · exact hrecorded l (List.mem_append_left _ hl)
    · exact hrecorded l (List.mem_append_right _ hl)
  | dropped _ spec hrun ih =>
    refine (ih fun l hl => ?_).leaves ((start_leaves sv spec _).of_error hrun) fun l hl => ?_
    · exact hrecorded l (List.mem_append_left _ hl)
    · exact hrecorded l (List.mem_append_right _ hl)
  | teardown _ hrun ih =>
    exact (ih hrecorded).sheds ((shedsOnly_teardownAll hprobes _).of_ok hrun)
  | brokenOff _ hrun ih =>
    exact (ih hrecorded).sheds ((shedsOnly_teardownAll hprobes _).of_error hrun)
  | @meanwhile launches v s _ hs ih =>
    intro role t ht
    change ∃ content, s.pids.file? (fileName role) = some content
    rw [hs.pids_eq]
    exact ih hrecorded role t ht

/-- A record is that of the tracked process of a role: it holds the process id, and the port of the
spec that the process was launched from. -/
def TellsOf (launches : List Launching) (v : Supervisor σ) (role : Role) (r : PidRecord) : Prop :=
  ∃ t l, v.tracked role = some t ∧ lastLaunch launches role = some l ∧ l.pid = t.pid ∧
    r.pid = t.pid ∧ r.port = l.spec.port

omit [Host σ] in
theorem Mirrors.tellsOf (h : Mirrors launches v) {role : Role} {t : Tracked}
    (ht : v.tracked role = some t) :
    TellsOf launches v role (PidRecord.kept ⟨t.pid, t.port, t.command⟩) := by
  obtain ⟨l, hl, hpid, hport⟩ := h.entries role t ht
  exact ⟨t, l, ht, hl, hpid, rfl, hport.symm⟩

/-- The pidfiles follow the tracked services. After every chronicle, a pidfile can be read only for
a role that is tracked, and it tells of the tracked process. If all pidfiles could be written and no
probe touches their directory, there is one for every tracked role. Once no role is tracked, there
is none left. -/
theorem pidfiles_follow_tracked_services (hr : sv.reclaimer.SparesFolder)
    (h : Chronicle sv launches v) :
    (∀ role r f, Pidfile.read role v.session.pids = .ok r f → TellsOf launches v role r) ∧
      ((∀ l ∈ launches, l.isRecorded = true) →
        (∀ p ∈ sv.reclaimer.probes, p.Within (Action.leavesFolder ·)) →
        ∀ role, v.isTracked role = true → ∃ r,
          Pidfile.read role v.session.pids = .ok r v.session.pids ∧ TellsOf launches v role r) ∧
      ((∀ role, v.tracked role = none) →
        ∀ role, v.session.pids.file? (fileName role) = none) := by
  have hmirrors := h.mirrors hr
  refine ⟨fun role r f hread => ?_, fun hrecorded hspare role htracked => ?_, fun hnone role => ?_⟩
  · -- a file that can be read is that of an entry, with what the entry says
    obtain ⟨-, content, hfile, hdecode⟩ := (Pidfile.read_ends role v.session.pids).of_ok hread
    obtain ⟨t, ht, rfl⟩ := hmirrors.files role content hfile
    rw [Pidfile.decode_encode_render] at hdecode
    obtain rfl := Except.ok.inj hdecode
    exact hmirrors.tellsOf ht
  · -- nothing has removed the file of an entry, and it reads as it was written
    obtain ⟨t, ht⟩ := Option.isSome_iff_exists.mp htracked
    obtain ⟨content, hfile⟩ := h.complete hspare hrecorded role t ht
    obtain ⟨t', ht', rfl⟩ := hmirrors.files role content hfile
    obtain rfl := Option.some.inj (ht'.symm.trans ht)
    have hread := Pidfile.read_of_file? role _ hfile (Pidfile.decode_encode_render _)
    exact ⟨_, hread, hmirrors.tellsOf ht⟩
  · cases hfile : v.session.pids.file? (fileName role) with
    | none => rfl
    | some content =>
      obtain ⟨t, ht, -⟩ := hmirrors.files role content hfile
      exact absurd ((hnone role).symm.trans ht) nofun

theorem runAll_chronicle (h : Chronicle sv launches v) (calls : List Call) :
    Ends (runAll sv calls) v (fun _ v' => ∃ launches', Chronicle sv launches' v')
      (fun _ _ => True) := by
  induction calls generalizing launches v with
  | nil => exact ⟨launches, h⟩
  | cons call calls ih =>
    cases call with
    | start spec =>
      exact (Ends.ok_self (start sv spec) v).bind fun _ v₁ hrun => ih (h.start spec hrun)
    | teardown =>
      refine (Ends.ok_self (teardownAll sv) v).bind fun summary v₁ hrun => ?_
      exact (ih (h.teardown hrun)).bind fun _ _ hmore => hmore

end Supervising

theorem Reclaimer.standard_sparesFolder (pacing : ReclaimPacing) :
    (standard pacing : Reclaimer σ).SparesFolder := by
  intro p hp
  simp only [standard, List.mem_cons, List.not_mem_nil, or_false] at hp
  rcases hp with rfl | rfl | rfl | rfl
  · exact .inr ((Probe.within_lsof _).mono fun _ => Action.leavesFolder_of_isAsking)
  · exact .inr ((Probe.within_netstat _).mono fun _ => Action.leavesFolder_of_isAsking)
  · exact .inr (Probe.within_pattern.mono fun _ => Action.leavesFolder_of_isAsking)
  · exact .inl rfl

namespace Simulation.Bench

/-- The means of a run whose reclamation goes by command lines alone. -/
def bareSupervision : Supervision Bench :=
  { plan.supervision with reclaimer := ⟨[.pattern], .pattern, "lsof", config.reclaim⟩ }

theorem bareStart_ends : Ends (Supervising.start bareSupervision config.server2)
    (Supervisor.start (Session.start blank .absent))
    (fun _ v => v.isTracked .server2 = true) (fun _ _ => False) := by
  decide +kernel

end Simulation.Bench

namespace Supervising

/-- On the bench, after two starts, a teardown and one more start, there is a pidfile for one role
only; and after a start without the probe for pidfiles there is that of the started service. -/
theorem pidfiles_follow_tracked_services_on_bench :
    (∃ launches v, Chronicle Simulation.Bench.plan.supervision launches v ∧
      v.trackedRoles = [.server2] ∧ ∀ r f, Pidfile.read .server1 v.session.pids ≠ .ok r f) ∧
    (∃ launches v r, Chronicle Simulation.Bench.bareSupervision launches v ∧
      v.isTracked .server2 = true ∧ Pidfile.read .server2 v.session.pids = .ok r v.session.pids ∧
      TellsOf launches v .server2 r) := by
  have hempty (role : Role) : Folder.absent.file? (fileName role) = none := rfl
  constructor
  · obtain ⟨_, v, hrun, -, htracked, -⟩ := Simulation.Bench.calls_end.exists_ok
    have hbegin : Chronicle Simulation.Bench.plan.supervision [] _ :=
      .begin (Session.start Simulation.Bench.blank .absent) hempty
    obtain ⟨launches, hchronicle⟩ := (runAll_chronicle hbegin Simulation.Bench.calls).of_ok hrun
    have h := pidfiles_follow_tracked_services (Reclaimer.standard_sparesFolder _) hchronicle
    refine ⟨launches, v, hchronicle, htracked, fun r f hread => ?_⟩
    obtain ⟨t, _, ht, _⟩ := h.1 .server1 r f hread
    have hmem : Role.server1 ∈ v.trackedRoles :=
      List.mem_filter.mpr ⟨Role.server1.mem_startOrder, Option.isSome_iff_exists.mpr ⟨t, ht⟩⟩
    rw [htracked] at hmem
    exact absurd hmem (by decide)
  · obtain ⟨_, v, hrun, htracked⟩ := Simulation.Bench.bareStart_ends.exists_ok
    have hbegin : Chronicle Simulation.Bench.bareSupervision [] _ :=
      .begin (Session.start Simulation.Bench.blank .absent) hempty
    have hchronicle := hbegin.start _ hrun
    have hspares : ∀ p ∈ Simulation.Bench.bareSupervision.reclaimer.probes,
        p.Within (Action.leavesFolder ·) := by
      intro p hp
      rw [List.mem_singleton.mp hp]
      exact Probe.within_pattern.mono fun _ => Action.leavesFolder_of_isAsking
    have h := pidfiles_follow_tracked_services (fun p hp => .inr (hspares p hp)) hchronicle
    obtain ⟨r, hread, htells⟩ := h.2.1 (by decide +kernel) hspares .server2 htracked
    exact ⟨_, v, r, hchronicle, htracked, hread, htells⟩

end Supervising

end LatencyHarness
