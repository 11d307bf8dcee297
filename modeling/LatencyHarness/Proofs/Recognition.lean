import LatencyHarness.Proofs.Books
import LatencyHarness.Proofs.Records
import LatencyHarness.Simulation.Population
import LatencyHarness.Text.Search

/-! A process that an earlier run has left behind is recognised from its pidfile.

The pidfile keeps the first line of the command that the process was launched with. As long as the
program itself is on this line and is not blank, the line is part of the command line that the
process table shows, whatever the arguments are. -/
namespace LatencyHarness

open Text
open Pidfile (fileName)

variable {σ : Type} [Host σ]

/-! ### The recorded command -/

theorem Launch.display_append (l : Launch) :
    ∃ rest, l.display.toList = l.program.toList ++ rest := by
  unfold display
  cases hargs : l.args with
  | nil => exact ⟨[], by rw [String.intercalate_singleton, List.append_nil]⟩
  | cons a args =>
    refine ⟨(" " ++ " ".intercalate (a :: args)).toList, ?_⟩
    rw [String.intercalate_cons_of_ne_nil (List.cons_ne_nil a args), String.append_assoc,
      String.toList_append]

namespace PidRecord

/-- The program of a launch is on the first line of its command, unless it is broken itself. -/
theorem mem_firstLine_display {l : Launch} (hline : '\n' ∉ l.program.toList) {c : Char}
    (hc : c ∈ l.program.toList) : c ∈ firstLine l.display := by
  obtain ⟨rest, hrest⟩ := l.display_append
  unfold firstLine
  rw [hrest, List.takeWhile_append_of_pos (decide_ne_of_notMem hline)]
  exact List.mem_append_left _ hc

theorem firstLine_isPart (command : String) : firstLine command <:+: command.toList :=
  (List.takeWhile_prefix _).isInfix

end PidRecord

namespace Probe

open PidRecord (firstLine)

/-- What a pidfile keeps of a command is found in the whole command, whatever the patterns. -/
theorem recognises_kept {l : Launch} (hline : '\n' ∉ l.program.toList)
    (hprogram : Config.isBlank l.program = false) (patterns : List Pattern) :
    recognises (String.ofList (trim (firstLine l.display))) patterns l.display = true := by
  -- trimming a text twice leaves what is not blank
  obtain ⟨c, hmem, hc⟩ : ∃ c ∈ l.program.toList, isBlank c = false := by
    simpa [Config.isBlank, isBlankText] using hprogram
  have htrimmed : c ∈ trim (trim (firstLine l.display)) :=
    mem_trim (mem_trim (PidRecord.mem_firstLine_display hline hmem) hc) hc
  have hpart : trim (trim (firstLine l.display)) <:+: l.display.toList :=
    calc trim (trim (firstLine l.display))
        <:+: trim (firstLine l.display) := trim_isPart _
      _ <:+: firstLine l.display := trim_isPart _
      _ <:+: l.display.toList := PidRecord.firstLine_isPart _
  have hfull : (trim (trim (firstLine l.display))).isEmpty = false :=
    List.isEmpty_eq_false_iff.mpr (List.ne_nil_of_mem htrimmed)
  unfold recognises
  simp only [String.toList_ofList, hfull, occursIn_iff.mpr hpart, Bool.not_false, Bool.and_self,
    Bool.true_or]

end Probe

/-! ### The probe for pidfiles -/

/-- What the probe for pidfiles does to a session: it notes what it drops, and drops it. -/
def Action.isDropping : Action → Bool
  | folder _ | note (.recordStale _) | note (.recordRecycled _) | note (.recordRemains _) => true
  | _ => false

/-- The process is alive, and the process table shows these arguments for it. A host hears what is
noted, so that this is said of all the session may come to while pidfiles are dropped. -/
def Session.Shows (s : Session σ) (pid : Pid) (arguments : List String) : Prop :=
  ∀ s', s.Reaches (Action.isDropping ·) s' → Host.hasProcess pid.toNat s'.host = true ∧
    ∃ p, (Host.processes s'.host).find? (·.pid == pid) = some p ∧ p.arguments = arguments

theorem Session.Shows.reaches {s s' : Session σ} {pid : Pid} {arguments : List String}
    (h : s.Shows pid arguments) (hs : s.Reaches (Action.isDropping ·) s') :
    s'.Shows pid arguments := by
  intro s'' hs'
  exact h s'' (hs.trans hs')

namespace Probe

variable {s : Session σ}

/-- The target that a record stands for. -/
def recordedTarget (role : Role) (r : PidRecord) : Target :=
  ⟨r.pid, s!"recorded {role.name} (port {r.port.toNat})"⟩

variable {r : PidRecord} {patterns : List Pattern}

theorem recordTarget?_of_ours (role : Role)
    (halive : Ends (isAlive r.pid : Task σ Bool) s (fun b s' => b = true ∧ s' = s) fun _ _ => False)
    (hours : Ends (isOurs r.pid r.command patterns : Task σ Bool) s
      (fun b s' => b = true ∧ s' = s) fun _ _ => False) :
    Ends (recordTarget? patterns role r : Task σ _) s
      (fun o s' => o = some (recordedTarget role r) ∧ s' = s) (fun _ _ => False) := by
  unfold recordTarget?
  refine halive.bind fun b s₁ ⟨hb, hs₁⟩ => ?_
  subst hb hs₁
  refine hours.bind fun b s₂ ⟨hb, hs₂⟩ => ?_
  subst hb hs₂
  exact ⟨rfl, rfl⟩

/-- The process of a record is found to be alive and to be the recorded one. -/
theorem recordTarget?_shown {l : Launch} (hline : '\n' ∉ l.program.toList)
    (hprogram : Config.isBlank l.program = false) (hpid : r.pid.toNat ≤ maxOsPid)
    (hcommand : r.command = String.ofList (trim (PidRecord.firstLine l.display)))
    (hs : s.Shows r.pid (l.program :: l.args)) (patterns : List Pattern) (role : Role) :
    Ends (recordTarget? patterns role r : Task σ _) s
      (fun o s' => o = some (recordedTarget role r) ∧ s' = s) (fun _ _ => False) := by
  obtain ⟨halive, p, hfind, harguments⟩ := hs s (.refl s)
  refine recordTarget?_of_ours role ?_ ?_
  · unfold isAlive osPid?
    rw [if_pos hpid]
    exact ⟨halive, rfl⟩
  · refine ⟨?_, rfl⟩
    have hshown : p.commandLine = l.display := by
      unfold ProcessEntry.commandLine Launch.display
      rw [harguments]
    change (((Host.processes s.host).find? (·.pid == r.pid)).map (·.commandLine)).any _ = true
    rw [hfind, Option.map_some, Option.any_some, hshown, hcommand]
    exact recognises_kept hline hprogram patterns

theorem dropRecord_loses (role : Role) (s : Session σ) :
    Ends (dropRecord role : Task σ Unit) s
      (fun _ s' => s.Reaches (Action.isDropping ·) s' ∧ Pidfile.Loses role s.pids s'.pids)
      (fun _ _ => False) := by
  let dropped := (Action.folder ((Pidfile.delete role).on s.pids).2).apply s
  have hdropped : s.Reaches (Action.isDropping ·) dropped := .step s rfl
  have hloses : Pidfile.Loses role s.pids dropped.pids := Pidfile.loses_delete role s.pids
  have hdelete : Ends (Task.inFolder (Pidfile.delete role) : Task σ _) s
      (fun _ s' => s' = dropped) (fun _ _ => False) := rfl
  refine hdelete.bind fun result s₁ hs₁ => ?_
  subst hs₁
  match result with
  | .ok () => exact ⟨hdropped, hloses⟩
  | .error _ => exact ⟨hdropped.tail (a := .note (.recordRemains role)) rfl, hloses⟩

/-- A record of one role is looked into without touching the pidfile of another. -/
theorem recordTarget?_keeps (patterns : List Pattern) {role other : Role} (hother : other ≠ role)
    (r : PidRecord) (s : Session σ) :
    Ends (recordTarget? patterns other r : Task σ _) s
      (fun _ s' => s.Reaches (Action.isDropping ·) s' ∧
        s'.pids.file? (fileName role) = s.pids.file? (fileName role))
      (fun _ _ => False) := by
  have hdrop {e : Event} (he : (Action.note e).isDropping = true) (u : Session σ) :
      Ends (do
        Task.emit e
        dropRecord other
        return none : Task σ (Option Target)) u
        (fun _ s' => u.Reaches (Action.isDropping ·) s' ∧
          s'.pids.file? (fileName role) = u.pids.file? (fileName role)) (fun _ _ => False) := by
    refine Task.ends_emit_bind ((dropRecord_loses other _).bind fun _ s' ⟨hreach, hloses⟩ => ?_)
    have hname : fileName role ≠ fileName other := fun heq => hother (Pidfile.fileName_inj heq).symm
    have hnoted : u.Reaches (Action.isDropping ·) ((Action.note e).apply u) := .step u he
    exact ⟨hnoted.trans hreach, Folder.file?_congr (hloses.others _ hname)⟩
  have halive : Ends (isAlive r.pid : Task σ Bool) s (fun _ s' => s' = s) (fun _ _ => False) := by
    unfold isAlive
    split
    · rfl
    · rfl
  have hours : Ends (isOurs r.pid r.command patterns : Task σ Bool) s (fun _ s' => s' = s)
      (fun _ _ => False) := rfl
  unfold recordTarget?
  refine halive.bind fun b s₁ hs₁ => ?_
  subst hs₁
  cases b with
  | false => exact hdrop rfl s₁
  | true =>
    refine hours.bind fun b s₂ hs₂ => ?_
    subst hs₂
    cases b with
    | false => exact hdrop rfl s₂
    | true => exact ⟨.refl s₂, rfl⟩

/-- Among the records of a directory the one that is looked for is found, if it is the only one of
its role. -/
theorem recordTargets_shown {l : Launch} (hline : '\n' ∉ l.program.toList)
    (hprogram : Config.isBlank l.program = false) (hpid : r.pid.toNat ≤ maxOsPid)
    (hcommand : r.command = String.ofList (trim (PidRecord.firstLine l.display)))
    (patterns : List Pattern) {role : Role} {records : List (Role × PidRecord)}
    (hunique : ∀ r', (role, r') ∈ records → r' = r) (hs : s.Shows r.pid (l.program :: l.args)) :
    Ends (records.filterMapM fun (role, r) => recordTarget? patterns role r : Task σ _) s
      (fun targets s' => s'.pids.file? (fileName role) = s.pids.file? (fileName role) ∧
        ((role, r) ∈ records → recordedTarget role r ∈ targets))
      (fun _ _ => False) := by
  -- the records of the other role may be dropped on the way
  induction records generalizing s with
  | nil => exact ⟨rfl, nofun⟩
  | cons c records ih =>
    obtain ⟨other, r'⟩ := c
    have hrest : ∀ r', (role, r') ∈ records → r' = r := fun r' hr' =>
      hunique r' (List.mem_cons_of_mem _ hr')
    rw [List.filterMapM_cons]
    by_cases hother : other = role
    · -- it is the record that is looked for, and it stands for its process
      subst hother
      obtain rfl := hunique r' List.mem_cons_self
      refine (recordTarget?_shown hline hprogram hpid hcommand hs patterns other).bind
        fun o s₁ ⟨ho, hs₁⟩ => ?_
      subst ho hs₁
      refine (ih hrest hs).bind fun targets s' ⟨hfile, _⟩ => ?_
      exact ⟨hfile, fun _ => List.mem_cons_self⟩
    · -- it is that of the other role, which may be dropped
      refine (recordTarget?_keeps patterns hother r' s).bind fun o s₁ ⟨hreach, hfile₁⟩ => ?_
      have hlater (targets : List Target) (s' : Session σ)
          (h : s'.pids.file? (fileName role) = s₁.pids.file? (fileName role) ∧
            ((role, r) ∈ records → recordedTarget role r ∈ targets)) :
          s'.pids.file? (fileName role) = s.pids.file? (fileName role) ∧
            ((role, r) ∈ (other, r') :: records → recordedTarget role r ∈ targets) := by
        refine ⟨h.1.trans hfile₁, fun hmem => ?_⟩
        rcases List.mem_cons.mp hmem with heq | hmem
        · exact absurd (congrArg Prod.fst heq).symm hother
        · exact h.2 hmem
      have hnext := ih hrest (hs.reaches hreach)
      cases o with
      | none => exact hnext.mono hlater fun _ _ h => h
      | some target =>
        refine hnext.bind fun targets s' h => ?_
        obtain ⟨hfile, htarget⟩ := hlater targets s' h
        exact ⟨hfile, fun hmem => List.mem_cons_of_mem _ (htarget hmem)⟩

/-- A process that a start has recorded is recognised later. As long as it is alive and the process
table shows the program and its arguments for it, the probe for pidfiles reports it, whatever the
patterns are, and keeps its pidfile. -/
theorem recorded_process_is_recognised {sv : Supervision σ} {spec : ServiceSpec} {pid : Pid}
    {s₀ s : Session σ} (hline : '\n' ∉ spec.launch.program.toList)
    (hprogram : Config.isBlank spec.launch.program = false) (hpid : pid.toNat ≤ maxOsPid)
    (hwritten : ((Pidfile.write spec.role ⟨pid, spec.port, spec.launch.display⟩).on s₀.pids).1 =
      .ok ())
    (hnames : s.pids.names.Nodup)
    (hfile : s.pids.file? (fileName spec.role) =
      (Supervising.launched sv spec pid s₀).pids.file? (fileName spec.role))
    (hshows : s.Shows pid (spec.launch.program :: spec.launch.args)) (q : Request) :
    ∃ targets s', (pidfile : Probe σ).discover q s = .ok (.ok targets) s' ∧
      ⟨pid, s!"recorded {spec.role.name} (port {spec.port.toNat})"⟩ ∈ targets ∧
      s'.pids.file? (fileName spec.role) =
        some (Text.Utf8.encode (PidRecord.render ⟨pid, spec.port, spec.launch.display⟩)) := by
  let r : PidRecord := ⟨pid, spec.port, spec.launch.display⟩
  -- the file is still as the start has written it
  have hcontent : s.pids.file? (fileName spec.role) = some (Text.Utf8.encode r.render) :=
    calc s.pids.file? (fileName spec.role)
        = ((Pidfile.write spec.role r).on s₀.pids).2.file? (fileName spec.role) := hfile
      _ = some (Text.Utf8.encode r.render) := by
        rw [Pidfile.file?_write, hwritten]
        rfl
  -- and the directory has no other record of the role
  obtain ⟨records, hlist⟩ := Pidfile.exists_list hcontent
  have hrecord (r' : PidRecord) : (spec.role, r') ∈ records ↔ r' = r.kept := by
    rw [Pidfile.mem_list hnames hlist, hcontent]
    constructor
    · rintro ⟨content, hsome, hdecode⟩
      obtain rfl := Option.some.inj hsome
      rw [Pidfile.decode_encode_render] at hdecode
      exact (Except.ok.inj hdecode).symm
    · rintro rfl
      exact ⟨_, rfl, Pidfile.decode_encode_render r⟩
  have hlooked : Ends (Task.inFolder Pidfile.list : Task σ _) s
      (fun result s' => result = .ok records ∧ s' = s) (fun _ _ => False) := by
    refine ⟨hlist, ?_⟩
    change { s with pids := (Pidfile.list.on s.pids).2 } = s
    rw [Pidfile.list_keeps]
  have hdiscover : Ends ((pidfile : Probe σ).discover q) s
      (fun result s' => ∃ targets, result = .ok targets ∧
        recordedTarget spec.role r.kept ∈ targets ∧
        s'.pids.file? (fileName spec.role) = s.pids.file? (fileName spec.role))
      (fun _ _ => False) := by
    refine hlooked.bind fun result s₁ ⟨hresult, hs₁⟩ => ?_
    subst hresult hs₁
    refine (recordTargets_shown (r := r.kept) hline hprogram hpid rfl q.patterns
      (fun r' hr' => (hrecord r').mp hr') hshows).bind fun targets s' ⟨hfile', htarget⟩ => ?_
    exact ⟨targets, rfl, htarget ((hrecord _).mpr rfl), hfile'⟩
  obtain ⟨_, s', hrun, targets, rfl, htarget, hkept⟩ := hdiscover.exists_ok
  exact ⟨targets, s', hrun, htarget, hkept.trans hcontent⟩

end Probe

namespace Simulation.Population

/-- A service whose command has more than one line. -/
def brokenLines : ServiceSpec :=
  ⟨.server2, ⟨"sh", ["-c", "exec just server2\r\n  --port 3004", ""]⟩, "listening", 3004, 30000⟩

def supervision : Supervision Population := ⟨.ofString "/w", [], [], 100, {}, .standard {}⟩

/-- The session that the service has been launched in. -/
def afterLaunch : Session Population :=
  Supervising.launched supervision brokenLines 101 (Session.start ⟨[]⟩ .absent)

/-- The service is left alone with its pidfile. -/
def leftBehind : Session Population :=
  let command := brokenLines.launch.program :: brokenLines.launch.args
  Session.start ⟨[⟨101, false, command⟩]⟩ afterLaunch.pids

/-- Nothing is done to the population by dropping pidfiles. -/
theorem host_eq_of_dropping {s s' : Session Population}
    (hs : s.Reaches (Action.isDropping ·) s') : s'.host = s.host := by
  refine hs.keeps (P := fun t => t.host = s.host) (fun t a ha ht => ?_) rfl
  cases a with
  | note e => exact ht
  | folder f => exact ht
  | _ => exact absurd ha nofun

theorem shows_of_living {s : Session Population} {pid : Pid} {arguments : List String}
    (halive : Host.hasProcess pid.toNat s.host = true)
    (htable : ∃ p, s.host.living.find? (·.pid == pid) = some p ∧ p.arguments = arguments) :
    s.Shows pid arguments := by
  intro s' hs
  rw [host_eq_of_dropping hs]
  exact ⟨halive, htable⟩

end Simulation.Population

namespace Probe

open Simulation.Population (brokenLines leftBehind afterLaunch)

theorem recorded_process_is_recognised_in_population :
    '\n' ∉ brokenLines.launch.program.toList ∧
      ∃ targets s', (pidfile : Probe Simulation.Population).discover ⟨[], []⟩ leftBehind =
        .ok (.ok targets) s' ∧ ⟨101, "recorded Server2 (port 3004)"⟩ ∈ targets := by
  have hline : '\n' ∉ brokenLines.launch.program.toList := by decide
  have hshows : leftBehind.Shows 101 (brokenLines.launch.program :: brokenLines.launch.args) :=
    Simulation.Population.shows_of_living rfl ⟨_, rfl, rfl⟩
  have hfile : leftBehind.pids.file? (fileName brokenLines.role) =
      afterLaunch.pids.file? (fileName brokenLines.role) := rfl
  obtain ⟨targets, s', hrun, htarget, -⟩ := recorded_process_is_recognised hline (by decide)
    (by decide) (by decide +kernel) (by decide +kernel) hfile hshows ⟨[], []⟩
  exact ⟨hline, targets, s', hrun, htarget⟩

end Probe

end LatencyHarness
