import LatencyHarness.Controller
import LatencyHarness.Proofs.Course
import LatencyHarness.Proofs.Orderly

/-! What a run holds agrees with its milestones.

A service is entered under its role, and the client put into its slot, before the run waits for
anything; so whichever wait ends the way forward, nothing that was launched is lost sight of. -/
namespace LatencyHarness

variable {σ : Type} [Host σ] {α β : Type}

open Course

/-- A run has come along a word of the way, but not to its end. -/
def ShortOf (W P : List Event → Prop) : Prop := ∃ l l', W (l ++ l') ∧ l' ≠ [] ∧ P l

/-! ### The books of a run -/

namespace Supervisor

/-- The supervisor with its session gone on. -/
def withSession (v : Supervisor σ) (s : Session σ) : Supervisor σ := { v with session := s }

/-- What a supervisor holds is what the milestones say has been launched. -/
structure OnCourse (v : Supervisor σ) (ms : List Event) : Prop where
  milestones : v.session.journal.milestones = ms
  tracked : ∀ role pid, .launched role pid ∈ ms → ∃ t, v.tracked role = some t ∧ t.pid = pid
  spawned : ∀ e ∈ ms, ∀ pid, e.child? = some pid → v.session.HasSpawned pid
  /-- an end that has been recorded is one that the host has told of -/
  exits : ∀ role t status, v.tracked role = some t → t.exited = some status →
    v.session.HasLearnt t.pid status
  passes : v.passes = 0

/-- No service is known to have ended. -/
def AllRunning (v : Supervisor σ) : Prop := ∀ role t, v.tracked role = some t → t.exited = none

variable {v : Supervisor σ} {ms : List Event} {s' : Session σ}

theorem OnCourse.later (h : v.OnCourse ms) (hs : v.session.Later s')
    (hms : s'.journal.milestones = v.session.journal.milestones) :
    (v.withSession s').OnCourse ms where
  milestones := hms.trans h.milestones
  tracked := h.tracked
  spawned e hmem pid hpid := (h.spawned e hmem pid hpid).reaches hs
  exits role t status ht hexit := (h.exits role t status ht hexit).later hs
  passes := h.passes

theorem OnCourse.reaches (h : v.OnCourse ms) (hs : v.session.Reaches (Action.isBackground ·) s') :
    (v.withSession s').OnCourse ms := h.later hs.later hs.milestones_eq

/-- A milestone that is not the launch of a service. -/
theorem OnCourse.note (h : v.OnCourse ms) {e : Event} (he : e.isMilestone = true)
    (hl : e.launched? = none) (hchild : ∀ pid, e.child? = some pid → v.session.HasSpawned pid) :
    (v.withSession ((Action.note e).apply v.session)).OnCourse (ms ++ [e]) := by
  have hstep : v.session.Later ((Action.note e).apply v.session) := .step _ rfl
  refine ⟨?_, fun role pid hmem => ?_, fun e' hmem pid hpid => ?_,
    fun role t status ht hexit => (h.exits role t status ht hexit).later hstep, h.passes⟩
  · change Journal.milestones (e :: v.session.journal) = _
    rw [Journal.milestones_cons_of he, h.milestones]
  · rcases List.mem_append.mp hmem with hold | hnew
    · exact h.tracked role pid hold
    · -- the new one is no launch of a service
      rw [← List.mem_singleton.mp hnew] at hl
      simp [Event.launched?] at hl
  · rcases List.mem_append.mp hmem with hold | hnew
    · exact (h.spawned e' hold pid hpid).reaches hstep
    · obtain rfl := List.mem_singleton.mp hnew
      exact (hchild pid hpid).reaches hstep

/-- A program has been launched that is not known to the supervisor yet. -/
theorem OnCourse.spawn (h : v.OnCourse ms) (hrun : v.AllRunning) (dir : Path) (l : Launch) :
    (v.withSession ((Action.spawn dir l).apply v.session)).OnCourse ms := by
  -- a launch may change what the host says of an end, but no end has been recorded yet
  have hstep : v.session.Reaches (fun _ => True) ((Action.spawn dir l).apply v.session) :=
    .step _ trivial
  exact ⟨h.milestones, h.tracked, fun e hmem pid hpid => (h.spawned e hmem pid hpid).reaches hstep,
    fun role t _ ht hexit => absurd hexit (by simp [hrun role t ht]), h.passes⟩

/-- A launched process is entered under its role before anything is waited for. -/
theorem OnCourse.enter (h : v.OnCourse ms) (hrun : v.AllRunning) {role : Role} {t : Tracked}
    (hfree : v.tracked role = none) (ht : t.exited = none) (hspawned : v.session.HasSpawned t.pid)
    (hs' : ((Action.note (.launched role t.pid)).apply v.session).Reaches
      (Action.isBackground ·) s') :
    ((v.withSession s').withEntry role (some t)).OnCourse (ms ++ [.launched role t.pid]) ∧
      ((v.withSession s').withEntry role (some t)).AllRunning := by
  have hnoted : v.session.Later ((Action.note (.launched role t.pid)).apply v.session) :=
    .step _ rfl
  have hreach : v.session.Later s' := hnoted.trans hs'.later
  -- the new entry has no recorded end, and the others are as they were
  have hrun' : ((v.withSession s').withEntry role (some t)).AllRunning := by
    intro role' t' ht'
    simp only [withEntry, withSession] at ht'
    split at ht'
    · rw [← Option.some.inj ht', ht]
    · exact hrun role' t' ht'
  refine ⟨⟨?_, ?_, ?_, ?_, h.passes⟩, hrun'⟩
  · change s'.journal.milestones = _
    rw [hs'.milestones_eq]
    change Journal.milestones (.launched role t.pid :: v.session.journal) = _
    rw [Journal.milestones_cons_of rfl, h.milestones]
  · intro role' pid hmem
    simp only [withEntry, withSession]
    rcases List.mem_append.mp hmem with hold | hnew
    · -- the role was free, so the launch is that of another one
      obtain ⟨t', ht', hpid⟩ := h.tracked role' pid hold
      have hne : role' ≠ role := by
        rintro rfl
        simp [hfree] at ht'
      exact ⟨t', by rw [if_neg hne, ht'], hpid⟩
    · obtain ⟨rfl, rfl⟩ := Event.launched.inj (List.mem_singleton.mp hnew)
      exact ⟨t, by rw [if_pos rfl], rfl⟩
  · intro e hmem pid hpid
    rcases List.mem_append.mp hmem with hold | hnew
    · exact (h.spawned e hold pid hpid).reaches hreach
    · obtain rfl := List.mem_singleton.mp hnew
      obtain rfl : t.pid = pid := Option.some.inj hpid
      exact hspawned.reaches hreach
  · intro role' t' status ht' hexit
    exact absurd hexit (by simp [hrun' role' t' ht'])

/-- The end of a service that is not ready yet is recorded in its entry. -/
theorem OnCourse.mark (h : v.OnCourse ms) {role : Role} {t : Tracked} {status : WaitStatus}
    (ht : v.tracked role = some t) (hlearnt : v.session.HasLearnt t.pid status) :
    (v.withEntry role (some { t with exited := some status })).OnCourse ms := by
  refine ⟨h.milestones, fun role' pid hmem => ?_, h.spawned, fun role' t' status' ht' hexit => ?_,
    h.passes⟩
  · obtain ⟨t', ht', hpid⟩ := h.tracked role' pid hmem
    simp only [withEntry]
    split
    · -- the entry of the role itself keeps its process
      next hrole =>
      obtain rfl : t = t' := Option.some.inj (ht.symm.trans (hrole ▸ ht'))
      exact ⟨_, rfl, hpid⟩
    · exact ⟨t', ht', hpid⟩
  · simp only [withEntry] at ht'
    split at ht'
    · obtain rfl := Option.some.inj ht'
      obtain rfl : status = status' := Option.some.inj hexit
      exact hlearnt
    · exact h.exits role' t' status' ht' hexit

end Supervisor

namespace Supervising

variable {v : Supervisor σ} {ms : List Event}

omit [Host σ] in
/-- A task of the supervisor's session changes nothing else of it. -/
theorem ends_lift {t : Task σ α} {Q : α → Supervisor σ → Prop} {E : Halt → Supervisor σ → Prop}
    (h : Ends t v.session (fun a s' => Q a (v.withSession s')) (fun e s' => E e (v.withSession s'))) :
    Ends (liftM t : Supervising σ α) v Q E := by
  -- the session is put back whether the task ends with a value or is halted
  cases ht : t v.session with
  | ok a n =>
    have hrun : (liftM t : Supervising σ α) v = .ok a (v.withSession n) := by
      change (MonadLift.monadLift t : Supervising σ α) v = _
      simp only [MonadLift.monadLift, ht]
      rfl
    have ha := h.of_ok ht
    simpa only [Ends, hrun] using ha
  | error e n =>
    have hrun : (liftM t : Supervising σ α) v = .error e (v.withSession n) := by
      change (MonadLift.monadLift t : Supervising σ α) v = _
      simp only [MonadLift.monadLift, ht]
      rfl
    have he := h.of_error ht
    simpa only [Ends, hrun] using he

/-- The session after a launch: the service has been spawned and noted, and its pidfile written. -/
def launched (sv : Supervision σ) (spec : ServiceSpec) (pid : Pid) (s : Session σ) : Session σ :=
  let spawned := (Action.spawn sv.workingDir spec.launch).apply s
  let noted := (Action.note (.launched spec.role pid)).apply spawned
  let write := Pidfile.write spec.role ⟨pid, spec.port, spec.launch.display⟩
  (Action.folder (write.on s.pids).2).apply noted

theorem reaches_launched {A : Action → Prop} (sv : Supervision σ) (spec : ServiceSpec) (pid : Pid)
    (s : Session σ) (hnote : A (.note (.launched spec.role pid))) (hfolder : ∀ f, A (.folder f)) :
    ((Action.spawn sv.workingDir spec.launch).apply s).Reaches A (launched sv spec pid s) :=
  (Session.Reaches.step _ hnote).tail (hfolder _)

/-- The entry of a service that has just been launched. -/
def entryOf (spec : ServiceSpec) (pid : Pid) : Tracked := ⟨pid, spec.port, spec.launch.display, none⟩

/-- A launch is one attempt to spawn; what has been spawned is noted, recorded and entered. -/
theorem launch_runs (sv : Supervision σ) (spec : ServiceSpec) (v : Supervisor σ) :
    Ends (launch sv spec) v
      (fun r v' => r = (Host.spawn sv.workingDir spec.launch v.session.host).1 ∧
        match r with
        | .error _ => v' = v.withSession ((Action.spawn sv.workingDir spec.launch).apply v.session)
        | .ok pid => v' = (v.withSession (launched sv spec pid v.session)).withEntry spec.role
            (some (entryOf spec pid)))
      (fun _ _ => False) := by
  have hspawn : Ends (liftM (Task.perform (Host.spawn sv.workingDir spec.launch)) :
      Supervising σ (Except SystemError Pid)) v
      (fun r v₁ => r = (Host.spawn sv.workingDir spec.launch v.session.host).1 ∧
        v₁ = v.withSession ((Action.spawn sv.workingDir spec.launch).apply v.session))
      (fun _ _ => False) := ends_lift ⟨rfl, rfl⟩
  refine hspawn.bind fun r v₁ ⟨hr, hv₁⟩ => ?_
  subst hv₁
  match r with
  | .error _ => exact ⟨hr, rfl⟩
  | .ok _ => exact ⟨hr, rfl⟩

/-- How the launch of a service ends: it is entered under its role, or nothing is launched. -/
theorem launch_ends (sv : Supervision σ) (spec : ServiceSpec) (h : v.OnCourse ms)
    (hrun : v.AllRunning) (hfree : v.tracked spec.role = none) :
    Ends (launch sv spec) v (fun r v' => (v.session.Alert → v'.session.Alert) ∧
      match r with
      | .ok pid => v'.OnCourse (ms ++ [.launched spec.role pid]) ∧ v'.AllRunning ∧
          ∃ t, v'.tracked spec.role = some t ∧ t.pid = pid
      | .error _ => v'.OnCourse ms) (fun _ _ => False) := by
  refine (launch_runs sv spec v).mono (fun r v' ⟨hr, hv'⟩ => ?_) fun _ _ he => he
  have h₁ := h.spawn hrun sv.workingDir spec.launch
  match r with
  | .error _ =>
    subst hv'
    exact ⟨id, h₁⟩
  | .ok pid =>
    subst hv'
    have hpid : (v.withSession ((Action.spawn sv.workingDir spec.launch).apply
        v.session)).session.HasSpawned pid := ⟨_, _, _, hr.symm, .refl _⟩
    -- the pidfile is written before the entry is made
    have hentered := h₁.enter hrun (t := entryOf spec pid) hfree rfl hpid (.step _ (a := .folder
      ((Pidfile.write spec.role ⟨pid, spec.port, spec.launch.display⟩).on v.session.pids).2) rfl)
    exact ⟨id, hentered.1, hentered.2, _, if_pos rfl, rfl⟩

/-- What a start that goes well passes. -/
def StartWay (role : Role) (l : List Event) : Prop :=
  ∃ pid, l = [.launched role pid, .ready role pid]

theorem shortOf_startWay {role : Role} {pid : Pid} {P : List Event → Prop}
    (h : P [.launched role pid]) : ShortOf (StartWay role) P :=
  ⟨_, [.ready role pid], ⟨pid, rfl⟩, by simp, h⟩

/-- How a start ends that is not halted: the service is ready, or the start has stopped short of
that. -/
def StartsOn (ms : List Event) (role : Role) : Except StartError Started → Supervisor σ → Prop
  | .ok _, v => v.AllRunning ∧ ∃ l, StartWay role l ∧ v.OnCourse (ms ++ l)
  | .error _, v => ShortOf (StartWay role) fun l => v.OnCourse (ms ++ l)

theorem conclude_ends (spec : ServiceSpec) (pid : Pid) (reader : LineReader)
    (outcome : ReadinessOutcome) (h : v.OnCourse (ms ++ [.launched spec.role pid]))
    (hrun : v.AllRunning) (ha : v.session.Alert)
    (ht : ∃ t, v.tracked spec.role = some t ∧ t.pid = pid)
    (hlearnt : ∀ status, outcome = .processExited status → v.session.HasLearnt pid status) :
    Ends (conclude spec pid reader outcome : Supervising σ _) v
      (fun r v' => v'.session.Alert ∧ StartsOn ms spec.role r v')
      (fun _ _ => False) := by
  cases outcome with
  | ready =>
    -- the output is echoed from now on, and then the milestone is passed
    have hforward := h.reaches (.step v.session
      (a := .forwarders (v.session.forwarders ++ [⟨pid, spec.role.name, reader⟩])) rfl)
    have hready := hforward.note (e := .ready spec.role pid) rfl rfl nofun
    rw [List.append_assoc] at hready
    exact ⟨ha, hrun, _, ⟨pid, rfl⟩, hready⟩
  | processExited status =>
    -- the end goes into the entry, which stays until the teardown
    obtain ⟨t, ht, rfl⟩ := ht
    have hmarked := h.mark ht (hlearnt status rfl)
    have hentry : (v.tracked spec.role).map ({ · with exited := some status }) =
        some { t with exited := some status } := by rw [ht, Option.map_some]
    rw [← hentry] at hmarked
    have hnoted := hmarked.reaches (.step _ (a := .note (.exitedEarly spec.role status)) rfl)
    exact ⟨ha, shortOf_startWay hnoted⟩
  | timedOut =>
    have hnoted := h.reaches (.step _ (a := .note (.readinessTimedOut spec.role)) rfl)
    exact ⟨ha, shortOf_startWay hnoted⟩

/-- The wait for a launched service leaves the books as they are, wherever it is broken off, and an
end that it reports is one that the host has told of. -/
theorem watch_ends (w : Watch) (pid : Pid) (r : LineReader) (h : v.OnCourse ms)
    (hrun : v.AllRunning) (ha : v.session.Alert) :
    Ends (liftM (w.run pid r : Task σ _) : Supervising σ _) v
      (fun x v' => (v'.session.Alert ∧ v'.OnCourse ms ∧ v'.AllRunning ∧ v'.tracked = v.tracked) ∧
        ∀ status, x.2 = .processExited status → v'.session.HasLearnt pid status)
      (fun e v' => (e = .interrupted ↔ v'.session.cancelled = true) ∧ v'.OnCourse ms) := by
  have horderly := w.orderly_run pid r v.session
  have hlearns := w.run_learns pid r v.session
  refine ends_lift ((horderly.and hlearns).mono ?_ ?_)
  · rintro x s' ⟨hpasses, hlearnt⟩
    exact ⟨⟨hpasses.alert ha, h.reaches hpasses.reaches, hrun, rfl⟩, hlearnt⟩
  · rintro e s' ⟨hhalts, -⟩
    exact ⟨hhalts.prompt ha, h.reaches hhalts.reaches⟩

/-- How a start ends: the service is ready, or the start stops short of that. What has been
launched is entered in every case. -/
theorem start_ends (sv : Supervision σ) (spec : ServiceSpec) (h : v.OnCourse ms)
    (hrun : v.AllRunning) (ha : v.session.Alert) :
    Ends (start sv spec) v
      (fun r v' => v'.session.Alert ∧ StartsOn ms spec.role r v')
      (fun e v' => (e = .interrupted ↔ v'.session.cancelled = true) ∧
        ShortOf (StartWay spec.role) fun l => v'.OnCourse (ms ++ l)) := by
  have hnothing : ShortOf (StartWay spec.role) fun l => v.OnCourse (ms ++ l) :=
    ⟨[], _, ⟨0, rfl⟩, by simp, by simpa using h⟩
  change Ends (if v.isTracked spec.role then _ else _) v _ _
  split
  · -- a role that is started twice crashes the run, and a crash is no interruption
    exact ⟨by simp [ha.2], hnothing⟩
  · next hfree =>
    have hnone : v.tracked spec.role = none := by
      simpa [Supervisor.isTracked] using hfree
    refine (launch_ends sv spec h hrun hnone).of_total.bind fun r v₁ ⟨ha₁, h₁⟩ => ?_
    match r with
    | .error _ => exact ⟨ha₁ ha, [], _, ⟨0, rfl⟩, by simp, by simpa using h₁⟩
    | .ok pid =>
      obtain ⟨hcourse, hrun₁, ht⟩ := h₁
      -- from here on the entry stands, so the wait may be broken off anywhere
      have hwatch := watch_ends (watchOf sv spec) pid (.ofStreams true true) hcourse hrun₁ (ha₁ ha)
      refine (hwatch.mono (fun _ _ h => h) fun _ _ h => ⟨h.1, shortOf_startWay h.2⟩).bind
        fun (reader, outcome) v₂ ⟨⟨ha₂, h₂, hrun₂, htracked⟩, hlearnt⟩ => ?_
      exact (conclude_ends spec pid reader outcome h₂ hrun₂ ha₂ (htracked ▸ ht) hlearnt).of_total

end Supervising

/-! ### The run -/

/-- The milestones that leave the books of a run as they are. -/
def Event.isMark : Event → Bool
  | runnerFound _ | portsFree => true
  | clientExited status => status.isSuccess
  | _ => false

namespace Controller

def session (c : Controller σ) : Session σ := c.supervisor.session

/-- The controller with its session gone on. -/
def withSession (c : Controller σ) (s : Session σ) : Controller σ :=
  { c with supervisor := c.supervisor.withSession s }

/-- The controller of a run that requests for shutdown can or cannot interrupt. -/
def withInterrupts (c : Controller σ) (allowed : Bool) : Controller σ :=
  c.withSession ((Action.interrupts allowed).apply c.session)

/-- What a controller holds is what the milestones say: the services, the client and the state. -/
structure OnCourse (c : Controller σ) (ms : List Event) : Prop where
  services : c.supervisor.OnCourse ms
  state : (visits ms).getLast? = some c.state
  client : (clients ms).getLast? = c.client
  tornDown : c.tornDown = false

/-- A run that has passed some milestones and goes forward from a state. -/
structure Going (c : Controller σ) (ms : List Event) (a : RunState) : Prop where
  onCourse : c.OnCourse ms
  state : c.state = a
  running : c.supervisor.AllRunning
  alert : c.session.Alert

variable {c : Controller σ} {ms : List Event} {s' : Session σ} {a b : RunState}

theorem OnCourse.later (h : c.OnCourse ms) (hs : c.session.Later s')
    (hms : s'.journal.milestones = c.session.journal.milestones) :
    (c.withSession s').OnCourse ms :=
  ⟨h.services.later hs hms, h.state, h.client, h.tornDown⟩

theorem OnCourse.reaches (h : c.OnCourse ms) (hs : c.session.Reaches (Action.isBackground ·) s') :
    (c.withSession s').OnCourse ms := h.later hs.later hs.milestones_eq

theorem OnCourse.milestones (h : c.OnCourse ms) : c.session.journal.milestones = ms :=
  h.services.milestones

theorem OnCourse.withServices (h : c.OnCourse ms) {v : Supervisor σ} {l : List Event}
    (hv : v.OnCourse (ms ++ l)) (hl : ∀ e ∈ l, e.arrival? = none ∧ e.client? = none) :
    ({ c with supervisor := v } : Controller σ).OnCourse (ms ++ l) := by
  refine ⟨hv, ?_, ?_, h.tornDown⟩
  · have hnone : l.filterMap Event.arrival? = [] :=
      List.filterMap_eq_nil_iff.mpr fun e he => (hl e he).1
    rw [visits_append, hnone, List.append_nil]
    exact h.state
  · have hnone : clients l = [] := List.filterMap_eq_nil_iff.mpr fun e he => (hl e he).2
    rw [clients_append, hnone, List.append_nil]
    exact h.client

theorem OnCourse.withClient (h : c.OnCourse ms) {v : Supervisor σ} {pid : Pid}
    (hv : v.OnCourse (ms ++ [.clientLaunched pid])) :
    ({ c with supervisor := v, client := some pid } : Controller σ).OnCourse
      (ms ++ [.clientLaunched pid]) := by
  refine ⟨hv, ?_, by simp [clients, Event.client?], h.tornDown⟩
  rw [visits_append]
  simpa [Event.arrival?] using h.state

theorem OnCourse.mark (h : c.OnCourse ms) {e : Event} (he : e.isMark = true) :
    (c.withSession ((Action.note e).apply c.session)).OnCourse (ms ++ [e]) := by
  have hplain : e.isMilestone = true ∧ e.launched? = none ∧ e.child? = none ∧
      e.arrival? = none ∧ e.client? = none := by
    match e, he with
    | .runnerFound _, _ | .portsFree, _ => exact ⟨rfl, rfl, rfl, rfl, rfl⟩
    | .clientExited _, hsuccess => exact ⟨hsuccess, rfl, rfl, rfl, rfl⟩
  obtain ⟨hm, hl, hchild, hbooks⟩ := hplain
  refine h.withServices (h.services.note hm hl (by simp [hchild])) fun e' he' => ?_
  rwa [List.mem_singleton.mp he']

theorem OnCourse.transition (h : c.OnCourse ms) (b : RunState) :
    ({ c.withSession ((Action.note (.stateChanged c.state b)).apply c.session) with
      state := b } : Controller σ).OnCourse (ms ++ [.stateChanged c.state b]) := by
  refine ⟨h.services.note rfl rfl nofun, by simp [Event.arrival?], ?_, h.tornDown⟩
  have hnone : clients [Event.stateChanged c.state b] = [] := rfl
  rw [clients_append, hnone, List.append_nil]
  exact h.client

theorem Going.passes (h : c.Going ms a) (hs : c.session.Passes s') :
    (c.withSession s').Going ms a :=
  ⟨h.onCourse.reaches hs.reaches, h.state, h.running, hs.alert h.alert⟩

theorem start_onCourse (host : σ) (pids : Folder) :
    (Controller.start (Session.start host pids)).OnCourse [] where
  services := ⟨rfl, nofun, nofun, nofun, rfl⟩
  state := rfl
  client := rfl
  tornDown := rfl

end Controller

end LatencyHarness
