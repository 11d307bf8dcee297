import LatencyHarness.Proofs.Polling
import LatencyHarness.Proofs.Preflight

/-! The stages of the way forward, and what the host has to answer in each of them.

A stage is good if the host's answers in it are: the declaration file is there and the task runner
works, the ports are found free by the last check, a service is launched and decided to be ready, the
client is launched and its status tells of a success. None of this looks at what the run notes or
returns. Every stage answers that all is well exactly if it is good (`Stage.IsExact`), so the way
forward ends well exactly if it goes well stage by stage. -/
namespace LatencyHarness

variable {σ : Type} [Host σ]

/-! ### What the host answers -/

/-- The declaration file is there, and the task runner, run for its version, succeeds and tells
it. -/
structure Preconditions.Hold (c : Config) (version : String) (h : σ) : Prop where
  declared : Host.isFile c.declarationPath h = true
  works : ∃ x : Captured,
    (Host.capture ⟨c.taskRunner.program, c.taskRunner.versionArgs⟩ none h).1 = some (.ok x) ∧
      x.status = .exited 0 ∧ versionText? x = some version

/-- The session after the task runner has been run for its version. -/
def Preconditions.checked (c : Config) (s : Session σ) : Session σ :=
  (Action.capture ⟨c.taskRunner.program, c.taskRunner.versionArgs⟩ none).apply s

theorem Preconditions.status_of_versionText? {x : Captured} {version : String}
    (h : versionText? x = some version) : x.status = .exited 0 := by
  unfold versionText? at h
  split at h
  · next hsuccess => exact eq_of_beq hsuccess
  · exact absurd h nofun

/-- Where the declaration file is there, the task runner tells a version exactly if the preconditions
hold with it. -/
theorem Preconditions.version?_answers (c : Config) (s : Session σ)
    (hfile : Host.isFile c.declarationPath s.host = true) :
    Ends (version? c.taskRunner.program c.taskRunner.versionArgs : Task σ _) s
      (fun v s' => (∀ version, v = some version ↔ Hold c version s.host) ∧ s' = checked c s)
      (fun _ _ => False) := by
  have hcapture : Ends (Task.perform (Host.capture
      ⟨c.taskRunner.program, c.taskRunner.versionArgs⟩ none) : Task σ _) s
      (fun r s' => r = (Host.capture
        ⟨c.taskRunner.program, c.taskRunner.versionArgs⟩ none s.host).1 ∧ s' = checked c s)
      (fun _ _ => False) := ⟨rfl, rfl⟩
  refine hcapture.bind fun r s' ⟨hr, hs'⟩ => ?_
  -- where nothing has been printed, no version holds
  have hfailed (hnone : ∀ x, r ≠ some (.ok x)) (version : String) : ¬ Hold c version s.host := by
    rintro ⟨-, x, hx, -⟩
    exact hnone x (hr.trans hx)
  match r with
  | some (.ok x) =>
    refine ⟨fun version => ⟨fun hversion => ?_, fun h => ?_⟩, hs'⟩
    · exact ⟨hfile, x, hr.symm, status_of_versionText? hversion, hversion⟩
    · obtain ⟨-, y, hy, -, hversion⟩ := h
      obtain rfl : x = y := by simpa [hy] using hr
      exact hversion
  | some (.error _) => exact ⟨fun version => iff_of_false nofun (hfailed nofun version), hs'⟩
  | none => exact ⟨fun version => iff_of_false nofun (hfailed nofun version), hs'⟩

/-- The checks give a version exactly if the preconditions hold. -/
theorem Preconditions.check_answers (c : Config) (s : Session σ) :
    Ends (check c : Task σ _) s
      (fun r s' => (∀ version, r = .ok version ↔ Hold c version s.host) ∧
        ∀ version, r = .ok version → s' = checked c s)
      (fun _ _ => False) := by
  refine Task.ends_ask_bind ?_
  cases hfile : Host.isFile c.declarationPath s.host with
  | false =>
    -- the task runner is not even run
    have hmissing (version : String) : ¬ Hold c version s.host := fun h =>
      absurd (hfile.symm.trans h.declared) nofun
    exact ⟨fun version => iff_of_false nofun (hmissing version), nofun⟩
  | true =>
    refine (version?_answers c s hfile).bind fun v s' ⟨hv, hs'⟩ => ?_
    match v with
    | some version =>
      refine ⟨fun other => ?_, fun _ _ => hs'⟩
      rw [← hv other, Except.ok.injEq, Option.some.injEq]
    | none => exact ⟨fun other => iff_of_false nofun fun h => absurd ((hv other).mpr h) nofun, nofun⟩

/-- A service that is launched in a session gets an id, and what decides the wait for its marker is
that it is ready. -/
def Supervising.BecomesReady (sv : Supervision σ) (spec : ServiceSpec) (s : Session σ) : Prop :=
  ∃ pid, (Host.spawn sv.workingDir spec.launch s.host).1 = .ok pid ∧
    ∃ xs x r s', (watchOf sv spec).DecidedBy pid
      ((launched sv spec pid s).clock + spec.startupTimeout) (.ofStreams true true)
      (launched sv spec pid s) xs x .ready r s'

/-- Only one outcome is decided of a launched service, so it becomes ready exactly if that is it. -/
theorem Supervising.becomesReady_iff {sv : Supervision σ} {spec : ServiceSpec} {s s' : Session σ}
    {pid : Pid} (hpid : (Host.spawn sv.workingDir spec.launch s.host).1 = .ok pid) {xs : List Poll}
    {x : Poll} {outcome : ReadinessOutcome} {r : LineReader}
    (h : (watchOf sv spec).DecidedBy pid ((launched sv spec pid s).clock + spec.startupTimeout)
      (.ofStreams true true) (launched sv spec pid s) xs x outcome r s') :
    BecomesReady sv spec s ↔ outcome = .ready := by
  constructor
  · rintro ⟨pid', hpid', ys, y, r', t, h'⟩
    obtain rfl : pid = pid' := Except.ok.inj (hpid.symm.trans hpid')
    exact h.unique h'
  · rintro rfl
    exact ⟨pid, hpid, xs, x, r, s', h⟩

/-- A start that comes to its end has made the service ready exactly if that is what has decided. -/
theorem Supervising.start_answers (sv : Supervision σ) (spec : ServiceSpec) (v : Supervisor σ) :
    Ends (start sv spec) v
      (fun r _ => (∃ started, r = .ok started) ↔ BecomesReady sv spec v.session)
      (fun _ _ => True) := by
  change Ends (if v.isTracked spec.role then _ else _) v _ _
  split
  · trivial
  refine (launch_runs sv spec v).of_total.bind fun r v₁ ⟨hr, hv₁⟩ => ?_
  match r with
  | .error e =>
    refine iff_of_false (fun ⟨_, h⟩ => absurd h nofun) ?_
    rintro ⟨pid, hpid, -⟩
    exact absurd (hr.trans hpid) nofun
  | .ok pid =>
    subst hv₁
    let s := launched sv spec pid v.session
    let w := watchOf sv spec
    -- what the wait comes to is what its polls decide
    have hdecided : Ends (w.run pid (.ofStreams true true)) s
        (fun y s' => ∃ xs x, w.DecidedBy pid (s.clock + spec.startupTimeout) (.ofStreams true true)
          s xs x y.2 y.1 s') (fun _ _ => True) := by
      refine (w.deadline_ends s).forget.bind fun d s₁ ⟨hs₁, hd, _⟩ => ?_
      subst hd hs₁
      exact Task.ends_ask_bind (Watch.rounds_decided w pid _ _ _ _)
    have hwait : Ends (liftM (w.run pid (.ofStreams true true)) : Supervising σ _)
        ((v.withSession s).withEntry spec.role (some (entryOf spec pid)))
        (fun y _ => BecomesReady sv spec v.session ↔ y.2 = .ready) (fun _ _ => True) :=
      ends_lift (hdecided.mono (fun _ _ ⟨_, _, h⟩ => becomesReady_iff hr.symm h)
        fun _ _ _ => trivial)
    refine hwait.bind ?_
    rintro ⟨reader, outcome⟩ v₂ hready
    cases outcome with
    | ready => exact iff_of_true ⟨_, rfl⟩ (hready.mpr rfl)
    | timedOut =>
      exact iff_of_false (fun ⟨_, h⟩ => absurd h nofun) fun h => absurd (hready.mp h) nofun
    | processExited status =>
      exact iff_of_false (fun ⟨_, h⟩ => absurd h nofun) fun h => absurd (hready.mp h) nofun

/-- Who waits for the end of a child from here on learns this status: the host tells it at once, or
when the wait is over. -/
inductive Session.Learns (s : Session σ) (pid : Pid) (status : WaitStatus) : Prop
  | atOnce (h : Host.exitStatus? pid s.host = .ok (some status)) : Learns s pid status
  | later {s' : Session σ} (halive : Host.exitStatus? pid s.host = .ok none)
    (hwait : (Task.await (.exit pid) none : Task σ Unit) s = .ok () s')
    (h : Host.exitStatus? pid s'.host = .ok (some status)) : Learns s pid status

theorem Task.waitExit_learns (pid : Pid) (s : Session σ) :
    Ends (waitExit pid none : Task σ _) s
      (fun r _ => ∀ status, r = .ok (some status) ↔ s.Learns pid status) (fun _ _ => True) := by
  refine ends_ask_bind ?_
  cases hnow : Host.exitStatus? pid s.host with
  | error e =>
    refine fun status => iff_of_false nofun ?_
    rintro (h | ⟨h, -, -⟩) <;> exact absurd (hnow.symm.trans h) nofun
  | ok known =>
    cases known with
    | some known =>
      refine fun status => ⟨fun h => ?_, ?_⟩
      · exact .atOnce (hnow.trans h)
      · rintro (h | ⟨h, -, -⟩)
        · exact hnow.symm.trans h
        · exact absurd (hnow.symm.trans h) nofun
    | none =>
      -- the child is alive, so the status is asked for once more after the wait
      refine ends_ask_bind ?_
      refine (Ends.ok_self (await (.exit pid) none) s).bind fun _ s' hwait => ?_
      refine fun status => ⟨fun h => .later hnow hwait h, ?_⟩
      rintro (h | ⟨-, hwait', h⟩)
      · exact absurd (hnow.symm.trans h) nofun
      · obtain rfl := (EStateM.Result.ok.inj (hwait.symm.trans hwait')).2
        exact h

namespace Client

/-- The session in which a client that has been launched is waited for. -/
def launched (dir : Path) (launch : Launch) (pid : Pid) (s : Session σ) : Session σ :=
  (Action.note (.clientLaunched pid)).apply
    ((Action.spawn dir launch).apply ((Action.note .clientStarting).apply s))

/-- A client that is launched in a session gets an id, its output is shown until it closes, and then
its status is found to be that of a success. -/
def EndsWell (dir : Path) (launch : Launch) (s : Session σ) : Prop :=
  ∃ pid t, (Host.spawn dir launch ((Action.note .clientStarting).apply s).host).1 = .ok pid ∧
    (stream pid (Host.patience (launched dir launch pid s).host) (.ofStreams true true) : Task σ Unit)
      (launched dir launch pid s) = .ok () t ∧ t.Learns pid (.exited 0)

theorem wait_answers (pid : Pid) (s : Session σ) :
    Ends (wait pid : Task σ _) s
      (fun r _ => r = .ok () ↔
        ∃ t, (stream pid (Host.patience s.host) (.ofStreams true true) : Task σ Unit) s = .ok () t ∧
          t.Learns pid (.exited 0))
      (fun _ _ => True) := by
  refine Task.ends_ask_bind ?_
  refine (Ends.ok_self (stream pid (Host.patience s.host) _) s).bind fun _ t hstream => ?_
  -- showing the output leads to one session only, and that is where the status is asked for
  have hshown (status : WaitStatus) : (∃ t, (stream pid (Host.patience s.host)
      (.ofStreams true true) : Task σ Unit) s = .ok () t ∧ t.Learns pid status) ↔
      t.Learns pid status := by
    constructor
    · rintro ⟨t', hstream', h⟩
      obtain rfl := (EStateM.Result.ok.inj (hstream.symm.trans hstream')).2
      exact h
    · exact fun h => ⟨t, hstream, h⟩
  rw [hshown]
  refine (Task.waitExit_learns pid t).bind fun r u hlearnt => ?_
  match r with
  | .ok none => trivial
  | .error e => exact iff_of_false (by simp) fun h => by simpa using (hlearnt _).mpr h
  | .ok (some status) =>
    refine Task.ends_emit_bind ?_
    rw [← hlearnt]
    by_cases hs : status = .exited 0
    · subst hs
      exact iff_of_true rfl rfl
    · rw [verdict_of_failure (WaitStatus.isSuccess_eq_false hs)]
      exact iff_of_false (by simp) fun h => hs (Option.some.inj (Except.ok.inj h))

end Client

/-! ### Stages -/

namespace Running

/-- A part of the way forward: the state that the run is in meanwhile, what is done, and what has to
hold of where it begins and where it ends for all to be well. -/
structure Stage (σ : Type) where
  state : RunState
  task : Running σ (Except HarnessError Unit)
  Good : Controller σ → Controller σ → Prop

/-- A stage that comes to an answer says that all is well exactly if it is. -/
def Stage.IsExact (t : Stage σ) : Prop :=
  ∀ c answer c', t.task c = .ok answer c' → (answer = .ok () ↔ t.Good c c')

/-- One part of the way forward, and then another one if all is well. -/
def andThen (t u : Running σ (Except HarnessError Unit)) : Running σ (Except HarnessError Unit) := do
  match ← t with
  | .error e => return .error e
  | .ok () => u

/-- Some stages one after the other, up to the first that does not go well. -/
def inSequence : List (Stage σ) → Running σ (Except HarnessError Unit)
  | [] => return .ok ()
  | t :: ts => transition t.state >>= fun _ => andThen t.task (inSequence ts)

/-- Some stages come to their ends, one after the other, and each of them is good. -/
def GoesWell : List (Stage σ) → Controller σ → Prop
  | [], _ => True
  | t :: ts, c => ∃ c₁ answer c₂, transition t.state c = .ok () c₁ ∧ t.task c₁ = .ok answer c₂ ∧
      t.Good c₁ c₂ ∧ GoesWell ts c₂

theorem transition_total (b : RunState) (c : Controller σ) :
    ∃ c', transition b c = .ok () c' := by
  by_cases h : c.state = b
  · obtain ⟨_, c', hc', -⟩ := (transition_self (E := fun _ _ => False) h).exists_ok
    exact ⟨c', hc'⟩
  · obtain ⟨_, c', hc', -⟩ := (transition_ends (E := fun _ _ => False) h).exists_ok
    exact ⟨c', hc'⟩

omit [Host σ] in
theorem andThen_assoc (t u v : Running σ (Except HarnessError Unit)) :
    andThen (andThen t u) v = andThen t (andThen u v) := by
  unfold andThen
  rw [bind_assoc]
  refine bind_congr fun r => ?_
  cases r with
  | error e => rfl
  | ok _ => rfl

omit [Host σ] in
theorem andThen_ok {t u : Running σ (Except HarnessError Unit)} {c c' : Controller σ}
    (h : t c = .ok (.ok ()) c') : andThen t u c = u c' := by
  simp only [andThen, Bind.bind, EStateM.bind, h]

omit [Host σ] in
theorem andThen_error {t u : Running σ (Except HarnessError Unit)} {e : HarnessError}
    {c c' : Controller σ} (h : t c = .ok (.error e) c') : andThen t u c = .ok (.error e) c' := by
  simp only [andThen, Bind.bind, EStateM.bind, h]
  rfl

theorem inSequence_cons {t : Stage σ} {ts : List (Stage σ)} {c c₁ : Controller σ}
    (h : transition t.state c = .ok () c₁) :
    inSequence (t :: ts) c = andThen t.task (inSequence ts) c₁ := by
  simp only [inSequence, Bind.bind, EStateM.bind, h]

/-- Exact stages answer that all is well exactly if they go well. -/
theorem inSequence_ok_iff {ts : List (Stage σ)} (h : ∀ t ∈ ts, t.IsExact) (c : Controller σ) :
    (∃ c', inSequence ts c = .ok (.ok ()) c') ↔ GoesWell ts c := by
  -- the induction is on the stages, for any state that the first of them begins in
  induction ts generalizing c with
  | nil => exact iff_of_true ⟨c, rfl⟩ trivial
  | cons t ts ih =>
    obtain ⟨ht, hts⟩ := List.forall_mem_cons.mp h
    obtain ⟨c₁, hc₁⟩ := transition_total t.state c
    constructor
    · rintro ⟨c', hrun⟩
      rw [inSequence_cons hc₁] at hrun
      cases htask : t.task c₁ with
      | error e c₂ =>
        simp only [andThen, Bind.bind, EStateM.bind, htask] at hrun
        exact absurd hrun nofun
      | ok answer c₂ =>
        match answer with
        | .error e => exact absurd ((andThen_error htask).symm.trans hrun) nofun
        | .ok () =>
          rw [andThen_ok htask] at hrun
          exact ⟨c₁, _, c₂, hc₁, htask, (ht _ _ _ htask).mp rfl, (ih hts c₂).mp ⟨c', hrun⟩⟩
    · rintro ⟨c₁', answer, c₂, hc₁', htask, hgood, hrest⟩
      obtain rfl := (EStateM.Result.ok.inj (hc₁.symm.trans hc₁')).2
      obtain rfl := (ht _ _ _ htask).mpr hgood
      obtain ⟨c', hrun⟩ := (ih hts c₂).mpr hrest
      exact ⟨c', by rw [inSequence_cons hc₁, andThen_ok htask, hrun]⟩

/-! ### The stages of a run -/

/-- The checks before anything is launched, and then the ports. -/
def preparation (p : Plan σ) : Stage σ where
  state := .preflightCleanup
  task := do
    match ← task (Preconditions.check p.config) with
    | .error e => return .error e
    | .ok version =>
      task (Task.emit (.runnerFound version))
      task (preflight p)
  Good c c' := ∃ version, Preconditions.Hold p.config version c.session.host ∧
    p.reclaimer.Settles p.config.ports p.patterns p.escalationPatterns
      ((Action.note (.runnerFound version)).apply (Preconditions.checked p.config c.session))
      (.ok ()) c'.session

/-- The start of the service of a role. -/
def serviceStage (p : Plan σ) (role : Role) : Stage σ where
  state := .starting role
  task := startService p role
  Good c _ :=
    let spec := p.config.service role
    Supervising.BecomesReady p.supervision spec ((Action.note
      (.line s!"🚀 Starting {role.name} ({spec.launch.display})...")).apply c.session)

/-- The client, from its launch to its end. -/
def clientStage (p : Plan σ) : Stage σ where
  state := .runningClient
  task := do
    let targets := " and ".intercalate p.config.endpoints
    print s!"🚀 Running client against {targets}..."
    launchClient p
  Good c _ :=
    let targets := " and ".intercalate p.config.endpoints
    Client.EndsWell p.config.workingDir p.config.clientLaunch ((Action.note
      (.line s!"🚀 Running client against {targets}...")).apply c.session)

/-- The stages of the way forward. -/
def stages (p : Plan σ) : List (Stage σ) :=
  preparation p :: (Role.startOrder.map (serviceStage p) ++ [clientStage p])

theorem preparation_isExact (p : Plan σ) : (preparation p).IsExact := by
  intro c answer c' hrun
  have hchecked := ends_task (Q := fun r c₁ =>
    (∀ version, r = .ok version ↔ Preconditions.Hold p.config version c.session.host) ∧
      ∀ version, r = .ok version → c₁ = c.withSession (Preconditions.checked p.config c.session))
    (E := fun _ _ => True) ((Preconditions.check_answers p.config c.session).mono
      (fun r s' h => ⟨h.1, fun version hr => by rw [h.2 version hr]⟩) fun _ _ h => h.elim)
  have hends : Ends (preparation p).task c
      (fun answer c' => answer = .ok () ↔ (preparation p).Good c c') (fun _ _ => True) := by
    refine hchecked.bind fun r c₁ ⟨hholds, hc₁⟩ => ?_
    match r with
    | .error e =>
      -- the stage ends here, so nothing may be claimed of the ports
      refine iff_of_false nofun ?_
      rintro ⟨version, hversion, -⟩
      exact absurd ((hholds version).mpr hversion) nofun
    | .ok version =>
      have hversion := (hholds version).mp rfl
      obtain rfl := hc₁ version rfl
      let s := (Action.note (.runnerFound version)).apply (Preconditions.checked p.config c.session)
      have hnoted : Ends (task (Task.emit (.runnerFound version)) : Running σ Unit)
          (c.withSession (Preconditions.checked p.config c.session))
          (fun _ c₂ => c₂ = c.withSession s) (fun _ _ => True) := rfl
      refine hnoted.bind fun _ c₂ hc₂ => ?_
      subst hc₂
      refine ends_task ((Reclaimer.preflight_settles p s).mono (fun answer s' hsettles => ?_)
        fun _ _ h => h)
      -- the version and the end of the preflight are both settled by the session
      constructor
      · rintro rfl
        exact ⟨version, hversion, hsettles⟩
      · rintro ⟨version', hversion', hgood⟩
        obtain rfl := Except.ok.inj ((hholds version').mpr hversion')
        exact hsettles.unique hgood
  exact hends.of_ok hrun

theorem serviceStage_isExact (p : Plan σ) (role : Role) : (serviceStage p role).IsExact := by
  intro c answer c' hrun
  let spec := p.config.service role
  let s := (Action.note (.line s!"🚀 Starting {role.name} ({spec.launch.display})...")).apply c.session
  have hends : Ends (startService p role) c
      (fun answer _ => answer = .ok () ↔ Supervising.BecomesReady p.supervision spec s)
      (fun _ _ => True) := by
    have hsaid : Ends (print s!"🚀 Starting {role.name} ({spec.launch.display})..." : Running σ Unit)
        c (fun _ c₁ => c₁ = c.withSession s) (fun _ _ => True) := rfl
    refine hsaid.bind fun _ c₁ hc₁ => ?_
    subst hc₁
    have hstart : Ends (liftM (Supervising.start p.supervision spec) : Running σ _) (c.withSession s)
        (fun r _ => (∃ started, r = .ok started) ↔
          Supervising.BecomesReady p.supervision spec s) (fun _ _ => True) :=
      ends_services (Supervising.start_answers p.supervision spec (c.withSession s).supervisor)
    refine hstart.bind fun r c₂ hready => ?_
    match r with
    | .error e => exact iff_of_false nofun fun h => absurd (hready.mpr h) (fun ⟨_, h⟩ => nomatch h)
    | .ok started =>
      exact iff_of_true rfl (hready.mp ⟨started, rfl⟩)
  exact hends.of_ok hrun

theorem awaitClient_answers (pid : Pid) (c : Controller σ) :
    Ends (awaitClient pid) c
      (fun answer _ => answer = .ok () ↔
        ∃ t, (Client.stream pid (Host.patience c.session.host) (.ofStreams true true) : Task σ Unit)
          c.session = .ok () t ∧ t.Learns pid (.exited 0))
      (fun _ _ => True) := by
  have hwaited : Ends (task (Client.wait pid)) c
      (fun r _ => r = .ok () ↔
        ∃ t, (Client.stream pid (Host.patience c.session.host) (.ofStreams true true) : Task σ Unit)
          c.session = .ok () t ∧ t.Learns pid (.exited 0)) (fun _ _ => True) :=
    ends_task (Client.wait_answers pid c.session)
  refine hwaited.bind fun r _ hgood => ?_
  match r with
  | .error e => exact hgood
  | .ok () => exact hgood

/-- A client that is launched and waited for has ended well exactly if that is the answer. -/
theorem launchClient_answers (p : Plan σ) (c : Controller σ) :
    Ends (launchClient p) c
      (fun answer _ => answer = .ok () ↔
        Client.EndsWell p.config.workingDir p.config.clientLaunch c.session)
      (fun _ _ => True) := by
  let dir := p.config.workingDir
  let launch := p.config.clientLaunch
  have hspawned : Ends (task (Client.spawn dir launch)) c
      (fun r c₁ => (∀ pid, r = .ok pid ↔
          (Host.spawn dir launch ((Action.note .clientStarting).apply c.session).host).1 = .ok pid) ∧
        ∀ pid, r = .ok pid → c₁ = c.withSession (Client.launched dir launch pid c.session))
      (fun _ _ => True) := by
    refine ends_task ((Client.spawn_ends dir launch c.session).mono
      (fun r s' ⟨hid, hr⟩ => ⟨hid, ?_⟩) fun _ _ h => h.elim)
    rintro pid rfl
    exact congrArg c.withSession hr
  refine hspawned.bind fun r c₁ ⟨hid, hc₁⟩ => ?_
  match r with
  | .error e =>
    refine iff_of_false nofun ?_
    rintro ⟨pid, -, hpid, -⟩
    exact absurd ((hid pid).mpr hpid) nofun
  | .ok pid =>
    obtain rfl := hc₁ pid rfl
    have hpid := (hid pid).mp rfl
    have hended := awaitClient_answers pid
      { c.withSession (Client.launched dir launch pid c.session) with client := some pid }
    refine hended.mono (fun answer _ h => h.trans ?_) fun _ _ h => h
    -- the host gives one id, so this is the client that is asked about
    constructor
    · rintro ⟨t, ht⟩
      exact ⟨pid, t, hpid, ht⟩
    · rintro ⟨pid', t, hpid', ht⟩
      obtain rfl := Except.ok.inj (hpid.symm.trans hpid')
      exact ⟨t, ht⟩

theorem clientStage_isExact (p : Plan σ) : (clientStage p).IsExact := by
  intro c answer c' hrun
  let targets := " and ".intercalate p.config.endpoints
  let text := s!"🚀 Running client against {targets}..."
  let s := (Action.note (.line text)).apply c.session
  have hsaid : Ends (print text : Running σ Unit)
      c (fun _ c₁ => c₁ = c.withSession s) (fun _ _ => True) := rfl
  have hends : Ends (clientStage p).task c
      (fun answer _ => answer = .ok () ↔ (clientStage p).Good c c') (fun _ _ => True) := by
    refine hsaid.bind fun _ c₁ hc₁ => ?_
    subst hc₁
    exact launchClient_answers p (c.withSession s)
  exact hends.of_ok hrun

omit [Host σ] in
theorem andThen_done (t : Running σ (Except HarnessError Unit)) :
    andThen t (return .ok ()) = t := by
  refine Eq.trans (bind_congr fun r => ?_) (bind_pure t)
  cases r with
  | error e => rfl
  | ok _ => rfl

omit [Host σ] in
theorem andThen_bind {α : Type} (t : Running σ α) (f : α → Running σ (Except HarnessError Unit))
    (u : Running σ (Except HarnessError Unit)) :
    andThen (t >>= f) u = t >>= fun x => andThen (f x) u := bind_assoc t f _

/-- The services are started stage by stage. -/
theorem startServices_eq (p : Plan σ) (roles : List Role) (ts : List (Stage σ)) :
    andThen (startServices p roles) (inSequence ts) =
      inSequence (roles.map (serviceStage p) ++ ts) := by
  induction roles with
  | nil => exact pure_bind _ _
  | cons role roles ih =>
    change andThen (transition (.starting role) >>= fun _ =>
      andThen (startService p role) (startServices p roles)) (inSequence ts) = _
    rw [andThen_bind]
    refine bind_congr fun _ => ?_
    rw [andThen_assoc, ih]
    rfl

/-- The way forward is that through its stages. -/
theorem drive_eq (p : Plan σ) : drive p = inSequence (stages p) := by
  -- a sequence of one stage ends with an empty one
  have hclient : runClient p = inSequence [clientStage p] :=
    bind_congr fun _ => (andThen_done _).symm
  have hlaunches : andThen (startServices p Role.startOrder) (runClient p) =
      inSequence (Role.startOrder.map (serviceStage p) ++ [clientStage p]) := by
    rw [hclient, startServices_eq]
  refine bind_congr fun _ => ?_
  rw [← hlaunches]
  -- the checks and the ports are two steps of the run and one stage
  refine Eq.trans (bind_congr fun r => ?_) (andThen_bind _ _ _).symm
  cases r with
  | error e => rfl
  | ok version => rfl

theorem isExact_of_mem_stages {p : Plan σ} {t : Stage σ} (h : t ∈ stages p) : t.IsExact := by
  rcases List.mem_cons.mp h with rfl | hrest
  · exact preparation_isExact p
  rcases List.mem_append.mp hrest with hservice | hclient
  · obtain ⟨role, -, rfl⟩ := List.mem_map.mp hservice
    exact serviceStage_isExact p role
  · obtain rfl := List.mem_singleton.mp hclient
    exact clientStage_isExact p

/-- The way forward ends well exactly if it goes well stage by stage. -/
theorem drive_ok_iff (p : Plan σ) (c : Controller σ) :
    (∃ c', drive p c = .ok (.ok ()) c') ↔ GoesWell (stages p) c := by
  rw [drive_eq]
  exact inSequence_ok_iff (fun _ h => isExact_of_mem_stages h) c

end Running

end LatencyHarness
