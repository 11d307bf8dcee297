import LatencyHarness.Proofs.Calm
import LatencyHarness.Proofs.Ending
import LatencyHarness.RunOptions

/-! Runs that end without a report.

The checks on a configuration bound a startup timeout from below only, and on the command line it
may be any number of seconds below 2 ^ 64. The deadline of a start is the present instant and the
timeout together, so a timeout that reaches past the end of the clock crashes the run, where a
service has just been launched and nothing is torn down. Apart from that, and from two services
under one role, a run comes to its report unless it goes on for longer than the host has patience
for. -/
namespace LatencyHarness

variable {σ : Type} [Host σ] {α β : Type}

/-! ### Starts -/

namespace Supervising

variable {v : Supervisor σ}

omit [Host σ] in
theorem isTracked_withEntry {role r : Role} {t : Tracked}
    (h : (v.withEntry role (some t)).isTracked r = true) : r = role ∨ v.isTracked r = true := by
  by_cases hr : r = role
  · exact .inl hr
  · simp only [Supervisor.isTracked, Supervisor.withEntry, hr, if_false] at h
    exact .inr h

/-- Why a start of a service is halted. -/
inductive StartHalts (v : Supervisor σ) (spec : ServiceSpec) : Halt → Supervisor σ → Prop
  | interrupted {v'} (h : v.session.interruptible = true) : StartHalts v spec .interrupted v'
  | exhausted {v'} : StartHalts v spec .exhausted v'
  /-- the role is taken -/
  | tracked {v'} (h : v.isTracked spec.role = true) : StartHalts v spec
      (.crashed s!"{spec.role.name} is already tracked; refusing to start it twice") v'
  /-- the service has been launched, but the clock cannot represent its deadline -/
  | overflowed {e v' pid} (h : Watch.Overflows spec.startupTimeout e v'.session)
      (hlaunched : .launched spec.role pid ∈ v'.session.journal) : StartHalts v spec e v'

/-- The outcome of a wait adds no role to the tracked ones. -/
theorem conclude_tracks (spec : ServiceSpec) (pid : Pid) (reader : LineReader)
    (outcome : ReadinessOutcome) (v : Supervisor σ) :
    Ends (conclude spec pid reader outcome : Supervising σ _) v
      (fun _ v' => ∀ role, v'.isTracked role = true → v.isTracked role = true)
      (fun _ _ => False) := by
  match outcome with
  | .ready => exact fun _ h => h
  | .timedOut => exact fun _ h => h
  | .processExited status =>
    intro role h
    have hentry : (if role = spec.role then
        (v.tracked spec.role).map ({ · with exited := some status }) else v.tracked role).isSome =
          true := h
    by_cases hrole : role = spec.role
    · rw [if_pos hrole, Option.isSome_map] at hentry
      rw [hrole]
      exact hentry
    · rwa [if_neg hrole] at hentry

/-- A start halts for one of four reasons, and else tracks at most one more role. -/
theorem start_halts (sv : Supervision σ) (spec : ServiceSpec) (v : Supervisor σ) :
    Ends (start sv spec) v
      (fun _ v' => ∀ role, v'.isTracked role = true → role = spec.role ∨ v.isTracked role = true)
      (StartHalts v spec) := by
  change Ends (if v.isTracked spec.role then _ else _) v _ _
  split
  · next htracked => exact .tracked htracked
  refine (launch_runs sv spec v).of_total.bind fun r v₁ ⟨_, hv₁⟩ => ?_
  match r with
  | .error _ =>
    subst hv₁
    exact fun _ h => .inr h
  | .ok pid =>
    subst hv₁
    let s := launched sv spec pid v.session
    let entered := (v.withSession s).withEntry spec.role (some (entryOf spec pid))
    have hwait : Ends (liftM ((watchOf sv spec).run pid (.ofStreams true true) : Task σ _) :
        Supervising σ _) entered (fun _ v₂ => v₂.tracked = entered.tracked)
        (StartHalts v spec) := by
      have hhalts := (watchOf sv spec).run_haltsBy pid (.ofStreams true true) s
      have hreach := (watchOf sv spec).orderly_run pid (.ofStreams true true) s
      refine ends_lift ((hhalts.and hreach).mono (fun _ _ _ => rfl) ?_)
      rintro e s' ⟨⟨rfl, hcut⟩ | rfl | hover, hhalted⟩
      · exact .interrupted hcut
      · exact .exhausted
      · -- what has been noted of the launch is still there when the deadline is computed
        have hnoted : Event.launched spec.role pid ∈ s.journal := List.mem_cons_self
        exact .overflowed hover (hhalted.reaches.journal_suffix.subset hnoted)
    refine hwait.bind fun (reader, outcome) v₂ hv₂ => ?_
    refine (conclude_tracks spec pid reader outcome v₂).mono (fun _ v₃ h role htracked => ?_)
      fun _ _ he => he.elim
    have hrole := h role htracked
    rw [Supervisor.isTracked, hv₂] at hrole
    exact isTracked_withEntry hrole

end Supervising

/-! ### The way forward -/

/-- Why a run of a configuration ends without a report: it goes on for longer than the host has
patience for, or it crashes. -/
inductive Breakdown (c : Config) : Halt → Session σ → Prop
  | unfinished {s} : Breakdown c .exhausted s
  /-- a service has been launched whose deadline the clock cannot represent -/
  | overflowed {e s pid} (role : Role) (h : Watch.Overflows (c.service role).startupTimeout e s)
      (hlaunched : .launched (c.service role).role pid ∈ s.journal) : Breakdown c e s
  /-- both services are to be tracked under one role -/
  | sameRole {s} (role : Role) (h : c.server1.role = c.server2.role) :
      Breakdown c (.crashed s!"{role.name} is already tracked; refusing to start it twice") s

namespace Running

/-- A way forward is halted by a request for shutdown, or else the run breaks down. -/
def StopsShort (p : Plan σ) (e : Halt) (k : Controller σ) : Prop :=
  e = .interrupted ∨ Breakdown p.config e k.session

/-- A part of the way forward that starts no service and does not crash. -/
def Plain (p : Plan σ) (t : Running σ α) : Prop :=
  ∀ c, Ends t c (fun _ c' => c'.supervisor.tracked = c.supervisor.tracked) (StopsShort p)

namespace Plain

variable {p : Plan σ} {t : Running σ α} {f : α → Running σ β}

theorem pure (a : α) : Plain p (Pure.pure a) := fun _ => rfl

theorem bind (ht : Plain p t) (hf : ∀ a, Plain p (f a)) : Plain p (t >>= f) := by
  intro c
  refine (ht c).bind fun a c₁ h₁ => ?_
  have hrest := hf a c₁
  rwa [h₁] at hrest

theorem task {t : Task σ α} (ht : t.Lasting) : Plain p (Running.task t) := by
  intro c
  refine ends_task ((ht c.session).mono (fun _ _ _ => rfl) fun e s' he => ?_)
  rcases he with ⟨he, -⟩ | rfl
  · exact .inl he
  · exact .inr .unfinished

theorem transition (b : RunState) : Plain p (Running.transition b : Running σ Unit) := by
  intro c
  change Ends (if c.state ≠ b then _ else _) c _ _
  split
  · rfl
  · rfl

theorem print (text : String) : Plain p (Running.print text : Running σ Unit) :=
  task (Task.haltsBy_emit _)

end Plain

theorem plain_runClient (p : Plan σ) : Plain p (runClient p) := by
  have hwait (pid : Pid) : Plain p (awaitClient pid) := by
    refine (Plain.task (Client.lasting_wait pid)).bind fun r => ?_
    match r with
    | .error _ => exact .pure _
    | .ok () => exact (Plain.print _).bind fun _ => .pure _
  have hlaunch : Plain p (launchClient p) := by
    refine (Plain.task (Client.steady_spawn _ _).haltsBy).bind fun r => ?_
    match r with
    | .error _ => exact .pure _
    | .ok pid =>
      have hheld : Plain p (modify ({ · with client := some pid }) : Running σ Unit) := fun _ => rfl
      exact hheld.bind fun _ => hwait pid
  exact (Plain.transition _).bind fun _ => (Plain.print _).bind fun _ => hlaunch

variable {p : Plan σ}

/-- The start of a service tracks its role, and no other one in addition. -/
theorem startService_stops (role : Role) (c : Controller σ)
    (hfree : c.supervisor.isTracked (p.config.service role).role = true →
      p.config.server1.role = p.config.server2.role) :
    Ends (startService p role) c
      (fun _ c' => ∀ r, c'.supervisor.isTracked r = true →
        r = (p.config.service role).role ∨ c.supervisor.isTracked r = true)
      (StopsShort p) := by
  refine (Plain.print _ c).bind fun _ c₁ h₁ => ?_
  have hsame (r : Role) : c₁.supervisor.isTracked r = c.supervisor.isTracked r := by
    unfold Supervisor.isTracked
    rw [h₁]
  have hstart : Ends (liftM (Supervising.start p.supervision (p.config.service role)) :
      Running σ _) c₁
      (fun _ c' => ∀ r, c'.supervisor.isTracked r = true →
        r = (p.config.service role).role ∨ c.supervisor.isTracked r = true) (StopsShort p) := by
    refine ends_services ((Supervising.start_halts _ _ c₁.supervisor).mono
      (fun _ v h r hr => hsame r ▸ h r hr) fun e v h => ?_)
    cases h with
    | interrupted _ => exact .inl rfl
    | exhausted => exact .inr .unfinished
    | tracked htracked => exact .inr (.sameRole _ (hfree (hsame _ ▸ htracked)))
    | overflowed hover hlaunched => exact .inr (.overflowed role hover hlaunched)
  refine hstart.bind fun r c₂ h₂ => ?_
  match r with
  | .error _ => exact h₂
  | .ok _ =>
    refine (Plain.print _ c₂).bind fun _ c₃ h₃ r hr => h₂ r ?_
    rwa [Supervisor.isTracked, h₃] at hr

/-- Services whose roles are free, and differ among each other, are started without a crash but that
of a deadline. -/
theorem startServices_stops (roles : List Role) (c : Controller σ)
    (hfree : ∀ role ∈ roles, c.supervisor.isTracked (p.config.service role).role = true →
      p.config.server1.role = p.config.server2.role)
    (hdistinct : roles.Pairwise fun a b =>
      (p.config.service b).role = (p.config.service a).role →
        p.config.server1.role = p.config.server2.role) :
    Ends (startServices p roles) c (fun _ _ => True) (StopsShort p) := by
  -- what is tracked when a service is started has been started before it
  induction roles generalizing c with
  | nil => trivial
  | cons role roles ih =>
    obtain ⟨hfirst, hrest⟩ := List.pairwise_cons.mp hdistinct
    refine (Plain.transition _ c).bind fun _ c₁ h₁ => ?_
    have hsame (r : Role) : c₁.supervisor.isTracked r = c.supervisor.isTracked r := by
      unfold Supervisor.isTracked
      rw [h₁]
    have hrole := hfree role List.mem_cons_self
    rw [← hsame] at hrole
    refine (startService_stops role c₁ hrole).bind fun r c₂ h₂ => ?_
    match r with
    | .error _ => trivial
    | .ok () =>
      refine ih c₂ (fun next hnext htracked => ?_) hrest
      rcases h₂ _ htracked with heq | hbefore
      · exact hfirst next hnext heq
      · exact hfree next (List.mem_cons_of_mem role hnext) (hsame _ ▸ hbefore)

theorem drive_stops (hr : p.reclaimer.IsSteady) (c : Controller σ)
    (hnone : ∀ role, c.supervisor.isTracked role = false) :
    Ends (drive p) c (fun _ _ => True) (StopsShort p) := by
  have hsame {c₁ : Controller σ} (h : c₁.supervisor.tracked = c.supervisor.tracked) (role : Role) :
      c₁.supervisor.isTracked role = false := by
    have hrole := hnone role
    rwa [Supervisor.isTracked, ← h] at hrole
  have hcheck : Plain p (do
      Running.transition .preflightCleanup
      task (Preconditions.check p.config) : Running σ _) :=
    (Plain.transition _).bind fun _ => .task (Preconditions.smooth_check _).haltsBy
  have hports (version : String) : Plain p (do
      task (Task.emit (.runnerFound version))
      task (preflight p) : Running σ _) :=
    (Plain.task (Task.haltsBy_emit _)).bind fun _ => .task (steady_preflight hr).haltsBy
  unfold drive
  rw [← bind_assoc]
  refine (hcheck c).bind fun checked c₁ h₁ => ?_
  cases checked with
  | error _ => trivial
  | ok version =>
    dsimp only
    rw [← bind_assoc]
    refine (hports version c₁).bind fun freed c₂ h₂ => ?_
    cases freed with
    | error _ => trivial
    | ok _ =>
      -- nothing has been started before, so no role is taken
      have hfree := hsame (h₂.trans h₁)
      have hdistinct : Role.startOrder.Pairwise fun a b =>
          (p.config.service b).role = (p.config.service a).role →
            p.config.server1.role = p.config.server2.role := by
        simp [Role.startOrder, Config.service]
      refine (startServices_stops Role.startOrder c₂ (fun role _ h => ?_) hdistinct).bind
        fun started c₃ _ => ?_
      · exact absurd h (by simp [hfree])
      · cases started with
        | error _ => trivial
        | ok _ => exact (plain_runClient p c₃).mono (fun _ _ _ => trivial) fun _ _ h => h

theorem driveUntilShutdown_breaks (hr : p.reclaimer.IsSteady) (c : Controller σ)
    (hnone : ∀ role, c.supervisor.isTracked role = false) :
    Ends (driveUntilShutdown p) c (fun _ _ => True)
      (fun e k => Breakdown p.config e k.session) := by
  refine (isCancelled_ends c).bind fun b c₁ ⟨s, hc₁, _⟩ => ?_
  subst hc₁
  split
  · trivial
  have hcaught : Ends (tryCatch (drive p) afterHalt) ((c.withSession s).withInterrupts true)
      (fun _ _ => True) (fun e k => Breakdown p.config e k.session) := by
    -- a request for shutdown is caught, and the other halts are not
    have hdrive := drive_stops hr ((c.withSession s).withInterrupts true) hnone
    refine hdrive.tryCatch fun e k he => ?_
    cases e with
    | interrupted => trivial
    | crashed text => exact he.resolve_left nofun
    | exhausted => exact he.resolve_left nofun
  exact hcaught.bind fun _ _ _ => trivial

/-! ### After the way forward -/

/-- A step of the run that ends with a value wherever it cannot be interrupted. -/
def Calm (t : Running σ α) : Prop :=
  ∀ c : Controller σ, c.session.interruptible = false →
    Ends t c (fun _ c' => c'.session.interruptible = false) (fun _ _ => False)

namespace Calm

variable {t : Running σ α} {f : α → Running σ β}

omit [Host σ] in
theorem pure (a : α) : (Pure.pure a : Running σ α).Calm := fun _ hc => hc

omit [Host σ] in
theorem bind (ht : t.Calm) (hf : ∀ a, (f a).Calm) : (t >>= f).Calm := by
  intro c hc
  exact (ht c hc).bind fun a c' hc' => hf a c' hc'

omit [Host σ] in
theorem ite {b : Prop} [Decidable b] {t u : Running σ α} (ht : t.Calm) (hu : u.Calm) :
    (if b then t else u).Calm := by
  split
  · exact ht
  · exact hu

omit [Host σ] in
theorem forIn {γ : Type} {g : γ → β → Running σ (ForInStep β)} (hg : ∀ x b, (g x b).Calm)
    (l : List γ) (b : β) : (forIn l b g).Calm :=
  have hclosed : IsClosed fun α (t : Running σ α) => t.Calm := ⟨pure, bind⟩
  hclosed.forIn hg l b

omit [Host σ] in
theorem get : (MonadState.get : Running σ (Controller σ)).Calm := fun _ hc => hc

omit [Host σ] in
theorem task {t : Task σ α} (ht : t.Calm) : (Running.task t).Calm := by
  intro c hc
  exact ends_task (ht c.session hc)

omit [Host σ] in
theorem services {t : Supervising σ α} (ht : t.Calm) : (liftM t : Running σ α).Calm := by
  intro c hc
  exact ends_services (ht c.supervisor hc)

theorem print (text : String) : (Running.print text : Running σ Unit).Calm :=
  task (Task.smooth_print text).calm

theorem transition (b : RunState) : (Running.transition b : Running σ Unit).Calm := by
  intro c hc
  change Ends (if c.state ≠ b then _ else _) c _ _
  split
  · exact hc
  · exact hc

end Calm

theorem calm_stopClient (timeouts : StopTimeouts) (pid : Pid) :
    (stopClient timeouts pid : Task σ Unit).Calm := by
  have hnote (e : Event) : (Task.emit e : Task σ Unit).Calm :=
    Task.Steady.calm (Task.haltsBy_emit e)
  refine (Task.steady_shutdown pid timeouts).calm.bind fun r => ?_
  match r with
  | .ok (some _) => exact hnote _
  | .ok none => exact (hnote _).bind fun _ => (Task.smooth_release pid).calm
  | .error _ => exact (hnote _).bind fun _ => (Task.smooth_release pid).calm

theorem calm_stopServices {sv : Supervision σ} (hr : sv.reclaimer.IsCalm) :
    (stopServices sv).Calm := by
  refine (Calm.services (Supervising.calm_teardownAll hr)).bind fun summary => ?_
  have hsay := Calm.forIn (σ := σ) (fun (role : Role) (_ : PUnit) => (Calm.print
    s!"⚠️  {role.name} did not exit; left to the port sweep").bind fun _ =>
      .pure (ForInStep.yield PUnit.unit)) summary.lingering PUnit.unit
  refine hsay.bind fun _ => .ite ?_ (.pure _)
  exact .task (Task.Steady.calm (Task.haltsBy_emit _))

theorem calm_teardown {p : Plan σ} (hr : p.reclaimer.IsCalm) : (teardown p).Calm := by
  have hend : (endClient p.config.teardown : Running σ Unit).Calm := by
    refine Calm.get.bind fun c => ?_
    match c.client with
    | none => exact .pure _
    | some pid =>
      have hgone : (modify ({ · with client := none }) : Running σ Unit).Calm := fun _ hc => hc
      exact hgone.bind fun _ => .task (calm_stopClient _ pid)
  have hentered : (modify ({ · with tornDown := true }) : Running σ Unit).Calm := fun _ hc => hc
  refine Calm.get.bind fun c => .ite ?_ ?_
  · exact (Calm.task (Task.Steady.calm (Task.haltsBy_emit _))).bind fun _ => .pure _
  · exact hentered.bind fun _ => (Calm.transition _).bind fun _ => (Calm.print _).bind fun _ =>
      hend.bind fun _ => calm_stopServices hr

theorem calm_report (startedAt : Timestamp) (outcome : Except HarnessError Unit) :
    (report startedAt outcome : Running σ RunReport).Calm := by
  have hcancelled : (isCancelled : Running σ Bool).Calm := by
    intro c hc
    refine (isCancelled_ends c).mono (fun b c' ⟨s, hc', hs, _⟩ => ?_) fun _ _ he => he
    rw [hc']
    exact hs.interruptible_eq.trans hc
  have hfinal : (finalOutcome outcome : Running σ _).Calm := by
    match outcome with
    | .error _ => exact .pure _
    | .ok () =>
      exact hcancelled.bind fun _ => .ite ((Calm.print _).bind fun _ => .pure _) (.pure _)
  have hconclude (final : Except HarnessError Unit) : (conclude final : Running σ Unit).Calm := by
    match final with
    | .ok () => exact (Calm.transition _).bind fun _ => .print _
    | .error _ => exact (Calm.transition _).bind fun _ => .print _
  exact hfinal.bind fun final => (hconclude final).bind fun _ => Calm.get.bind fun _ =>
    (Calm.task (Task.smooth_ask _).calm).bind fun _ =>
      (Calm.services (Supervising.calm_abandon _)).bind fun _ => .pure _

/-- Whatever the services, the client and the other processes do, a run of an accepted configuration
ends with a report, or it does not come to its end, or it breaks down: where the clock cannot
represent the deadline of a service that has just been launched, or where both services are to be
tracked under one role. -/
theorem run_reports_or_breaks_down [Pattern.Wording] {c : Config} {r : Reclaimer σ} {p : Plan σ}
    (hp : Plan.ofConfig c r = .ok p) (hr : r.IsSteady) (host : σ) (pids : Folder) :
    (∃ report k, run p (Controller.start (Session.start host pids)) = .ok report k) ∨
      ∃ e k, run p (Controller.start (Session.start host pids)) = .error e k ∧
        Breakdown c e k.session := by
  obtain ⟨rfl, hreclaimer, -⟩ := ofConfig_ok hp
  have hr' : p.reclaimer.IsSteady := by rwa [Plan.reclaimer, hreclaimer]
  let c := Controller.start (Session.start host pids)
  have hdriven := (driveUntilShutdown_breaks hr' c fun _ => rfl).and
    (driveUntilShutdown_calm p host pids)
  have hclean (outcome : Except HarnessError Unit) : (cleanUp p outcome).Calm :=
    Calm.get.bind fun _ => .ite (calm_teardown hr'.isCalm) (.pure _)
  have hsay (outcome : Except HarnessError Unit) : (sayFailure outcome : Running σ Unit).Calm := by
    cases outcome with
    | ok _ => exact .pure _
    | error _ => exact .print _
  have hrun : Ends (run p) c (fun _ _ => True) (fun e k => Breakdown p.config e k.session) := by
    have hask : Ends (task (Task.ask Host.wallClock) : Running σ Timestamp) c (fun _ c' => c' = c)
        (fun _ _ => False) := ends_task rfl
    refine hask.of_total.bind fun startedAt c' hc' => ?_
    subst hc'
    refine (hdriven.mono (fun _ _ h => h.2) fun _ _ h => h.1).bind fun outcome m hm => ?_
    -- from here on nothing can be interrupted, and so nothing is halted
    have hrest : (do
        sayFailure outcome
        cleanUp p outcome
        report startedAt outcome : Running σ RunReport).Calm :=
      (hsay outcome).bind fun _ => (hclean outcome).bind fun _ => calm_report startedAt outcome
    exact (hrest m hm).mono (fun _ _ _ => trivial) fun _ _ he => he.elim
  cases hx : run p c with
  | ok report k => exact .inl ⟨report, k, rfl⟩
  | error e k => exact .inr ⟨e, k, rfl, hrun.of_error hx⟩

theorem run_reports_or_breaks_down_on_bench :
    ∃ report k, run Simulation.Bench.plan Simulation.Bench.start = .ok report k := by
  have h := run_reports_or_breaks_down Simulation.Bench.plan_eq (Reclaimer.standard_isSteady _)
    Simulation.Bench.blank .absent
  rcases h with hreport | ⟨e, k, hrun, -⟩
  · exact hreport
  · exact (Simulation.Bench.run_ends.of_error hrun).elim

end Running

namespace Simulation.Bench

/-- The options of a run that waits for the one service as long as the command line allows. -/
def longOptions : RunOptions :=
  ⟨false, false, none, none, none, none, some 18446744073709551615, none⟩

theorem longOptions_parsed :
    RunOptions.parse [] ["--server2-timeout=18446744073709551615"] = .ok longOptions := by
  decide +kernel

def longPlan : Plan Bench := { plan with config := longOptions.override config }

theorem longPlan_eq :
    Plan.ofConfig (longOptions.override config) (.standard config.reclaim) = .ok longPlan := rfl

/-- The service has been launched when the run crashes, and no teardown has begun. -/
theorem longRun_ends : Ends (Running.run longPlan) start (fun _ _ => False)
    (fun e k => e = .crashed "overflow when adding duration to instant" ∧
      .launched .server2 101 ∈ k.supervisor.session.journal ∧
      .teardownBegun ∉ k.supervisor.session.journal) := by
  decide +kernel

end Simulation.Bench

namespace Running

/-- A timeout that the command line and the checks on a configuration allow crashes a run. -/
theorem longest_timeout_crashes :
    ¬ ∀ (args : List String) (o : RunOptions) (p : Plan Simulation.Bench),
      RunOptions.parse [] args = .ok o →
      Plan.ofConfig (o.override Simulation.Bench.config)
        (.standard Simulation.Bench.config.reclaim) = .ok p →
      ∃ report k, run p Simulation.Bench.start = .ok report k := by
  intro hall
  obtain ⟨report, k, hrun⟩ := hall _ _ _ Simulation.Bench.longOptions_parsed
    Simulation.Bench.longPlan_eq
  exact Simulation.Bench.longRun_ends.of_ok hrun

end Running

end LatencyHarness
