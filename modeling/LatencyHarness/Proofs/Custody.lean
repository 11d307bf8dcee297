import LatencyHarness.Proofs.Stopping
import LatencyHarness.Proofs.Ending

/-! No child is lost sight of.

Whatever ends the way forward of a run, each child that was launched is tracked under its role or
held as the client when the teardown begins, and the teardown comes to each of them. So at the
report each has either been found to have ended or has outlived all that was sent to it. -/
namespace LatencyHarness

variable {σ : Type} [Host σ]

open Course

namespace Session

/-- What becomes of a child between two sessions: its end is known and an event tells of it, or the
child has outlived all that was sent to it. -/
def Settles (s : Session σ) (timeouts : StopTimeouts) (pid : Pid) (told : WaitStatus → Event)
    (s' : Session σ) : Prop :=
  (∃ status, Host.exitStatus? pid s'.host = .ok (some status) ∧ told status ∈ s'.journal) ∨
    s.Outlives timeouts pid s'

variable {s s' r r' : Session σ} {timeouts : StopTimeouts} {pid : Pid}
  {told : WaitStatus → Event}

theorem Settles.widen (hσ : Host.IsReliable σ) (h : s.Settles timeouts pid told s')
    (hr : r.Later s) (hr' : s'.Later r') : r.Settles timeouts pid told r' := by
  rcases h with ⟨status, hstatus, htold⟩ | houtlived
  · have hknown := hr'.exitStatus? hσ hstatus
    exact .inl ⟨status, hknown, (Reaches.journal_suffix hr').subset htold⟩
  · exact .inr (houtlived.widen hr hr')

end Session

namespace Supervising

/-- Between two sessions a tracked service has had its turn to be stopped, and an end that was
learnt of has been noted. -/
structure Stops (sv : Supervision σ) (role : Role) (t : Tracked) (s s' : Session σ) : Prop where
  turn : ∃ a status b, s.Reaches (Action.isBackground ·) a ∧
    endStatus sv role t a = .ok status b ∧ b.Reaches (Action.isBackground ·) s' ∧
    ∀ known, status = some known → .stopped role known ∈ s'.journal

variable {sv : Supervision σ} {role : Role} {t : Tracked} {v : Supervisor σ} {s s' : Session σ}

theorem Stops.widen (h : Stops sv role t s s') {r r' : Session σ}
    (hr : r.Reaches (Action.isBackground ·) s) (hr' : s'.Reaches (Action.isBackground ·) r') :
    Stops sv role t r r' := by
  obtain ⟨a, status, b, ha, hend, hb, hnoted⟩ := h.turn
  refine ⟨a, status, b, hr.trans ha, hend, hb.trans hr', fun known hknown => ?_⟩
  exact hr'.journal_suffix.subset (hnoted known hknown)

theorem forget_ends (role : Role) (pid : Pid) (v : Supervisor σ) :
    Ends (forget role pid : Supervising σ Unit) v
      (fun _ v' => v.session.Reaches (Action.isBackground ·) v'.session ∧
        ∀ other, other ≠ role → v'.tracked other = v.tracked other) (fun _ _ => False) := by
  let kept := v.session.forwarders.filter (·.pid ≠ pid)
  have hstopped : v.session.Reaches (Action.isBackground ·)
      ((Action.forwarders kept).apply v.session) := .step _ rfl
  refine ⟨?_, fun other hne => if_neg hne⟩
  exact hstopped.tail (a := .folder ((Pidfile.delete role).on v.session.pids).2) rfl

theorem stop_ends (sv : Supervision σ) (role : Role) (t : Tracked) (v : Supervisor σ) :
    Ends (stop sv role t) v
      (fun _ v' => Stops sv role t v.session v'.session ∧
        ∀ other, other ≠ role → v'.tracked other = v.tracked other) (fun _ _ => True) := by
  have hend : Ends (liftM (endStatus sv role t) : Supervising σ _) v
      (fun status v₁ => ∃ b, endStatus sv role t v.session = .ok status b ∧ v₁ = v.withSession b)
      (fun _ _ => True) :=
    ends_lift ((Ends.ok_self (endStatus sv role t) v.session).mono (fun _ b h => ⟨b, h, rfl⟩)
      fun _ _ h => h)
  refine hend.bind fun status v₁ ⟨b, hb, hv₁⟩ => ?_
  subst hv₁
  cases status with
  | none =>
    have hnoted : b.Reaches (Action.isBackground ·) ((Action.note (.survived role)).apply b) :=
      .step b rfl
    exact ⟨⟨v.session, none, b, .refl _, hb, hnoted, nofun⟩, fun _ _ => rfl⟩
  | some status =>
    let noted := (Action.note (.stopped role status)).apply b
    have hnoted : b.Reaches (Action.isBackground ·) noted := .step b rfl
    have hforget : Ends (forget role t.pid : Supervising σ Unit) (v.withSession noted)
        (fun _ v' => noted.Reaches (Action.isBackground ·) v'.session ∧
          ∀ other, other ≠ role → v'.tracked other = v.tracked other) (fun _ _ => True) :=
      (forget_ends role t.pid (v.withSession noted)).of_total
    have hnote : Ends (liftM (Task.emit (.stopped role status)) : Supervising σ Unit)
        (v.withSession b) (fun _ v₁ => v₁ = v.withSession noted) (fun _ _ => True) :=
      ends_lift rfl
    refine hnote.bind fun _ v₁ hv₁ => ?_
    subst hv₁
    refine hforget.bind fun _ v' ⟨hv', hothers⟩ => ?_
    refine ⟨⟨v.session, some status, b, .refl _, hb, hnoted.trans hv', ?_⟩, hothers⟩
    intro known hknown
    rw [← Option.some.inj hknown]
    exact hv'.journal_suffix.subset List.mem_cons_self

theorem stopAll_stops (sv : Supervision σ) (roles : List Role) (v : Supervisor σ) :
    Ends (stopAll sv roles) v
      (fun _ v' => ∀ role ∈ roles, ∀ t, v.tracked role = some t →
        Stops sv role t v.session v'.session) (fun _ _ => True) := by
  -- stopping one service leaves the entries of the others, so each comes to its turn as it is
  induction roles generalizing v with
  | nil => exact nofun
  | cons role roles ih =>
    refine Ends.get_bind ?_
    cases htracked : v.tracked role with
    | none =>
      refine (ih v).mono (fun _ v' h role' hmem t ht => ?_) fun _ _ h => h
      rcases List.mem_cons.mp hmem with rfl | hrest
      · exact absurd (htracked.symm.trans ht) nofun
      · exact h role' hrest t ht
    | some t =>
      have hstop := (stop_ends sv role t v).and (keeps_stop sv role t v)
      refine hstop.forget.bind fun status v₁ ⟨⟨hturn, hothers⟩, hfollows⟩ => ?_
      have hrest := (ih v₁).and (keeps_stopAll sv roles v₁)
      refine hrest.forget.bind fun rest v' ⟨hturns, hfollows'⟩ => ?_
      have hall : ∀ role' ∈ role :: roles, ∀ t', v.tracked role' = some t' →
          Stops sv role' t' v.session v'.session := by
        intro role' hmem t' ht'
        by_cases hrole : role' = role
        · subst hrole
          obtain rfl : t = t' := Option.some.inj (htracked.symm.trans ht')
          exact hturn.widen (.refl _) hfollows'.reaches
        · have hmem' : role' ∈ roles := (List.mem_cons.mp hmem).resolve_left hrole
          have htracked' : v₁.tracked role' = some t' := (hothers role' hrole).trans ht'
          exact (hturns role' hmem' t' htracked').widen hfollows.reaches (.refl _)
      cases status with
      | none => exact hall
      | some status => exact hall

/-- After an attempt to end it, a tracked service is known to have ended or has outlived it. -/
theorem endStatus_ends (hσ : Host.IsReliable σ) (sv : Supervision σ) (role : Role) {t : Tracked}
    (hpid : t.pid.toNat ≤ maxOsPid) (hs : s.interruptible = false)
    (hexit : ∀ status, t.exited = some status →
      Host.exitStatus? t.pid s.host = .ok (some status)) :
    Ends (endStatus sv role t : Task σ _) s
      (fun status s' => Host.exitStatus? t.pid s'.host = .ok status ∧
        (status = none → s.Outlives sv.teardown t.pid s')) (fun _ _ => True) := by
  unfold endStatus
  cases hknown : t.exited with
  | some known =>
    -- the end was recorded before the teardown
    have hnoted : s.Later ((Action.note (.foundEnded t.pid)).apply s) := .step s rfl
    exact Task.ends_emit_bind ⟨hnoted.exitStatus? hσ (hexit known hknown), nofun⟩
  | none =>
    refine (Task.shutdown_ends hσ hpid sv.teardown hs).bind
      fun r s' ⟨status, hr, hstatus, houtlived⟩ => ?_
    subst hr
    exact ⟨hstatus, houtlived⟩

/-- After its turn the end of a service is known and has been noted, or the service has outlived
the stop. -/
theorem Stops.settles (hσ : Host.IsReliable σ) (h : Stops sv role t s s')
    (hpid : t.pid.toNat ≤ maxOsPid) (hs : s.interruptible = false)
    (hexit : ∀ status, t.exited = some status → s.HasLearnt t.pid status) :
    s.Settles sv.teardown t.pid (.stopped role) s' := by
  obtain ⟨a, status, b, ha, hend, hb, hnoted⟩ := h.turn
  have hcalm : a.interruptible = false := ha.interruptible_eq.trans hs
  have hexit' (known : WaitStatus) (hknown : t.exited = some known) :
      Host.exitStatus? t.pid a.host = .ok (some known) :=
    ((hexit known hknown).later ha.later).exitStatus? hσ
  obtain ⟨hstatus, houtlived⟩ := (endStatus_ends hσ sv role hpid hcalm hexit').of_ok hend
  cases status with
  | some known =>
    -- what was learnt in the turn is still known after it
    exact .inl ⟨known, hb.later.exitStatus? hσ hstatus, hnoted known rfl⟩
  | none => exact .inr ((houtlived rfl).widen ha.later hb.later)

end Supervising

namespace Running

variable {p : Plan σ} {outcome : Except HarnessError Unit} {m k : Controller σ} {ms : List Event}
  {report : RunReport} {s s' : Session σ} {pid : Pid}

/-- After its turn the end of the client is known and has been noted, or it has outlived the
stop. -/
theorem stopClient_ends (hσ : Host.IsReliable σ) (timeouts : StopTimeouts)
    (hpid : pid.toNat ≤ maxOsPid) (hs : s.interruptible = false) :
    Ends (stopClient timeouts pid : Task σ Unit) s
      (fun _ s' => s.Settles timeouts pid .clientStopped s') (fun _ _ => True) := by
  refine (Task.shutdown_ends hσ hpid timeouts hs).bind
    fun r a ⟨status, hr, hstatus, houtlived⟩ => ?_
  subst hr
  cases status with
  | some status =>
    let noted := (Action.note (.clientStopped status)).apply a
    have hnoted : a.Later noted := .step a rfl
    exact .inl ⟨status, hnoted.exitStatus? hσ hstatus, List.mem_cons_self⟩
  | none =>
    have hrelease : (do
        Task.emit (.clientLingers pid)
        Task.release pid : Task σ Unit).Smooth :=
      (Task.smooth_emit rfl).bind fun _ => Task.smooth_release pid
    exact (hrelease.ends_from (.refl a)).weaken
      fun _ _ h => .inr ((houtlived rfl).widen (.refl s) h.later)

/-! ### What is held when the teardown begins -/

/-- Whatever was launched is held where the way forward has ended: a service under its role, the
client in its place. -/
theorem Driven.holds (h : Driven p outcome m ms) :
    (∀ role pid, .launched role pid ∈ m.session.journal →
        ∃ t, m.supervisor.tracked role = some t ∧ t.pid = pid) ∧
      ∀ pid, .clientLaunched pid ∈ m.session.journal → m.client = some pid := by
  have hms {e : Event} (he : e.isMilestone = true) (hmem : e ∈ m.session.journal) : e ∈ ms := by
    rw [← h.onCourse.milestones]
    exact (Journal.mem_milestones he).mpr hmem
  refine ⟨fun role pid hmem => h.onCourse.services.tracked role pid (hms rfl hmem),
    fun pid hmem => ?_⟩
  obtain ⟨version, pid₂, pid₁, client, hp⟩ := h.onWay
  -- there is one client on the way, so the last one is this one
  have hclients : clients ms <+: [client] := hp.filterMap Event.client?
  have hclient : pid ∈ clients ms := List.mem_filterMap.mpr ⟨_, hms rfl hmem, rfl⟩
  have hone : pid = client := List.mem_singleton.mp (hclients.subset hclient)
  rw [← h.onCourse.client, hone]
  rcases List.prefix_cons_iff.mp hclients with hnil | ⟨rest, hrest, hnone⟩
  · rw [hnil] at hclient
    exact absurd hclient List.not_mem_nil
  · rw [hrest, List.prefix_nil.mp hnone]
    rfl

/-- The children that a run has launched by its report were launched on its way forward. -/
theorem Driven.mem_of_child (h : Driven p outcome m ms) (hk : Finishes p outcome m report k)
    {e : Event} (hchild : e.child? = some pid) (hmem : e ∈ k.session.journal) :
    e ∈ ms ∧ e ∈ m.session.journal := by
  have hlaunch : e.isMilestone = true ∧ e.arrival? = none ∧ e ≠ .teardownBegun := by
    match e, hchild with
    | .launched _ _, _ | .clientLaunched _, _ => exact ⟨rfl, rfl, nofun⟩
  obtain ⟨hmilestone, hchange, hne⟩ := hlaunch
  have hms : e ∈ ms := (h.mem_iff hk hmilestone hchange hne).mp hmem
  refine ⟨hms, (Journal.mem_milestones hmilestone).mp ?_⟩
  rwa [h.onCourse.milestones]

theorem Driven.isTornDown_of_child (h : Driven p outcome m ms) {e : Event} (hmem : e ∈ ms)
    (hchild : e.child? = some pid) : IsTornDown outcome m := by
  obtain ⟨version, pid₂, pid₁, client, hp⟩ := h.onWay
  let before : List Event :=
    [.runnerFound version, .portsFree, .stateChanged .preflightCleanup .startingDependencyA]
  have hbefore : before <+: way p.config version pid₂ pid₁ client := ⟨_, rfl⟩
  -- the first launch comes after the first change of state
  have hpast : before <+: ms := by
    rcases List.prefix_or_prefix_of_prefix hbefore hp with hb | hb
    · exact hb
    · have hnone : ∀ e' ∈ before, e'.child? = none := by simp [before, Event.child?]
      exact absurd hchild (by simp [hnone e (hb.subset hmem)])
  refine .inl (h.state_ne_iff.mpr ?_)
  exact mem_visits_of_mem (a := .preflightCleanup) (hpast.subset (by simp [before]))

/-! ### What has become of it at the report -/

variable {c c' : Controller σ} {v : Supervisor σ} {role : Role} {t : Tracked}

/-- In a teardown every tracked service has its turn, after the client. -/
theorem TearsDown.stops (h : TearsDown p c c' s v) (ht : c.supervisor.tracked role = some t) :
    Supervising.Stops p.supervision role t ((Action.note .teardownBegun).apply s) c'.session := by
  obtain ⟨r, hstop⟩ := h.services
  have hall := (Supervising.stopAll_stops p.supervision Role.startOrder _).of_ok hstop
  exact (hall role (Role.mem_startOrder role) t ht).widen (.refl _) h.rest.reaches

theorem TearsDown.later (h : TearsDown p c c' s v) :
    c.session.Later (enterTeardown c) ∧ s.Later ((Action.note .teardownBegun).apply s) ∧
      ((Action.note .teardownBegun).apply s).Later c'.session := by
  obtain ⟨r, hstop⟩ := h.services
  have hservices := (Supervising.keeps_stopAll _ _ _).of_ok hstop
  have hchanged : c.session.Later ((Action.note (.stateChanged c.state .tearingDown)).apply
      c.session) := .step _ rfl
  refine ⟨hchanged.trans (.step _ (a := .note (.line _)) rfl), .step s rfl, ?_⟩
  exact (hservices.reaches.trans h.rest.reaches).later

/-- A teardown settles everything that is held when it begins. -/
theorem TearsDown.settles (hσ : Host.IsReliable σ) (h : TearsDown p c c' s v)
    (hcalm : c.session.interruptible = false)
    (hexits : ∀ role t status, c.supervisor.tracked role = some t → t.exited = some status →
      c.session.HasLearnt t.pid status) :
    (∀ role t, c.supervisor.tracked role = some t → t.pid.toNat ≤ maxOsPid →
        c.session.Settles p.supervision.teardown t.pid (.stopped role) c'.session) ∧
      ∀ pid, c.client = some pid → pid.toNat ≤ maxOsPid →
        c.session.Settles p.config.teardown pid .clientStopped c'.session := by
  obtain ⟨hentered, hbegun, hended⟩ := h.later
  have hclient : (enterTeardown c).Later s := h.client_reaches.later
  have hcalm' : s.interruptible = false := h.client_reaches.interruptible_eq.trans hcalm
  constructor
  · -- a service has its turn after the client
    intro role t ht hle
    have hbefore := (hentered.trans hclient).trans hbegun
    have hsettled := (h.stops ht).settles hσ hle hcalm'
      fun status hexit => (hexits role t status ht hexit).later hbefore
    exact hsettled.widen hσ hbefore (.refl _)
  · intro pid hpid hle
    have hcalm₀ : (enterTeardown c).interruptible = false := hcalm
    have hsettled := (stopClient_ends hσ p.config.teardown hle hcalm₀).of_ok (h.client pid hpid)
    exact hsettled.widen hσ hentered (hbegun.trans hended)

/-- What is held when the way forward has ended is settled at the report, if there is a teardown. -/
theorem Driven.settles (hσ : Host.IsReliable σ) (h : Driven p outcome m ms)
    (hk : Finishes p outcome m report k) (hcalm : m.session.interruptible = false)
    (htorn : IsTornDown outcome m) :
    (∀ role t, m.supervisor.tracked role = some t → t.pid.toNat ≤ maxOsPid →
        m.session.Settles p.supervision.teardown t.pid (.stopped role) k.session) ∧
      ∀ pid, m.client = some pid → pid.toNat ≤ maxOsPid →
        m.session.Settles p.config.teardown pid .clientStopped k.session := by
  obtain ⟨-, -, m', t, s, v, hm', hreach, htears, hlater⟩ := hk.tornDown htorn
  have hcalm' : m'.session.interruptible = false := hreach.interruptible_eq.trans hcalm
  -- between the end of the way forward and the teardown only the session goes on
  have htracked : m'.supervisor.tracked = m.supervisor.tracked := by rw [hm']; rfl
  have hclient : m'.client = m.client := by rw [hm']; rfl
  obtain ⟨hservices, hclients⟩ := htears.settles hσ hcalm' fun role t status ht hexit =>
    (h.onCourse.services.exits role t status (htracked ▸ ht) hexit).later hreach.later
  rw [htracked] at hservices
  rw [hclient] at hclients
  exact ⟨fun role t ht hle => (hservices role t ht hle).widen hσ hreach.later hlater,
    fun pid hpid hle => (hclients pid hpid hle).widen hσ hreach.later hlater⟩

/-- No child of a run is forgotten.

Wherever the way forward has ended, every service that was launched is tracked under its role and
the client is held. If the host answers for its children, each of them is settled by the time of
the report: its end is known to the run, or the child was sent the termination signal and then the
kill signal and has outlived both waits. -/
theorem no_child_is_forgotten [Pattern.Wording] {c : Config} {r : Reclaimer σ}
    (hp : Plan.ofConfig c r = .ok p) (hr : r.IsOrderly) (host : σ) (pids : Folder) :
    let start := Controller.start (Session.start host pids)
    (∀ outcome m, driveUntilShutdown p start = .ok outcome m →
        (∀ role pid, .launched role pid ∈ m.session.journal →
            ∃ t, m.supervisor.tracked role = some t ∧ t.pid = pid) ∧
          ∀ pid, .clientLaunched pid ∈ m.session.journal → m.client = some pid) ∧
      (Host.IsReliable σ → ∀ report k, run p start = .ok report k →
        ∃ outcome m, driveUntilShutdown p start = .ok outcome m ∧
          (∀ role pid, .launched role pid ∈ k.session.journal →
            m.session.Settles c.teardown pid (.stopped role) k.session) ∧
          ∀ pid, .clientLaunched pid ∈ k.session.journal →
            m.session.Settles c.teardown pid .clientStopped k.session) := by
  intro start
  obtain ⟨hconfig, hreclaimer, hteardown⟩ := ofConfig_ok hp
  have hr' : p.reclaimer.IsOrderly := by rwa [Plan.reclaimer, hreclaimer]
  constructor
  · intro outcome m hm
    obtain ⟨ms, h⟩ := (driveUntilShutdown_ends p hr' host pids).of_ok hm
    exact h.holds
  · -- nothing is launched after the way forward, so the report tells of what was held then
    intro hσ report k hrun
    obtain ⟨outcome, m, ms, hm, h, hk⟩ := run_ok hp hr hrun
    obtain ⟨htracked, hclient⟩ := h.holds
    have hcalm : m.session.interruptible = false :=
      (driveUntilShutdown_calm p host pids).of_ok hm
    refine ⟨outcome, m, hm, fun role pid hin => ?_, fun pid hin => ?_⟩
    · obtain ⟨hms, hin'⟩ := h.mem_of_child hk (e := .launched role pid) rfl hin
      obtain ⟨t, ht, rfl⟩ := htracked role pid hin'
      have hspawned := h.onCourse.services.spawned _ hms _ rfl
      have hsettled := (h.settles hσ hk hcalm (h.isTornDown_of_child hms rfl)).1 role t ht
        hspawned.le
      rwa [hteardown] at hsettled
    · obtain ⟨hms, hin'⟩ := h.mem_of_child hk (e := .clientLaunched pid) rfl hin
      have hspawned := h.onCourse.services.spawned _ hms _ rfl
      have hsettled := (h.settles hσ hk hcalm (h.isTornDown_of_child hms rfl)).2 pid
        (hclient pid hin') hspawned.le
      rwa [hconfig] at hsettled

theorem no_child_is_forgotten_on_bench :
    ∃ outcome m report k, driveUntilShutdown Simulation.Bench.plan Simulation.Bench.start =
        .ok outcome m ∧ run Simulation.Bench.plan Simulation.Bench.start = .ok report k ∧
      m.session.Settles Simulation.Bench.config.teardown 101 (.stopped .server2) k.session ∧
      m.session.Settles Simulation.Bench.config.teardown 105 .clientStopped k.session := by
  obtain ⟨report, k, hrun, -, -, hservice, -, hclient, -⟩ := Simulation.Bench.run_ends.exists_ok
  have h := no_child_is_forgotten Simulation.Bench.plan_eq Simulation.Bench.plan_isOrderly
    Simulation.Bench.blank .absent
  obtain ⟨outcome, m, hm, hservices, hclients⟩ := h.2 Simulation.Bench.isReliable report k hrun
  exact ⟨outcome, m, report, k, hm, hrun, hservices _ _ hservice, hclients _ hclient⟩

end Running

end LatencyHarness
