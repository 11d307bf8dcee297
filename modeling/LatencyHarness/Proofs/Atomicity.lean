import LatencyHarness.Proofs.Summary

/-! What a start leaves behind in each of its ends.

A start is refused, or its program cannot be spawned, or there is a process. In the first two cases
nothing has come about that would have to be undone. In the third one the process has its entry from
the moment of its launch, so it is tracked whatever ends the wait; the answer repeats the outcome of
the wait, and an end that the wait has seen is kept for the teardown, which then needs no signal. -/
namespace LatencyHarness

variable {σ : Type} [Host σ]

/-- The status of a process that has ended before it was ready. -/
def ReadinessOutcome.exit? : ReadinessOutcome → Option WaitStatus
  | processExited status => some status
  | _ => none

namespace Supervising

/-- A process has got the entry of its role, and nothing else has changed in the books. -/
structure Enters (spec : ServiceSpec) (v : Supervisor σ) (pid : Pid) (exited : Option WaitStatus)
    (v' : Supervisor σ) : Prop where
  entry : v'.tracked spec.role = some { entryOf spec pid with exited := exited }
  others : ∀ role, role ≠ spec.role → v'.tracked role = v.tracked role
  passes : v'.passes = v.passes

/-- What may come between a start and a teardown: other starts, which may be broken off, and
anything that goes on in the session. -/
inductive Meanwhile (sv : Supervision σ) (v : Supervisor σ) : Supervisor σ → Prop where
  | refl : Meanwhile sv v v
  | start {w w' : Supervisor σ} (h : Meanwhile sv v w) (spec : ServiceSpec)
    {r : Except StartError Started} (hrun : Supervising.start sv spec w = .ok r w') :
    Meanwhile sv v w'
  | dropped {w w' : Supervisor σ} (h : Meanwhile sv v w) (spec : ServiceSpec) {halt : Halt}
    (hrun : Supervising.start sv spec w = .error halt w') : Meanwhile sv v w'
  | session {w : Supervisor σ} (h : Meanwhile sv v w) (s : Session σ) :
    Meanwhile sv v (w.withSession s)

/-- In its turn of a teardown a service is stopped without a signal, and is listed with one status
only. -/
def StopsUnsignalled (sv : Supervision σ) (role : Role) (status : WaitStatus) (w : Supervisor σ)
    (summary : TeardownSummary) : Prop :=
  (∀ known, (role, known) ∈ summary.stopped ↔ known = status) ∧
  ∃ t a b s₁ s₂, w.tracked role = some t ∧
    (begun w).session.Reaches (Action.isStopping ·) a.session ∧
    stop sv role t a = .ok (some status) b ∧
    a.session.Reaches (Action.sendsNothing ·) b.session ∧
    b.session.Reaches (Action.isStopping ·) s₁ ∧
    sv.reclaimer.reclaim sv.ports sv.patterns s₁ = .ok summary.reclaim s₂

/-- The end of a start whose wait has had an outcome. -/
structure Answers (sv : Supervision σ) (spec : ServiceSpec) (v : Supervisor σ) (pid : Pid)
    (outcome : ReadinessOutcome) (r : Except StartError Started) (v' : Supervisor σ) : Prop where
  waited : ∃ reader s, (watchOf sv spec).run pid (.ofStreams true true)
    (launched sv spec pid v.session) = .ok (reader, outcome) s
  answer : r = if outcome = .ready then .ok ⟨spec.role, pid, spec.port⟩
    else .error (.notReady spec.role outcome)
  enters : Enters spec v pid outcome.exit? v'
  stops : ∀ status, outcome = .processExited status → ∀ w, Meanwhile sv v' w →
    Ends (teardownAll sv) w (fun summary _ => StopsUnsignalled sv spec.role status w summary)
      (fun _ _ => True) ∧
    (sv.reclaimer.IsCalm → w.session.interruptible = false →
      ∃ summary w', teardownAll sv w = .ok summary w')

/-- The end of a start whose wait has been broken off. -/
structure BreaksOff (sv : Supervision σ) (spec : ServiceSpec) (v : Supervisor σ) (pid : Pid)
    (halt : Halt) (v' : Supervisor σ) : Prop where
  waited : (watchOf sv spec).run pid (.ofStreams true true) (launched sv spec pid v.session) =
    .error halt v'.session
  enters : Enters spec v pid none v'

variable {sv : Supervision σ} {spec : ServiceSpec} {role : Role} {roles : List Role} {t : Tracked}
  {status : WaitStatus} {pid : Pid} {v v' w : Supervisor σ} {s : Session σ}

/-! ### The start -/

omit [Host σ] in
theorem Enters.of_withEntry {exited : Option WaitStatus}
    (htracked : v'.tracked =
      (v.withEntry spec.role (some { entryOf spec pid with exited := exited })).tracked)
    (hpasses : v'.passes = v.passes) : Enters spec v pid exited v' := by
  refine ⟨?_, fun role hne => ?_, hpasses⟩
  · rw [htracked]
    exact if_pos rfl
  · rw [htracked]
    exact if_neg hne

/-- What is noted of an outcome changes the entry by the end that the wait has seen. -/
theorem conclude_enters (reader : LineReader) (outcome : ReadinessOutcome) :
    Ends (conclude spec pid reader outcome : Supervising σ _)
      ((v.withSession s).withEntry spec.role (some (entryOf spec pid)))
      (fun r v' => r = (if outcome = .ready then .ok ⟨spec.role, pid, spec.port⟩
          else .error (.notReady spec.role outcome)) ∧
        Enters spec v pid outcome.exit? v') (fun _ _ => False) := by
  cases outcome with
  | ready => exact ⟨rfl, .of_withEntry rfl rfl⟩
  | timedOut => exact ⟨rfl, .of_withEntry rfl rfl⟩
  | processExited status =>
    refine ⟨rfl, .of_withEntry ?_ rfl⟩
    exact tracked_withEntry_exited (v.withSession s) spec.role (entryOf spec pid) status

/-- Once its process has been spawned, a start ends as its wait does, and the process has its
entry. -/
theorem start_enters (hfree : v.isTracked spec.role = false)
    (hspawn : (Host.spawn sv.workingDir spec.launch v.session.host).1 = .ok pid) :
    Ends (start sv spec) v
      (fun r v' => ∃ outcome, (∃ reader s, (watchOf sv spec).run pid (.ofStreams true true)
          (launched sv spec pid v.session) = .ok (reader, outcome) s) ∧
        r = (if outcome = .ready then .ok ⟨spec.role, pid, spec.port⟩
          else .error (.notReady spec.role outcome)) ∧
        Enters spec v pid outcome.exit? v')
      (fun halt v' => BreaksOff sv spec v pid halt v') := by
  change Ends (if v.isTracked spec.role then _ else _) v _ _
  rw [hfree]
  refine (launch_runs sv spec v).of_total.bind ?_
  rintro r v₁ ⟨hr, h₁⟩
  obtain rfl : r = .ok pid := hr.trans hspawn
  obtain rfl := h₁
  let run : Task σ (LineReader × ReadinessOutcome) :=
    (watchOf sv spec).run pid (.ofStreams true true)
  let s₀ := launched sv spec pid v.session
  have hwatch : Ends (liftM run : Supervising σ _)
      ((v.withSession s₀).withEntry spec.role (some (entryOf spec pid)))
      (fun x v₂ => ∃ s, run s₀ = .ok x s ∧
        v₂ = (v.withSession s).withEntry spec.role (some (entryOf spec pid)))
      (fun halt v' => BreaksOff sv spec v pid halt v') :=
    ends_lift ((Ends.self run s₀).mono (fun _ s hrun => ⟨s, hrun, rfl⟩)
      fun _ _ hrun => ⟨hrun, .of_withEntry rfl rfl⟩)
  refine hwatch.bind ?_
  rintro ⟨reader, outcome⟩ _ ⟨s, hrun, rfl⟩
  refine (conclude_enters reader outcome).of_total.mono (fun r v' h => ?_) fun _ _ he => he
  exact ⟨outcome, ⟨reader, s, hrun⟩, h⟩

/-- A program that cannot be spawned leaves everything as it was, but for what the host has made of
the attempt. -/
theorem start_unlaunched {e : SystemError} (hfree : v.isTracked spec.role = false)
    (hspawn : (Host.spawn sv.workingDir spec.launch v.session.host).1 = .error e) :
    start sv spec v = .ok (.error (.launch spec.role e))
      (v.withSession ((Action.spawn sv.workingDir spec.launch).apply v.session)) := by
  have hends : Ends (start sv spec) v
      (fun r v' => r = .error (.launch spec.role e) ∧
        v' = v.withSession ((Action.spawn sv.workingDir spec.launch).apply v.session))
      (fun _ _ => False) := by
    change Ends (if v.isTracked spec.role then _ else _) v _ _
    rw [hfree]
    refine (launch_runs sv spec v).bind ?_
    rintro r v₁ ⟨hr, h₁⟩
    obtain rfl : r = .error e := hr.trans hspawn
    exact ⟨rfl, h₁⟩
  obtain ⟨r, v', hrun, rfl, rfl⟩ := hends.exists_ok
  exact hrun

theorem start_refused (htracked : v.isTracked spec.role = true) :
    start sv spec v = .error (.crashed
      s!"{spec.role.name} is already tracked; refusing to start it twice") v := by
  change (if v.isTracked spec.role then _ else _ : Supervising σ _) v = _
  rw [htracked]
  rfl

/-! ### Until the teardown -/

/-- A start leaves the entries that are there. -/
theorem Leaves.entry_eq (h : Leaves sv spec v v') (ht : v.tracked role = some t) :
    v'.tracked role = some t := by
  cases h with
  | refused _ | unlaunched _ _ => exact ht
  | entered hfree _ _ htracked _ =>
    have hne : role ≠ spec.role := by
      rintro rfl
      exact absurd (hfree.symm.trans ht) nofun
    rw [htracked]
    exact (if_neg hne).trans ht

theorem Meanwhile.entry_eq (h : Meanwhile sv v w) (ht : v.tracked role = some t) :
    w.tracked role = some t := by
  induction h with
  | refl => exact ht
  | start _ spec hrun ih => exact ((start_leaves sv spec _).of_ok hrun).entry_eq ih
  | dropped _ spec hrun ih => exact ((start_leaves sv spec _).of_error hrun).entry_eq ih
  | session _ _ ih => exact ih

/-! ### The turn of a service -/

/-- A tracked service has had its turn among some others, and it is listed as stopped with what the
turn has brought. -/
def HasTurn (sv : Supervision σ) (role : Role) (t : Tracked) (v : Supervisor σ)
    (stopped : List (Role × WaitStatus)) (v' : Supervisor σ) : Prop :=
  ∃ status a b, v.session.Reaches (Action.isStopping ·) a.session ∧
    stop sv role t a = .ok status b ∧ b.session.Reaches (Action.isStopping ·) v'.session ∧
    ∀ known, (role, known) ∈ stopped ↔ status = some known

theorem stopAll_hasTurn (hroles : roles.Nodup) (hmem : role ∈ roles)
    (ht : v.tracked role = some t) :
    Ends (stopAll sv roles) v (fun r v' => HasTurn sv role t v r.1 v') (fun _ _ => True) := by
  -- the turns before that of the service leave its entry, the turns after it are not about it
  induction roles generalizing v with
  | nil => exact absurd hmem List.not_mem_nil
  | cons x roles ih =>
    obtain ⟨hnew, hrest⟩ := List.nodup_cons.mp hroles
    refine Ends.get_bind ?_
    cases hx : v.tracked x with
    | none =>
      have hne : role ≠ x := by
        rintro rfl
        exact absurd (hx.symm.trans ht) nofun
      exact ih hrest ((List.mem_cons.mp hmem).resolve_left hne) ht
    | some u =>
      refine ((stop_turns sv x u v).and (Ends.ok_self (stop sv x u) v)).forget.bind
        fun status v₁ ⟨hturn, hrun⟩ => ?_
      by_cases hrole : role = x
      · subst hrole
        obtain rfl : u = t := Option.some.inj (hx.symm.trans ht)
        refine (stopAll_turns sv hrest v₁).bind fun r v' h => ?_
        have hnone (known : WaitStatus) : (role, known) ∉ r.1 := by
          intro hlisted
          have hin := h.stoppedOrder.subset (List.mem_map_of_mem hlisted)
          exact hnew (List.mem_of_mem_filter hin)
        refine match status, hrun with
          | some found, hrun => ⟨some found, v, v₁, .refl _, hrun, h.reaches, fun known => ?_⟩
          | none, hrun => ⟨none, v, v₁, .refl _, hrun, h.reaches, fun known => ?_⟩
        · rw [List.mem_cons, or_iff_left (hnone known), Prod.mk.injEq, and_iff_right rfl,
            Option.some.injEq, eq_comm]
        · exact iff_of_false (hnone known) nofun
      · have ht₁ : v₁.tracked role = some t := by
          rw [hturn.tracked]
          split
          · exact (if_neg hrole).trans ht
          · exact ht
        refine (ih hrest ((List.mem_cons.mp hmem).resolve_left hrole) ht₁).bind
          fun r v' ⟨found, a, b, ha, hstop, hb, hlisted⟩ => ?_
        have hbefore := hturn.reaches.trans ha
        cases status with
        | none => exact ⟨found, a, b, hbefore, hstop, hb, hlisted⟩
        | some other =>
          refine ⟨found, a, b, hbefore, hstop, hb, fun known => ?_⟩
          rw [List.mem_cons, Prod.mk.injEq, or_iff_right fun heq => hrole heq.1]
          exact hlisted known

/-- A service whose end is known is stopped without a signal. -/
theorem stop_sendsNothing (hexit : t.exited = some status) :
    Ends (stop sv role t) v
      (fun r v' => r = some status ∧ v.session.Reaches (Action.sendsNothing ·) v'.session)
      (fun _ _ => False) := by
  let found := (Action.note (.foundEnded t.pid)).apply v.session
  let noted := (Action.note (.stopped role status)).apply found
  have hend : Ends (liftM (endStatus sv role t) : Supervising σ _) v
      (fun r v₁ => r = some status ∧ v₁ = v.withSession found) (fun _ _ => False) := by
    refine ends_lift ?_
    unfold endStatus
    rw [hexit]
    exact ⟨rfl, rfl⟩
  refine hend.bind ?_
  rintro _ _ ⟨rfl, rfl⟩
  have hnote : Ends (liftM (Task.emit (.stopped role status)) : Supervising σ Unit)
      (v.withSession found) (fun _ v₂ => v₂ = v.withSession noted) (fun _ _ => False) :=
    ends_lift rfl
  refine hnote.bind ?_
  rintro _ _ rfl
  refine (forget_clears role t.pid (v.withSession noted)).bind fun _ v' ⟨hforgot, _⟩ => ?_
  have hfound : v.session.Reaches (Action.sendsNothing ·) found := .step v.session rfl
  have hnoted : v.session.Reaches (Action.sendsNothing ·) noted := hfound.tail rfl
  refine ⟨rfl, hnoted.trans (hforgot.mono fun a ha => ?_)⟩
  cases a with
  | folder _ | forwarders _ => rfl
  | _ => exact absurd ha nofun

/-- A teardown lists a service whose end is known with that status, and sends it nothing. -/
theorem teardownAll_stopsUnsignalled (ht : w.tracked role = some t)
    (hexit : t.exited = some status) :
    Ends (teardownAll sv) w (fun summary _ => StopsUnsignalled sv role status w summary)
      (fun _ _ => True) := by
  have hroles : Role.startOrder.Nodup := by decide
  refine (stopAll_hasTurn (v := begun w) hroles role.mem_startOrder ht).bind
    fun (stopped, lingering) v₁ ⟨found, a, b, ha, hstop, hb, hlisted⟩ => ?_
  obtain ⟨hfound, hquiet⟩ := (stop_sendsNothing hexit).of_ok hstop
  subst hfound
  have hreclaim : Ends (liftM (sv.reclaimer.reclaim sv.ports sv.patterns) : Supervising σ _) v₁
      (fun report _ => ∃ s₂,
        sv.reclaimer.reclaim sv.ports sv.patterns v₁.session = .ok report s₂) (fun _ _ => True) :=
    ends_lift ((Ends.ok_self _ v₁.session).weaken fun _ s₂ hrun => ⟨s₂, hrun⟩)
  refine hreclaim.bind fun report v₂ ⟨s₂, hrun⟩ => ?_
  refine (forgetReaped_reaps Role.startOrder v₂).of_total.bind fun _ v' _ => ⟨fun known => ?_, ?_⟩
  · rw [hlisted, Option.some.injEq, eq_comm]
  · exact ⟨t, a, b, v₁.session, s₂, ht, ha, hstop, hquiet, hb, hrun⟩

/-! ### All ends of a start -/

/-- A start is atomic in each of its ends. If its role is tracked already, it crashes and nothing
has changed. If its program cannot be spawned, it says so, the entries and the pidfiles are as they
were, and the role can be started later. Otherwise, also if the pidfile cannot be written, the
process has the entry of its role and the other entries are as they were, whether the wait has an
outcome or is broken off; the answer is that of the wait, and a service that has ended early is
reported with that status by the teardown that follows, and gets no signal from it. -/
theorem start_is_atomic (sv : Supervision σ) (spec : ServiceSpec) (v : Supervisor σ) :
    (v.isTracked spec.role = true → start sv spec v = .error (.crashed
      s!"{spec.role.name} is already tracked; refusing to start it twice") v) ∧
    (v.isTracked spec.role = false → ∀ e,
      (Host.spawn sv.workingDir spec.launch v.session.host).1 = .error e →
      ∃ v', start sv spec v = .ok (.error (.launch spec.role e)) v' ∧ v'.tracked = v.tracked ∧
        v'.session.pids = v.session.pids ∧ ∀ (s : Session σ) (again : ServiceSpec) pid,
          again.role = spec.role →
          (Host.spawn sv.workingDir again.launch s.host).1 = .ok pid →
          Ends (start sv again) (v'.withSession s)
            (fun _ w => ∃ exited, Enters again v' pid exited w)
            (fun _ w => Enters again v' pid none w)) ∧
    (v.isTracked spec.role = false → ∀ pid,
      (Host.spawn sv.workingDir spec.launch v.session.host).1 = .ok pid →
      Ends (start sv spec) v (fun r v' => ∃ outcome, Answers sv spec v pid outcome r v')
        (fun halt v' => BreaksOff sv spec v pid halt v')) := by
  refine ⟨start_refused, fun hfree e hspawn => ?_, fun hfree pid hspawn => ?_⟩
  · refine ⟨_, start_unlaunched hfree hspawn, rfl, rfl, fun s again pid hrole hagain => ?_⟩
    have hstill : v.isTracked again.role = false := hrole ▸ hfree
    refine (start_enters (v := v.withSession s) hstill hagain).mono ?_ ?_
    · rintro _ w ⟨outcome, -, -, h⟩
      exact ⟨outcome.exit?, h.entry, h.others, h.passes⟩
    · intro _ w h
      exact ⟨h.enters.entry, h.enters.others, h.enters.passes⟩
  · refine (start_enters hfree hspawn).mono ?_ fun _ _ h => h
    rintro r v' ⟨outcome, hwaited, hanswer, henters⟩
    refine ⟨outcome, hwaited, hanswer, henters, ?_⟩
    rintro status rfl w hw
    refine ⟨teardownAll_stopsUnsignalled (hw.entry_eq henters.entry) rfl, fun hcalm hquiet => ?_⟩
    obtain ⟨summary, w', hrun, -⟩ := (calm_teardownAll hcalm w hquiet).exists_ok
    exact ⟨summary, w', hrun⟩

end Supervising

namespace Simulation.Bench

/-- A service that ends at once. -/
def fleeting : ServiceSpec := ⟨.server2, ⟨"just", ["quit"]⟩, "listening", 3004, 1000⟩

/-- The bench with a file in the place of the pidfile directory, so that no pidfile can be
written. -/
def blocked : Supervisor Bench := Supervisor.start (Session.start blank .blocked)

theorem fleeting_ends : Ends (Supervising.startAndTearDown plan.supervision fleeting) blocked
    (fun x _ => (x.1.tracked .server2).bind (·.exited) = some (.exited 0) ∧
      x.1.session.pids = .blocked) (fun _ _ => False) := by
  decide +kernel

end Simulation.Bench

namespace Supervising

open Simulation (Bench)

/-- On the bench a service that ends at once has its entry, without a pidfile; a second start of its
role is refused, and the teardown lists it without having sent it anything. -/
theorem start_is_atomic_on_bench : ∃ v₁ summary v₂,
    start Bench.plan.supervision Bench.fleeting Bench.blocked =
      .ok (.error (.notReady .server2 (.processExited (.exited 0)))) v₁ ∧
    v₁.session.pids = .blocked ∧ Enters Bench.fleeting Bench.blocked 101 (some (.exited 0)) v₁ ∧
    start Bench.plan.supervision Bench.fleeting v₁ =
      .error (.crashed "Server2 is already tracked; refusing to start it twice") v₁ ∧
    teardownAll Bench.plan.supervision v₁ = .ok summary v₂ ∧
    StopsUnsignalled Bench.plan.supervision .server2 (.exited 0) v₁ summary := by
  obtain ⟨⟨v₁, summary⟩, v₂, hboth, hexited, hpids⟩ := Bench.fleeting_ends.exists_ok
  obtain ⟨⟨r, hstart⟩, hrun⟩ := startAndTearDown_runs hboth
  obtain ⟨outcome, h⟩ := ((start_is_atomic Bench.plan.supervision Bench.fleeting Bench.blocked).2.2
    rfl 101 rfl).of_ok hstart
  have hexit : outcome.exit? = some (.exited 0) := by
    change (v₁.tracked Bench.fleeting.role).bind (·.exited) = _ at hexited
    rw [h.enters.entry] at hexited
    exact hexited
  obtain rfl : outcome = .processExited (.exited 0) := by
    cases outcome with
    | processExited status => exact congrArg _ (Option.some.inj hexit)
    | ready | timedOut => exact absurd hexit nofun
  obtain rfl := h.answer
  have htracked : v₁.isTracked .server2 = true :=
    Option.isSome_iff_exists.mpr ⟨_, h.enters.entry⟩
  have hrefused := (start_is_atomic Bench.plan.supervision Bench.fleeting v₁).1 htracked
  exact ⟨v₁, summary, v₂, hstart, hpids, h.enters, hrefused, hrun,
    (h.stops _ rfl v₁ .refl).1.of_ok hrun⟩

end Supervising

end LatencyHarness
