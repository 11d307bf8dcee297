import LatencyHarness.Proofs.Conservation
import LatencyHarness.Simulation.Captive

/-! What the summary of a teardown tells of the services.

The summary is put together while the services are stopped. Then come the reclamation and one more
look at those that linger, and a service that has ended by then is forgotten without a word in the
summary. So the summary holds of what is left exactly if no such service has ended by then. -/
namespace LatencyHarness

variable {σ : Type} [Host σ]

/-- The host gives a status for the process. -/
def Session.KnowsEnd (s : Session σ) (pid : Pid) : Prop :=
  ∃ status, Host.exitStatus? pid s.host = .ok (some status)

/-- The summary holds of what a teardown has come to: the services that linger are those that are
still tracked, and each one that is not tracked any more is among the stopped, with a status that
had been recorded or that the host has given in the meantime. -/
structure TeardownSummary.IsTrue (summary : TeardownSummary) (v v' : Supervisor σ) : Prop where
  lingering : summary.lingering = v'.trackedRoles
  stopped : ∀ role t, v.tracked role = some t → v'.tracked role = none →
    ∃ status, (role, status) ∈ summary.stopped ∧
      (t.exited = some status ∨ ∃ s, v.session.Hears t.pid status s)

namespace Supervising

/-! ### The last look -/

/-- The notes of the services that have been forgotten, the newest first. -/
def reapedNotes (reaped : List (Role × WaitStatus)) : Journal :=
  (reaped.map fun x => .reaped x.1 x.2).reverse

/-- Some services have been looked at once more. Those that had ended are noted and forgotten, the
others stay. -/
structure Rechecks (roles : List Role) (v : Supervisor σ) (reaped : List (Role × WaitStatus))
    (v' : Supervisor σ) : Prop where
  precedes : v.session.Precedes v'.session
  journal : v'.session.journal = reapedNotes reaped ++ v.session.journal
  tracked : ∀ role, v'.tracked role = if role ∈ reaped.map (·.1) then none else v.tracked role
  ended : ∀ role status, (role, status) ∈ reaped → role ∈ roles ∧
    ∃ t, v.tracked role = some t ∧ v.session.Hears t.pid status v'.session
  kept : ∀ role ∈ roles, ∀ t, v'.tracked role = some t →
    ∃ s, v.session.Precedes s ∧ ¬ s.KnowsEnd t.pid ∧ s.Precedes v'.session
  none_iff : reaped = [] ↔ ∀ role ∈ roles, ∀ t, v.tracked role = some t →
    ¬ v.session.KnowsEnd t.pid

variable {sv : Supervision σ} {role : Role} {roles : List Role} {t : Tracked}
  {status : WaitStatus} {v v' v'' : Supervisor σ} {reaped : List (Role × WaitStatus)}

omit [Host σ] in
theorem ne_of_mem_of_notMem {x : Role} (hnew : role ∉ roles) (hx : x ∈ roles) : x ≠ role := by
  intro heq
  exact hnew (heq ▸ hx)

theorem Rechecks.skip (hnone : v.tracked role = none) (h : Rechecks roles v reaped v') :
    Rechecks (role :: roles) v reaped v' := by
  have hfree : v'.tracked role = none := by
    rw [h.tracked, hnone, ite_self]
  refine ⟨h.precedes, h.journal, h.tracked, fun x known hx => ?_, fun x hx t ht => ?_, ?_⟩
  · exact ⟨List.mem_cons_of_mem role (h.ended x known hx).1, (h.ended x known hx).2⟩
  · rcases List.mem_cons.mp hx with rfl | hx
    · exact absurd (hfree.symm.trans ht) nofun
    · exact h.kept x hx t ht
  · rw [h.none_iff, List.forall_mem_cons]
    refine (and_iff_right fun t ht => ?_).symm
    exact absurd (hnone.symm.trans ht) nofun

/-- A service that has not ended stays as it is. -/
theorem Rechecks.stay (hnew : role ∉ roles) (ht : v.tracked role = some t)
    (halive : ¬ v.session.KnowsEnd t.pid) (h : Rechecks roles v reaped v') :
    Rechecks (role :: roles) v reaped v' := by
  have hentry : v'.tracked role = some t := by
    rw [h.tracked, if_neg, ht]
    intro hmem
    obtain ⟨⟨x, known⟩, hx, rfl⟩ := List.mem_map.mp hmem
    exact hnew (h.ended x known hx).1
  refine ⟨h.precedes, h.journal, h.tracked, fun x known hx => ?_, fun x hx t' ht' => ?_, ?_⟩
  · exact ⟨List.mem_cons_of_mem role (h.ended x known hx).1, (h.ended x known hx).2⟩
  · rcases List.mem_cons.mp hx with rfl | hx
    · obtain rfl := Option.some.inj (hentry.symm.trans ht')
      exact ⟨v.session, .refl _, halive, h.precedes⟩
    · exact h.kept x hx t' ht'
  · rw [h.none_iff, List.forall_mem_cons]
    refine (and_iff_right fun t' ht' => ?_).symm
    obtain rfl := Option.some.inj (ht.symm.trans ht')
    exact halive

/-- What has been done about a service that had ended. -/
structure IsReaped (role : Role) (status : WaitStatus) (v v' : Supervisor σ) : Prop where
  precedes : v.session.Precedes v'.session
  journal : v'.session.journal = .reaped role status :: v.session.journal
  tracked : v'.tracked = (v.withEntry role none).tracked

theorem ends_isReaped_bind {α : Type} {k : Supervising σ α} {Q : α → Supervisor σ → Prop}
    {E : Halt → Supervisor σ → Prop} (role : Role) (pid : Pid) (status : WaitStatus)
    (hk : ∀ v', IsReaped role status v v' → Ends k v' Q E) :
    Ends (do (Task.emit (.reaped role status) : Task σ _); forget role pid; k :
      Supervising σ α) v Q E := by
  let noted := (Action.note (.reaped role status)).apply v.session
  let stopped := (Action.forwarders (v.session.forwarders.filter (·.pid ≠ pid))).apply noted
  have hnote : Ends (liftM (Task.emit (.reaped role status)) : Supervising σ Unit) v
      (fun _ v₁ => v₁ = v.withSession noted) (fun _ _ => False) := ends_lift rfl
  refine hnote.of_total.bind fun _ v₁ hv₁ => ?_
  subst hv₁
  -- the pidfile goes with the entry, and neither is noted
  have hforget : Ends (forget role pid : Supervising σ Unit) (v.withSession noted)
      (fun _ v₂ => IsReaped role status v v₂) (fun _ _ => False) := by
    have hnoted : v.session.Precedes noted := .step v.session trivial
    have hstopped : v.session.Precedes stopped := hnoted.tail trivial
    exact ⟨hstopped.tail (a := .folder ((Pidfile.delete role).on v.session.pids).2) trivial, rfl,
      rfl⟩
  exact hforget.of_total.bind fun _ v₂ h₂ => hk v₂ h₂

/-- A service that has ended is put in front of those that are found to have ended after it. -/
theorem Rechecks.reap (hnew : role ∉ roles) (ht : v.tracked role = some t)
    (hstatus : Host.exitStatus? t.pid v.session.host = .ok (some status))
    (hreaped : IsReaped role status v v') (h : Rechecks roles v' reaped v'') :
    Rechecks (role :: roles) v ((role, status) :: reaped) v'' := by
  have hentry (x : Role) : v'.tracked x = if x = role then none else v.tracked x :=
    congrFun hreaped.tracked x
  have hother {x : Role} (hx : x ≠ role) : v'.tracked x = v.tracked x := by
    rw [hentry, if_neg hx]
  have hgone : v''.tracked role = none := by
    rw [h.tracked, hentry, if_pos rfl, ite_self]
  refine ⟨hreaped.precedes.trans h.precedes, ?_, fun x => ?_, fun x known hx => ?_,
    fun x hx t' ht' => ?_, ?_⟩
  · calc v''.session.journal
      _ = reapedNotes reaped ++ .reaped role status :: v.session.journal := by
        rw [h.journal, hreaped.journal]
      _ = reapedNotes ((role, status) :: reaped) ++ v.session.journal := by
        unfold reapedNotes
        rw [List.map_cons, List.reverse_cons, List.append_assoc, List.singleton_append]
  · rw [h.tracked, hentry, List.map_cons]
    by_cases hx : x = role
    · rw [if_pos hx, ite_self, if_pos (List.mem_cons.mpr (.inl hx))]
    · rw [if_neg hx]
      refine if_congr ?_ rfl rfl
      rw [List.mem_cons, or_iff_right hx]
  · rcases List.mem_cons.mp hx with heq | hx
    · obtain ⟨rfl, rfl⟩ := Prod.mk.inj heq
      exact ⟨List.mem_cons_self, t, ht, v.session, .refl _, hstatus,
        hreaped.precedes.trans h.precedes⟩
    · obtain ⟨hin, t', ht', hhears⟩ := h.ended x known hx
      rw [hother (ne_of_mem_of_notMem hnew hin)] at ht'
      exact ⟨List.mem_cons_of_mem role hin, t', ht', hhears.widen hreaped.precedes (.refl _)⟩
  · rcases List.mem_cons.mp hx with rfl | hx
    · exact absurd (hgone.symm.trans ht') nofun
    · obtain ⟨s, hs, halive, hs'⟩ := h.kept x hx t' ht'
      exact ⟨s, hreaped.precedes.trans hs, halive, hs'⟩
  · refine ⟨nofun, fun hall => ?_⟩
    exact absurd ⟨status, hstatus⟩ (hall role List.mem_cons_self t ht)

/-- The last look takes every service in turn, and nothing can break it off. -/
theorem forgetReaped_rechecks (hroles : roles.Nodup) (v : Supervisor σ) :
    Ends (forgetReaped roles : Supervising σ Unit) v
      (fun _ v' => ∃ reaped, Rechecks roles v reaped v') (fun _ _ => False) := by
  induction roles generalizing v with
  | nil => exact ⟨[], .refl _, rfl, fun _ => rfl, nofun, nofun, iff_of_true rfl nofun⟩
  | cons role roles ih =>
    obtain ⟨hnew, hrest⟩ := List.nodup_cons.mp hroles
    refine Ends.get_bind ?_
    cases ht : v.tracked role with
    | none =>
      exact (ih hrest v).mono (fun _ _ ⟨reaped, h⟩ => ⟨reaped, h.skip ht⟩) fun _ _ he => he
    | some t =>
      have hask : Ends (liftM (Task.ask (Host.exitStatus? t.pid) : Task σ _) : Supervising σ _) v
          (fun r v₁ => r = Host.exitStatus? t.pid v.session.host ∧ v₁ = v) (fun _ _ => False) :=
        ends_lift ⟨rfl, rfl⟩
      refine hask.bind fun r v₁ ⟨hr, hv₁⟩ => ?_
      subst hv₁
      have hstay (halive : ¬ v₁.session.KnowsEnd t.pid) :
          Ends (forgetReaped roles : Supervising σ Unit) v₁
            (fun _ v' => ∃ reaped, Rechecks (role :: roles) v₁ reaped v') (fun _ _ => False) :=
        (ih hrest v₁).mono (fun _ _ ⟨reaped, h⟩ => ⟨reaped, h.stay hnew ht halive⟩) fun _ _ he => he
      match r with
      | .ok (some status) =>
        refine ends_isReaped_bind role t.pid status fun v₂ hreaped => ?_
        refine (ih hrest v₂).mono (fun _ _ ⟨reaped, h⟩ => ?_) fun _ _ he => he
        exact ⟨(role, status) :: reaped, h.reap hnew ht hr.symm hreaped⟩
      | .ok none => exact hstay fun ⟨_, h⟩ => absurd (hr.trans h) nofun
      | .error _ => exact hstay fun ⟨_, h⟩ => absurd (hr.trans h) nofun

/-! ### The summary -/

omit [Host σ] in
/-- What lingers is what was tracked and has not been stopped, in start order. -/
theorem lingering_eq_filter {stopped lingering tracked : List Role}
    (hcomplete : (stopped ++ lingering).Perm tracked) (horder : lingering.Sublist tracked)
    (htracked : tracked.Nodup) : lingering = tracked.filter (· ∉ stopped) := by
  have hnodup : (stopped ++ lingering).Nodup := hcomplete.nodup_iff.mpr htracked
  have hkept : lingering.filter (· ∉ stopped) = lingering := by
    refine List.filter_eq_self.mpr fun x hx => decide_eq_true fun hmem => ?_
    exact (List.nodup_append.mp hnodup).2.2 x hmem x hx rfl
  have hdropped : stopped.filter (· ∉ stopped) = [] :=
    List.filter_eq_nil_iff.mpr fun x hx => by simpa using hx
  have hsub : lingering.Sublist (tracked.filter (· ∉ stopped)) := hkept ▸ horder.filter _
  refine hsub.eq_of_length ?_
  calc lingering.length
    _ = ((stopped ++ lingering).filter (· ∉ stopped)).length := by
      rw [List.filter_append, hdropped, hkept, List.nil_append]
    _ = (tracked.filter (· ∉ stopped)).length := (hcomplete.filter _).length_eq

/-- What a summary tells of a teardown whose reclamation has ended in the session `s`, and after
which some services have been reaped. -/
structure Sums (sv : Supervision σ) (v : Supervisor σ) (summary : TeardownSummary) (s : Session σ)
    (reaped : List (Role × WaitStatus)) (v' : Supervisor σ) : Prop where
  reclaims : ∃ s₁, (begun v).session.Reaches (Action.isStopping ·) s₁ ∧
    sv.reclaimer.reclaim sv.ports sv.patterns s₁ = .ok summary.reclaim s
  journal : v'.session.journal = reapedNotes reaped ++ s.journal
  lingering : summary.lingering = v.trackedRoles.filter (· ∉ summary.stopped.map (·.1))
  tracked : ∀ role, v'.tracked role =
    if role ∈ reaped.map (·.1) then none
    else if role ∈ summary.stopped.map (·.1) then none else v.tracked role
  stopped : ∀ role status, (role, status) ∈ summary.stopped →
    ∃ t, v.tracked role = some t ∧ (t.exited = some status ∨ ∃ u, v.session.Hears t.pid status u)
  ended : ∀ role status, (role, status) ∈ reaped → role ∈ summary.lingering ∧
    ∃ t, v.tracked role = some t ∧ s.Hears t.pid status v'.session
  kept : ∀ role t, v'.tracked role = some t →
    ∃ u, s.Precedes u ∧ ¬ u.KnowsEnd t.pid ∧ u.Precedes v'.session
  none_iff : reaped = [] ↔ ∀ role ∈ summary.lingering, ∀ t, v.tracked role = some t →
    ¬ s.KnowsEnd t.pid

variable {summary : TeardownSummary} {s : Session σ}

/-- The services that a teardown leaves tracked are those that linger and have not been reaped. -/
theorem Sums.trackedRoles (h : Sums sv v summary s reaped v') :
    v'.trackedRoles = summary.lingering.filter (· ∉ reaped.map (·.1)) := by
  rw [h.lingering, Supervisor.trackedRoles, Supervisor.trackedRoles, List.filter_filter,
    List.filter_filter]
  refine List.filter_congr fun x _ => ?_
  unfold Supervisor.isTracked
  rw [h.tracked]
  by_cases hreaped : x ∈ reaped.map (·.1)
  · simp [hreaped]
  · by_cases hstopped : x ∈ summary.stopped.map (·.1)
    · simp [hstopped]
    · simp [hreaped, hstopped]

/-- The summary is out of date as soon as a service is reaped, and not before. -/
theorem Sums.isTrue_iff (h : Sums sv v summary s reaped v') :
    summary.IsTrue v v' ↔ reaped = [] := by
  constructor
  · intro htrue
    refine List.eq_nil_iff_forall_not_mem.mpr fun ⟨role, status⟩ hmem => ?_
    have hlingers : role ∈ summary.lingering := (h.ended role status hmem).1
    rw [htrue.lingering, h.trackedRoles, List.mem_filter] at hlingers
    exact of_decide_eq_true hlingers.2 (List.mem_map_of_mem hmem)
  · rintro rfl
    refine ⟨?_, fun role t ht hgone => ?_⟩
    · rw [h.trackedRoles]
      exact (List.filter_eq_self.mpr fun _ _ => rfl).symm
    · -- a service that is gone is among the stopped, for nothing has been reaped
      have hlisted : role ∈ summary.stopped.map (·.1) := by
        by_contra hnot
        rw [h.tracked, List.map_nil, if_neg List.not_mem_nil, if_neg hnot, ht] at hgone
        exact absurd hgone nofun
      obtain ⟨⟨x, status⟩, hmem, rfl⟩ := List.mem_map.mp hlisted
      obtain ⟨t', ht', hknown⟩ := h.stopped x status hmem
      obtain rfl := Option.some.inj (ht.symm.trans ht')
      exact ⟨status, hmem, hknown⟩

theorem teardownAll_sums (sv : Supervision σ) (v : Supervisor σ) :
    Ends (teardownAll sv) v (fun summary v' => ∃ s reaped, Sums sv v summary s reaped v')
      (fun _ _ => True) := by
  have hnodup : Role.startOrder.Nodup := by decide
  have hbegun : v.session.Precedes (begun v).session :=
    .step v.session (a := .note .teardownBegun) trivial
  refine (stopAll_turns sv hnodup (begun v)).bind fun (stopped, lingering) v₁ h₁ => ?_
  have hreclaim : Ends (liftM (sv.reclaimer.reclaim sv.ports sv.patterns) : Supervising σ _) v₁
      (fun report v₂ => ∃ s, v₂ = v₁.withSession s ∧
        sv.reclaimer.reclaim sv.ports sv.patterns v₁.session = .ok report s) (fun _ _ => True) :=
    ends_lift ((Ends.ok_self _ v₁.session).weaken fun _ s hrun => ⟨s, rfl, hrun⟩)
  refine hreclaim.bind fun report v₂ ⟨s, hv₂, hrun⟩ => ?_
  subst hv₂
  refine (forgetReaped_rechecks hnodup (v₁.withSession s)).of_total.bind
    fun _ v' ⟨reaped, h⟩ => ⟨s, reaped, ?_⟩
  have hentry (x : Role) : v₁.tracked x = if x ∈ stopped.map (·.1) then none else v.tracked x :=
    h₁.tracked x
  have hlingering : lingering = v.trackedRoles.filter (· ∉ stopped.map (·.1)) :=
    lingering_eq_filter h₁.complete h₁.lingeringOrder (hnodup.filter _)
  -- what comes to the last look is what lingers, with the entries that it has had all the time
  have hrest {x : Role} {t : Tracked} : v₁.tracked x = some t ↔
      x ∈ lingering ∧ v.tracked x = some t := by
    rw [hentry, hlingering, List.mem_filter, decide_eq_true_iff]
    by_cases hx : x ∈ stopped.map (·.1)
    · simp [hx]
    · rw [if_neg hx]
      refine ⟨fun ht => ⟨⟨List.mem_filter.mpr ⟨x.mem_startOrder, ?_⟩, hx⟩, ht⟩, fun ht => ht.2⟩
      exact Option.isSome_iff_exists.mpr ⟨t, ht⟩
  refine ⟨⟨v₁.session, h₁.reaches, hrun⟩, h.journal, hlingering, fun x => ?_, fun x known hx => ?_,
    fun x known hx => ?_, fun x t ht => h.kept x x.mem_startOrder t ht, ?_⟩
  · rw [h.tracked]
    exact if_congr Iff.rfl rfl (hentry x)
  · obtain ⟨t, ht, hknown⟩ := h₁.ended x known hx
    refine ⟨t, ht, hknown.imp_right fun hhears => ⟨v₁.session, ?_⟩⟩
    exact hhears.widen hbegun (.refl _)
  · obtain ⟨-, t, ht, hhears⟩ := h.ended x known hx
    obtain ⟨hlingers, hbefore⟩ := hrest.mp ht
    exact ⟨hlingers, t, hbefore, hhears⟩
  · rw [h.none_iff]
    refine ⟨fun hall x hx t ht => hall x x.mem_startOrder t (hrest.mpr ⟨hx, ht⟩), ?_⟩
    intro hall x _ t ht
    obtain ⟨hlingers, hbefore⟩ := hrest.mp ht
    exact hall x hlingers t hbefore

/-- The summary of a teardown holds of what is left exactly if the reclamation has not come to end a
service that had outlived its stop. Whatever it has ended is missing from the stopped: it is
forgotten after the summary was put together, with a note in the journal only, and the summary
still has it among those that linger. -/
theorem summary_is_true_unless_reclamation_ends_survivors
    (hrun : teardownAll sv v = .ok summary v') :
    ∃ s reaped, Sums sv v summary s reaped v' ∧
      v'.trackedRoles = summary.lingering.filter (· ∉ reaped.map (·.1)) ∧
      (summary.IsTrue v v' ↔ ∀ role ∈ summary.lingering, ∀ t, v.tracked role = some t →
        ¬ s.KnowsEnd t.pid) := by
  obtain ⟨s, reaped, h⟩ := (teardownAll_sums sv v).of_ok hrun
  exact ⟨s, reaped, h, h.trackedRoles, h.isTrue_iff.trans h.none_iff⟩

/-- A start and the teardown that follows, with the supervisor between them. -/
def startAndTearDown (sv : Supervision σ) (spec : ServiceSpec) :
    Supervising σ (Supervisor σ × TeardownSummary) := do
  let _ ← start sv spec
  let before ← get
  let summary ← teardownAll sv
  return (before, summary)

theorem startAndTearDown_runs {spec : ServiceSpec} {x : Supervisor σ × TeardownSummary}
    (h : startAndTearDown sv spec v = .ok x v') :
    (∃ r, start sv spec v = .ok r x.1) ∧ teardownAll sv x.1 = .ok x.2 v' := by
  have hruns : Ends (startAndTearDown sv spec) v
      (fun x v' => (∃ r, start sv spec v = .ok r x.1) ∧ teardownAll sv x.1 = .ok x.2 v')
      (fun _ _ => True) := by
    refine (Ends.ok_self (start sv spec) v).bind fun r v₁ hstart => Ends.get_bind ?_
    exact (Ends.ok_self (teardownAll sv) v₁).bind fun summary v' hrun => ⟨⟨r, hstart⟩, hrun⟩
  exact hruns.of_ok h

end Supervising

namespace Simulation

theorem Bench.teardown_stops : Ends (Supervising.startAndTearDown plan.supervision config.server2)
    (Supervisor.start (Session.start blank .absent))
    (fun x _ => x.1.trackedRoles = [.server2] ∧ x.2.lingering = []) (fun _ _ => False) := by
  decide +kernel

theorem Captive.teardown_reaps : Ends (Supervising.startAndTearDown supervision spec)
    (Supervisor.start (Session.start blank .absent))
    (fun x v => x.1.trackedRoles = [.server2] ∧ x.2.stopped = [] ∧ x.2.lingering = [.server2] ∧
      v.trackedRoles = []) (fun _ _ => False) := by
  decide +kernel

end Simulation

namespace Supervising

open Simulation

/-- On the bench the service ends when it is asked to, and the summary says so. -/
theorem summary_is_true_on_bench : ∃ v summary v', v.trackedRoles = [.server2] ∧
    teardownAll Bench.plan.supervision v = .ok summary v' ∧ summary.IsTrue v v' := by
  obtain ⟨⟨v, summary⟩, v', hboth, htracked, hnone⟩ := Bench.teardown_stops.exists_ok
  have hrun := (startAndTearDown_runs hboth).2
  obtain ⟨s, reaped, -, -, hiff⟩ := summary_is_true_unless_reclamation_ends_survivors hrun
  refine ⟨v, summary, v', htracked, hrun, hiff.mpr ?_⟩
  rw [show summary.lingering = [] from hnone]
  exact nofun

/-- A service that is out of reach until the reclamation has killed its holder is forgotten then. The
summary says that it lingers, and has nothing among the stopped. -/
theorem forgotten_service_is_said_to_linger : ∃ r v summary v',
    start Captive.supervision Captive.spec (Supervisor.start (Session.start Captive.blank .absent)) =
      .ok r v ∧ v.trackedRoles = [.server2] ∧
    teardownAll Captive.supervision v = .ok summary v' ∧ v'.trackedRoles = [] ∧
      summary.lingering = [.server2] ∧ summary.stopped = [] ∧ ¬ summary.IsTrue v v' := by
  obtain ⟨⟨v, summary⟩, v', hboth, htracked, hstopped, hlingering, hgone⟩ :=
    Captive.teardown_reaps.exists_ok
  obtain ⟨⟨r, hstart⟩, hrun⟩ := startAndTearDown_runs hboth
  refine ⟨r, v, summary, v', hstart, htracked, hrun, hgone, hlingering, hstopped, fun htrue => ?_⟩
  have hsame : [Role.server2] = [] := hlingering.symm.trans (htrue.lingering.trans hgone)
  exact absurd hsame nofun

end Supervising

end LatencyHarness
