import LatencyHarness.Proofs.Ending
import LatencyHarness.Proofs.Stages

/-! The verdict of a run: what the host has answered by its end decides between success and failure,
and what has gone wrong first decides the text. -/
namespace LatencyHarness

variable {σ : Type} [Host σ]

namespace Running

/-! ### What a success asks for -/

/-- All that a success asks for, of a run that begins at one state of it and has stopped everything
at another one: no request for shutdown before the way forward begins, a way forward that goes well
stage by stage, and no request by the time that everything has been stopped. -/
structure IsGood (p : Plan σ) (c t : Controller σ) : Prop where
  undisturbed : ¬ c.session.IsRequested
  goesWell : GoesWell (stages p) ((c.withSession (Action.news.apply c.session)).withInterrupts true)
  unrequested : ¬ t.session.IsRequested

variable {p : Plan σ} {outcome : Except HarnessError Unit} {m k : Controller σ}
  {ms : List Event} {report : RunReport}

/-- The way forward of a run ends well exactly if it begins and then goes well stage by stage. -/
theorem driveUntilShutdown_ok_iff {c : Controller σ} (hm : driveUntilShutdown p c = .ok outcome m) :
    outcome = .ok () ↔ ¬ c.session.IsRequested ∧
      GoesWell (stages p) ((c.withSession (Action.news.apply c.session)).withInterrupts true) := by
  constructor
  · -- an outcome other than an interruption is that of the way forward
    rintro rfl
    obtain ⟨c₁, c₂, hasked, hdrive, -⟩ := (driveUntilShutdown_drives p c).of_ok hm nofun
    obtain ⟨-, hheard, hquiet⟩ := (isCancelled_hears c).of_ok hasked
    have hnot : ¬ c.session.IsRequested := fun h => absurd (hheard.mpr h) Bool.false_ne_true
    rw [hquiet hnot] at hdrive
    exact ⟨hnot, (drive_ok_iff p _).mp ⟨c₂, hdrive⟩⟩
  · -- nothing has been requested, so the way forward is begun, and it is not halted
    rintro ⟨hnot, hwell⟩
    obtain ⟨c₂, hdrive⟩ := (drive_ok_iff p _).mpr hwell
    have hends : Ends (driveUntilShutdown p) c (fun r _ => r = .ok ()) (fun _ _ => True) := by
      refine (isCancelled_hears c).of_total.bind fun b c₁ ⟨_, hheard, hquiet⟩ => ?_
      rw [if_neg (mt hheard.mp hnot), hquiet hnot]
      have hdriven : Ends (drive p)
          ((c.withSession (Action.news.apply c.session)).withInterrupts true)
          (fun r _ => r = .ok ()) (fun _ _ => False) := by
        simp only [Ends, hdrive]
      have hcaught : Ends (tryCatch (drive p) afterHalt)
          ((c.withSession (Action.news.apply c.session)).withInterrupts true)
          (fun r _ => r = .ok ()) (fun _ _ => True) := hdriven.tryCatch fun _ _ he => he.elim
      exact hcaught.bind fun r _ hr => hr
    exact hends.of_ok hm

/-- A run is good exactly if its way forward was and no request for shutdown has come since. -/
theorem isGood_iff {c t : Controller σ} (hm : driveUntilShutdown p c = .ok outcome m) :
    IsGood p c t ↔ outcome = .ok () ∧ ¬ t.session.IsRequested := by
  rw [driveUntilShutdown_ok_iff hm]
  exact ⟨fun h => ⟨⟨h.undisturbed, h.goesWell⟩, h.unrequested⟩, fun h => ⟨h.1.1, h.1.2, h.2⟩⟩

/-! ### The verdict -/

/-- The verdict of a run.

It is a success, without a failure and with the exit status 0, exactly if the run was good, and
in every other case a failure with a text and the exit status 1. The text is that of an
interruption if a request for shutdown was heard before the way forward ended, or had come by the
time that everything was stopped where the way forward ended well. In every other case it is that of
the first failure of the way forward, whatever comes later. -/
theorem verdict_is_exact [Pattern.Wording] {c : Config} {r : Reclaimer σ}
    (hp : Plan.ofConfig c r = .ok p) (hr : r.IsOrderly) {host : σ} {pids : Folder}
    (hrun : run p (Controller.start (Session.start host pids)) = .ok report k) :
    let c₀ := Controller.start (Session.start host pids)
    ∃ outcome m m' t, driveUntilShutdown p c₀ = .ok outcome m ∧ sayFailure outcome m = .ok () m' ∧
      cleanUp p outcome m' = .ok () t ∧
      (IsGood p c₀ t → report.state = .done .success ∧ report.failure = none ∧
        report.exitCode = 0) ∧
      (¬ IsGood p c₀ t → report.state = .done .failure ∧ report.failure.isSome ∧
        report.exitCode = 1) ∧
      (report.failure = some HarnessError.interrupted.message ↔
        m.session.cancelled = true ∨ outcome = .ok () ∧ t.session.IsRequested) ∧
      ∀ e, outcome = .error e → m.session.cancelled = false →
        report.failure = some e.message ∧
          ∃ c₁ c₂, isCancelled c₀ = .ok false c₁ ∧
            drive p (c₁.withInterrupts true) = .ok (.error e) c₂ ∧
            m = c₂.withInterrupts false := by
  obtain ⟨outcome, m, ms, hm, h, hk⟩ := run_ok hp hr hrun
  obtain ⟨m', t, hsaid, hclean, hasked⟩ := hk.asked
  have hstate := hk.state
  have hfailure := hk.failure
  refine ⟨outcome, m, m', t, hm, hsaid, hclean, ?_, ?_, ?_, ?_⟩
  · -- the way forward was good and nothing has come since
    rw [isGood_iff hm]
    rintro ⟨rfl, hnot⟩
    have hcancelled : k.session.cancelled = false := Bool.eq_false_iff.mpr (mt (hasked rfl).mp hnot)
    rw [hcancelled] at hstate hfailure
    exact ⟨hstate, hfailure, by simp [RunReport.exitCode, RunReport.succeeded, hstate, outcomeWith,
      lastState]⟩
  · -- either it failed, or it was good and has been interrupted since
    rw [isGood_iff hm]
    intro hbad
    have hfailed : ∃ e, outcomeWith k.session.cancelled outcome = .error e := by
      cases outcome with
      | error e => exact ⟨e, rfl⟩
      | ok u =>
        have hrequested : t.session.IsRequested := not_not.mp fun hnot => hbad ⟨rfl, hnot⟩
        exact ⟨.interrupted, if_pos ((hasked rfl).mpr hrequested)⟩
    obtain ⟨e, he⟩ := hfailed
    rw [he] at hstate hfailure
    exact ⟨hstate, by simp [hfailure, failureText], by
      simp [RunReport.exitCode, RunReport.succeeded, hstate, lastState]⟩
  · -- no other failure has the text of an interruption
    rw [hfailure, ← h.interrupted]
    cases outcome with
    | error e => simpa [outcomeWith, failureText] using HarnessError.message_eq_interrupted
    | ok u =>
      rw [← hasked rfl]
      cases k.session.cancelled <;> simp [outcomeWith, failureText]
  · -- the failure of the way forward is told whatever the token says at the end
    rintro e rfl hcancelled
    have hne : e ≠ .interrupted := by
      rintro rfl
      exact absurd (h.interrupted.mp rfl) (by simp [hcancelled])
    have hdrives := (driveUntilShutdown_drives p _).of_ok hm
    exact ⟨hfailure, hdrives fun heq => hne (Except.error.inj heq)⟩

theorem verdict_is_exact_on_bench :
    ∃ report k outcome m m' t,
      run Simulation.Bench.plan Simulation.Bench.start = .ok report k ∧
        driveUntilShutdown Simulation.Bench.plan Simulation.Bench.start = .ok outcome m ∧
        sayFailure outcome m = .ok () m' ∧
        cleanUp Simulation.Bench.plan outcome m' = .ok () t ∧
        IsGood Simulation.Bench.plan Simulation.Bench.start t ∧ report.failure = none ∧
        report.exitCode = 0 := by
  obtain ⟨report, k, hrun, hstate, -⟩ := Simulation.Bench.run_ends.exists_ok
  have h := verdict_is_exact Simulation.Bench.plan_eq Simulation.Bench.plan_isOrderly hrun
  obtain ⟨outcome, m, m', t, hm, hsaid, hclean, hgood, hbad, -⟩ := h
  -- a run that was not good would have ended as a failure
  have hk : IsGood Simulation.Bench.plan Simulation.Bench.start t := by
    by_contra hnot
    exact absurd (hstate.symm.trans (hbad hnot).1) nofun
  exact ⟨report, k, outcome, m, m', t, hrun, hm, hsaid, hclean, hk, (hgood hk).2⟩

end Running

end LatencyHarness
