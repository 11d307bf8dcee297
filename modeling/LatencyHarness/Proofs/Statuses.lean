import LatencyHarness.Proofs.Conduct
import LatencyHarness.Proofs.Survivors

/-! Where a status comes from.

The wait for a marker and the stop of a child report how a process has ended only if the host has
given them that status on the way. -/
namespace LatencyHarness

variable {σ : Type} [Host σ]

namespace Session

variable {s s' t t' : Session σ} {pid : Pid} {status : WaitStatus}

/-- On the way from one session to the other the host has given a status for the process. -/
def Hears (s : Session σ) (pid : Pid) (status : WaitStatus) (s' : Session σ) : Prop :=
  ∃ u, s.Precedes u ∧ Host.exitStatus? pid u.host = .ok (some status) ∧ u.Precedes s'

theorem Hears.widen (h : s.Hears pid status s') (ht : t.Precedes s) (ht' : s'.Precedes t') :
    t.Hears pid status t' := by
  obtain ⟨u, hu, hstatus, hu'⟩ := h
  exact ⟨u, ht.trans hu, hstatus, hu'.trans ht'⟩

end Session

theorem Task.Within.precedes {α : Type} {A : Action → Prop} {t : Task σ α} (h : t.Within A)
    (s : Session σ) : Ends t s (fun _ s' => s.Precedes s') (fun _ _ => True) :=
  (h s).mono (fun _ _ hr => hr.precedes) fun _ _ _ => trivial

/-! ### The wait for a marker -/

namespace Watch

theorem observe_hears (pid : Pid) (deadline : Instant) (r : LineReader) (s : Session σ) :
    Ends (observe pid deadline r : Task σ _) s
      (fun x s' => s.Precedes s' ∧ ∀ status, x.2 = .dead status → s.Hears pid status s')
      (fun _ _ => True) := by
  have hread (wait : Millis) (u : Session σ) (hu : s.Precedes u) :
      Ends (readLine pid wait r : Task σ _) u
        (fun x s' => s.Precedes s' ∧ ∀ status, x.2 = .dead status → s.Hears pid status s')
        (fun _ _ => True) := by
    have hline : (Reading.line pid wait r : Task σ _).Within (Action.isWaiting ·) :=
      (Reading.within_covers (fun _ ha => ha) pid).line wait r
    refine (hline.precedes u).bind fun x s' hs' => ?_
    exact ⟨hu.trans hs', fun status hdead => by simp at hdead⟩
  refine Task.ends_ask_bind ?_
  split
  · exact ⟨.refl s, fun status hdead => by simp at hdead⟩
  · refine Task.ends_ask_bind ?_
    split
    · next known hknown =>
      refine ⟨.refl s, fun status hdead => ?_⟩
      obtain rfl : known = status := Observation.dead.inj hdead
      exact ⟨s, .refl s, hknown, .refl s⟩
    · exact hread _ s (.refl s)
    · exact Task.ends_emit_bind (hread _ _ (.step s (a := .note .statusUnknown) trivial))

theorem rounds_hears (w : Watch) (pid : Pid) (deadline : Instant) (fuel : Nat) (r : LineReader)
    (s : Session σ) :
    Ends (w.rounds pid deadline fuel r : Task σ _) s
      (fun x s' => ∀ status, x.2 = .processExited status → s.Hears pid status s')
      (fun _ _ => True) := by
  -- the round that decides for an end has heard of it; the others only take time
  induction fuel generalizing r s with
  | zero => trivial
  | succ fuel ih =>
    refine (observe_hears pid deadline r s).bind fun (r, o) s₁ ⟨h₁, hheard⟩ => ?_
    have hecho : (w.echo o : Task σ Unit).Within (Action.isWatching ·) :=
      (within_covers (fun _ ha => ha) pid).echo w o
    refine (hecho.precedes s₁).bind fun _ s₂ h₂ => ?_
    have hnext {s₃ : Session σ} (h₃ : s₂.Precedes s₃) :
        Ends (w.rounds pid deadline fuel r : Task σ _) s₃
          (fun x s' => ∀ status, x.2 = .processExited status → s.Hears pid status s')
          (fun _ _ => True) := by
      refine (ih r s₃).weaken fun x s' h status hexited => ?_
      exact (h status hexited).widen ((h₁.trans h₂).trans h₃) (.refl s')
    split
    · next outcome hv =>
      intro status houtcome
      obtain rfl : outcome = .processExited status := houtcome
      exact (hheard status (Observation.eq_dead_of_verdict hv)).widen (.refl s) h₂
    · split
      · refine Task.ends_ask_bind ?_
        have hsleep (d : Millis) : (Task.sleep d : Task σ Unit).Within (Action.isWaiting ·) :=
          Task.within_sleep (fun _ ha => ha) d
        exact ((hsleep _).precedes s₂).bind fun _ s₃ h₃ => hnext h₃
      · exact hnext (.refl s₂)

theorem run_hears (w : Watch) (pid : Pid) (r : LineReader) (s : Session σ) :
    Ends (w.run pid r : Task σ _) s
      (fun x s' => ∀ status, x.2 = .processExited status → s.Hears pid status s')
      (fun _ _ => True) := by
  have hdeadline : Ends (w.deadline : Task σ _) s (fun _ s' => s' = s) (fun _ _ => True) := by
    change Ends (if Host.now s.host + w.timeout < clockLimit then _ else _) s _ _
    split
    · rfl
    · trivial
  refine hdeadline.bind fun d s₁ hs₁ => ?_
  subst hs₁
  exact Task.ends_ask_bind (w.rounds_hears pid d _ r s₁)

end Watch

/-! ### The stop of a child -/

namespace Task

variable {s : Session σ} {pid : Pid}

theorem waitExit_hears {limit : Option Millis} {t : Session σ} (ht : s.Precedes t) :
    Ends (waitExit pid limit : Task σ _) t
      (fun r s' => ∀ status, r = .ok (some status) → s.Hears pid status s') (fun _ _ => True) := by
  have hwithin : (waitExit pid limit : Task σ _).Within (Action.isEnding ·) :=
    (within_coversEnding (fun _ ha => ha) pid).waitExit limit
  refine ((hwithin.precedes t).and (waitExit_asks pid limit t)).weaken ?_
  rintro r s' ⟨hs', hr⟩ status hstatus
  exact ⟨s', ht.trans hs', hr.symm.trans hstatus, .refl s'⟩

/-- A stop reports an end only if the host has told of it during the stop. -/
theorem shutdown_hears (pid : Pid) (timeouts : StopTimeouts) (s : Session σ) :
    Ends (shutdown pid timeouts : Task σ _) s
      (fun r s' => ∀ status, r = .ok (some status) → s.Hears pid status s') (fun _ _ => True) := by
  have hsignal (signal : Signal) : (signalTree pid signal : Task σ Unit).Within (Action.isEnding ·) :=
    (within_coversEnding (fun _ ha => ha) pid).signalTree pid signal
  refine ends_ask_bind ?_
  split
  · exact nofun
  · next known hknown =>
    -- the child has ended by itself
    refine ends_emit_bind fun status hstatus => ?_
    obtain rfl : known = status := Option.some.inj (Except.ok.inj hstatus)
    exact ⟨s, .refl s, hknown, .step s (a := .note (.foundEnded pid)) trivial⟩
  · refine ((hsignal .term).precedes s).bind fun _ a ha => ?_
    have hgrace : (waitExit pid (some timeouts.graceful) : Task σ _).Within (Action.isEnding ·) :=
      (within_coversEnding (fun _ ha => ha) pid).waitExit _
    refine ((hgrace.precedes a).and (waitExit_hears ha)).forget.bind fun r b ⟨hb, hheard⟩ => ?_
    split
    · -- the child has outlived the grace period
      refine ends_emit_bind ?_
      have hnoted : s.Precedes ((Action.note (.graceElapsed pid)).apply b) :=
        (ha.trans hb).tail trivial
      refine ((hsignal .kill).precedes _).bind fun _ c hc => ends_send_bind fun _ => ?_
      exact waitExit_hears ((hnoted.trans hc).trans (c.reaches_sent .kill (.process pid)).precedes)
    · exact hheard

end Task

end LatencyHarness
