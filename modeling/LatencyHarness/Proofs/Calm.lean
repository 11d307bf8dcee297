import LatencyHarness.Proofs.Books
import LatencyHarness.Proofs.Halts

/-! Tasks that come to their end.

A wait is broken off by a request for shutdown, and by nothing else. So where there are to be no
interruptions, a reclamation ends with its report and a teardown with its summary, whatever the
probes find and whatever becomes of the signals; only a probe could stand in its way, and none of
the standard ones does. -/
namespace LatencyHarness

variable {σ : Type} [Host σ] {α β : Type}

namespace Task

variable {t : Task σ α} {f : α → Task σ β}

/-- A task that ends with a value wherever it cannot be interrupted. -/
def Calm (t : Task σ α) : Prop :=
  ∀ s : Session σ, s.interruptible = false →
    Ends t s (fun _ s' => s'.interruptible = false) (fun _ _ => False)

theorem Smooth.calm (h : t.Smooth) : t.Calm := fun s hs =>
  (h s).mono (fun _ _ ⟨hr, _⟩ => hr.interruptible_eq.trans hs) fun _ _ h => h

namespace Calm

theorem pure (a : α) : (Pure.pure a : Task σ α).Calm := (Smooth.pure a).calm

omit [Host σ] in
theorem bind (ht : t.Calm) (hf : ∀ a, (f a).Calm) : (t >>= f).Calm := fun s hs =>
  (ht s hs).bind fun a s' hs' => hf a s' hs'

end Calm

omit [Host σ] in
/-- Where it may not be interrupted, a steady task ends with a value. -/
theorem Steady.calm (h : t.Steady) : t.Calm := by
  intro s hs
  have hends := h s
  rw [hs] at hends
  exact hends.mono (fun _ _ hs' => hs') fun e s' he => by simp at he

end Task

namespace Reclaimer

/-- All probes of a reclaimer come to an answer. -/
structure IsCalm (r : Reclaimer σ) : Prop where
  probes : ∀ p ∈ r.probes, ∀ q, (p.discover q).Calm
  sweeper : ∀ q, (r.sweeper.discover q).Calm

omit [Host σ] in
theorem IsSteady.isCalm {r : Reclaimer σ} (hr : r.IsSteady) : r.IsCalm where
  probes p hp q := (hr.probes p hp q).calm
  sweeper q := (hr.sweeper q).calm

theorem standard_isCalm (pacing : ReclaimPacing) : (standard pacing : Reclaimer σ).IsCalm :=
  (standard_isSteady pacing).isCalm

/-! ### Reclamation -/

theorem calm_covers : Covers fun α (t : Task σ α) => t.Calm where
  toIsClosed := ⟨.pure, .bind⟩
  isProtected pid := (Task.smooth_isProtected pid).calm
  forceKill pid := (Task.smooth_forceKill pid).calm
  sleep d := (Task.steady_sleep d).calm
  note _ := Task.Steady.calm (Task.haltsBy_emit _)

variable {r : Reclaimer σ}

theorem IsCalm.reclaim (hr : r.IsCalm) (ports : List Port) (patterns : List Pattern) :
    (r.reclaim ports patterns).Calm :=
  calm_covers.reclaim fun p hp => hr.probes p hp _

theorem IsCalm.sweep (hr : r.IsCalm) (patterns : List Pattern) : (r.sweep patterns).Calm :=
  calm_covers.runProbe _ (hr.sweeper _)

theorem IsCalm.escalate (hr : r.IsCalm) (ports : List Port) (patterns : List Pattern) :
    (r.escalate ports patterns).Calm :=
  calm_covers.escalate (Task.Steady.calm (Task.haltsBy_emit _)) (fun p hp => hr.probes p hp _)
    (hr.sweeper _)

end Reclaimer

/-! ### Teardowns -/

namespace Supervising

variable {t : Supervising σ α} {f : α → Supervising σ β}

/-- A task of the supervisor that ends with a value wherever it cannot be interrupted. -/
def Calm (t : Supervising σ α) : Prop :=
  ∀ v : Supervisor σ, v.session.interruptible = false →
    Ends t v (fun _ v' => v'.session.interruptible = false) (fun _ _ => False)

omit [Host σ] in
theorem Calm.bind (ht : t.Calm) (hf : ∀ a, (f a).Calm) : (t >>= f).Calm := fun v hv =>
  (ht v hv).bind fun a v' hv' => hf a v' hv'

omit [Host σ] in
theorem Calm.pure (a : α) : (Pure.pure a : Supervising σ α).Calm := fun _ hv => hv

omit [Host σ] in
theorem Calm.get : (MonadState.get : Supervising σ (Supervisor σ)).Calm := fun _ hv => hv

omit [Host σ] in
theorem Calm.lift {t : Task σ α} (ht : t.Calm) : (liftM t : Supervising σ α).Calm := fun v hv =>
  ends_lift (ht v.session hv)

theorem calm_forget (role : Role) (pid : Pid) : (forget role pid : Supervising σ Unit).Calm :=
  .bind (.lift (Task.smooth_stopForwarder pid).calm) fun _ =>
    .bind (.lift (Task.smooth_inFolder _).calm) fun _ _ hv => hv

theorem calm_covers (sv : Supervision σ) : Covers sv fun α (t : Supervising σ α) => t.Calm where
  toIsClosed := ⟨.pure, .bind⟩
  get := .get
  endStatus role t := .lift ((Task.steady_coversEnding t.pid).endStatus sv role).calm
  exitStatus? _ := .lift (Task.smooth_ask _).calm
  forget role pid := calm_forget role pid
  note _ := .lift (Task.Steady.calm (Task.haltsBy_emit _))

theorem calm_abandon (roles : List Role) : (abandon roles : Supervising σ Unit).Calm := by
  induction roles with
  | nil => exact .pure _
  | cons role roles ih =>
    refine .bind .get fun v => ?_
    match v.tracked role with
    | none => exact ih
    | some t => exact .bind (.lift (Task.smooth_release t.pid).calm) fun _ => ih

theorem calm_teardownAll {sv : Supervision σ} (hr : sv.reclaimer.IsCalm) :
    (teardownAll sv).Calm := by
  have hbegin : (modify fun v => { v with passes := v.passes + 1 } : Supervising σ Unit).Calm :=
    fun _ hv => hv
  have hnote : (liftM (Task.emit .teardownBegun : Task σ Unit) : Supervising σ Unit).Calm :=
    fun _ hv => hv
  refine hbegin.bind fun _ => hnote.bind fun _ => ?_
  exact .bind ((calm_covers sv).stopAll _) fun _ => .bind (.lift (hr.reclaim _ _)) fun _ =>
    .bind ((calm_covers sv).forgetReaped _) fun _ => .pure _

end Supervising

end LatencyHarness
