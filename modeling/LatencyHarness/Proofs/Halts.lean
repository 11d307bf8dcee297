import LatencyHarness.Controller
import LatencyHarness.Proofs.Orderly

/-! What can halt a task.

`Task.HaltsBy H` says of a task that nothing halts it but a request for shutdown, where it may be
interrupted, and what `H` admits. The loops of a run admit that the host's patience comes to an end;
a crash is admitted by the deadline of a wait for a marker, and by nothing else that a task does. -/
namespace LatencyHarness

variable {σ : Type} {α β : Type}

namespace Task

variable {H H' : Halt → Session σ → Prop} {t : Task σ α} {f : α → Task σ β}

/-- A task that is halted by a request for shutdown, where it may be interrupted, or as `H` admits,
and that leaves it alone whether it may be interrupted. -/
def HaltsBy (H : Halt → Session σ → Prop) (t : Task σ α) : Prop :=
  ∀ s, Ends t s (fun _ s' => s'.interruptible = s.interruptible)
    (fun e s' => (e = .interrupted ∧ s.interruptible = true) ∨ H e s')

/-- A task that nothing but a request for shutdown halts. -/
abbrev Steady (t : Task σ α) : Prop := t.HaltsBy fun _ _ => False

/-- A task that is halted besides only where the host's patience is at its end. -/
abbrev Lasting (t : Task σ α) : Prop := t.HaltsBy fun e _ => e = .exhausted

namespace HaltsBy

theorem mono (h : t.HaltsBy H) (hH : ∀ e s, H e s → H' e s) : t.HaltsBy H' := by
  intro s
  exact (h s).mono (fun _ _ hs => hs) fun e s' he => he.imp_right (hH e s')

theorem bind (ht : t.HaltsBy H) (hf : ∀ a, (f a).HaltsBy H) : (t >>= f).HaltsBy H := by
  intro s
  refine (ht s).bind fun a s₁ h₁ => ?_
  have hrest := hf a s₁
  rw [h₁] at hrest
  exact hrest

theorem ite {c : Prop} [Decidable c] {t u : Task σ α} (ht : t.HaltsBy H) (hu : u.HaltsBy H) :
    (if c then t else u).HaltsBy H := by
  split
  · exact ht
  · exact hu

theorem throw {e : Halt} (he : ∀ s, H e s) : (throw e : Task σ α).HaltsBy H := by
  intro s
  exact .inr (he s)

end HaltsBy

theorem Steady.haltsBy (h : t.Steady) : t.HaltsBy H := h.mono fun _ _ he => he.elim

/-- Whatever is known of the value of a steady task, only a request for shutdown halts it. -/
theorem Steady.halts (h : t.Steady) {s : Session σ} {Q : α → Session σ → Prop}
    {E : Halt → Session σ → Prop} (hends : Ends t s Q E) :
    Ends t s Q fun e _ => e = .interrupted ∧ s.interruptible = true :=
  (hends.and (h s)).mono (fun _ _ hq => hq.1) fun _ _ he => he.2.resolve_right id

section Basic

variable [Host σ]

theorem Smooth.haltsBy (h : t.Smooth) : t.HaltsBy H := by
  intro s
  exact (h s).mono (fun _ _ hs => hs.1.interruptible_eq) fun _ _ he => he.elim

theorem HaltsBy.pure (a : α) : (Pure.pure a : Task σ α).HaltsBy H := (Smooth.pure a).haltsBy

theorem HaltsBy.isClosed : IsClosed fun α (t : Task σ α) => t.HaltsBy H where
  pure := .pure
  bind := .bind

theorem HaltsBy.forIn {γ : Type} {g : γ → β → Task σ (ForInStep β)}
    (hg : ∀ c b, (g c b).HaltsBy H) (l : List γ) (b : β) : (forIn l b g).HaltsBy H :=
  isClosed.forIn hg l b

theorem haltsBy_emit (e : Event) : (emit e : Task σ Unit).HaltsBy H := by
  intro s
  rfl

omit [Host σ] in
theorem haltsBy_perform (g : σ → α × σ) : (perform g : Task σ α).HaltsBy H := by
  intro s
  rfl

/-- Of what follows a wait only the check of the token halts. -/
theorem steady_catchUp (a : α) :
    (do listen; forwardAll; checkpoint; return a : Task σ α).Steady := by
  intro s
  refine (listen_ends s).of_total.bind fun _ s₁ h₁ => ?_
  refine (smooth_forwardAll s₁).of_total.bind fun _ s₂ h₂ => ?_
  have hsame : s₂.interruptible = s.interruptible := (h₁.trans h₂.1).interruptible_eq
  have hcheck : Ends (checkpoint : Task σ Unit) s₂
      (fun _ s' => s'.interruptible = s.interruptible)
      (fun e _ => (e = .interrupted ∧ s.interruptible = true) ∨ False) := by
    change Ends (if s₂.interruptible && s₂.cancelled then throw Halt.interrupted
      else Pure.pure ()) s₂ _ _
    split
    · next hcut =>
      rw [Bool.and_eq_true] at hcut
      exact .inl ⟨rfl, hsame ▸ hcut.1⟩
    · exact hsame
  exact hcheck.bind fun _ _ h => h

theorem steady_await (w : Wait) (limit : Option Instant) :
    (await w limit : Task σ Unit).Steady := by
  intro s
  have h := steady_catchUp () ((Action.await w limit s.interruptible).apply s)
  rw [bind_pure_unit] at h
  exact h

theorem steady_sleep (d : Millis) : (sleep d : Task σ Unit).Steady :=
  (smooth_ask _).haltsBy.bind fun _ => steady_await _ _

theorem steady_capture (launch : Launch) (limit : Millis) :
    (capture launch limit : Task σ _).Steady := by
  intro s
  exact steady_catchUp _ ((Action.capture launch (some limit)).apply s)

theorem steady_coversEnding (pid : Pid) : CoversEnding pid fun α (t : Task σ α) => t.Steady where
  toIsClosed := HaltsBy.isClosed
  ownGroup := (smooth_ask _).haltsBy
  send signal recipient := (smooth_send signal recipient).haltsBy
  note _ := haltsBy_emit _
  exitStatus? := (smooth_ask _).haltsBy
  now := (smooth_ask _).haltsBy
  await _ := steady_await _ _

theorem steady_waitExit (pid : Pid) (limit : Option Millis) :
    (waitExit pid limit : Task σ _).Steady :=
  (steady_coversEnding pid).waitExit limit

/-- A stop ends, also that of a child which outlives it. -/
theorem steady_shutdown (pid : Pid) (timeouts : StopTimeouts) :
    (shutdown pid timeouts : Task σ _).Steady :=
  (steady_coversEnding pid).shutdown timeouts

end Basic

end Task

variable [Host σ]

/-! ### Reading, and the wait for a marker -/

theorem Reading.lasting_covers (pid : Pid) : Covers pid fun α (t : Task σ α) => t.Lasting where
  toIsClosed := Task.HaltsBy.isClosed
  now := (Task.smooth_ask _).haltsBy
  patience := (Task.smooth_ask _).haltsBy
  look r := (Task.smooth_lookOnce pid r).haltsBy
  await _ := (Task.steady_await _ _).haltsBy
  exhausted := .throw fun _ => rfl

namespace Watch

/-- Once the deadline is known, a wait does not crash. -/
theorem lasting_covers (pid : Pid) : Covers pid fun α (t : Task σ α) => t.Lasting where
  toCovers := Reading.lasting_covers pid
  print _ := (Task.smooth_print _).haltsBy
  undecodable := Task.haltsBy_emit _
  exitStatus? := (Task.smooth_ask _).haltsBy
  statusUnknown := Task.haltsBy_emit _
  sleep _ := (Task.steady_sleep _).haltsBy

/-- A halt for a deadline that the clock cannot represent. -/
def Overflows (timeout : Millis) (e : Halt) (s : Session σ) : Prop :=
  e = .crashed "overflow when adding duration to instant" ∧
    clockLimit ≤ Host.now s.host + timeout

/-- The deadline is computed exactly if the clock can represent it. -/
theorem deadline_ends (w : Watch) (s : Session σ) :
    Ends (w.deadline : Task σ _) s
      (fun d s' => s' = s ∧ d = Host.now s.host + w.timeout ∧ d < clockLimit)
      (fun e s' => s' = s ∧ Overflows w.timeout e s) := by
  refine Task.ends_ask_bind ?_
  by_cases hlt : Host.now s.host + w.timeout < clockLimit
  · simp only [hlt, if_true]
    exact ⟨rfl, rfl, hlt⟩
  · simp only [hlt, if_false]
    exact ⟨rfl, rfl, Nat.le_of_not_lt hlt⟩

/-- A wait for a marker crashes at its deadline, if at all. -/
theorem run_haltsBy (w : Watch) (pid : Pid) (r : LineReader) :
    (w.run pid r : Task σ _).HaltsBy fun e s => e = .exhausted ∨ Overflows w.timeout e s := by
  intro s
  have hdeadline : Ends (w.deadline : Task σ _) s (fun _ s' => s' = s)
      (fun e s' => (e = .interrupted ∧ s.interruptible = true) ∨
        (e = .exhausted ∨ Overflows w.timeout e s')) := by
    refine (w.deadline_ends s).mono (fun _ _ h => h.1) fun e s' ⟨hs', he⟩ => ?_
    rw [hs']
    exact .inr (.inr he)
  refine hdeadline.bind fun d s' hs' => ?_
  subst hs'
  refine Task.ends_ask_bind (((lasting_covers pid).rounds w d _ r s').mono (fun _ _ h => h) ?_)
  intro e s'' he
  exact he.imp_right .inl

end Watch

/-! ### Freeing ports -/

theorem Probe.steady_coversTools : CoversTools fun α (t : Task σ α) => t.Steady where
  toIsClosed := Task.HaltsBy.isClosed
  capture _ := Task.steady_capture _ _
  note _ _ _ := Task.haltsBy_emit _

namespace Reclaimer

/-- Nothing but a request for shutdown halts the probes of a reclaimer. -/
structure IsSteady (r : Reclaimer σ) : Prop where
  probes : ∀ p ∈ r.probes, ∀ q, (p.discover q).Steady
  sweeper : ∀ q, (r.sweeper.discover q).Steady

theorem standard_isSteady (pacing : ReclaimPacing) : (standard pacing : Reclaimer σ).IsSteady where
  probes p hp q := by
    simp only [standard, List.mem_cons, List.not_mem_nil, or_false] at hp
    rcases hp with rfl | rfl | rfl | rfl
    · exact Probe.steady_coversTools.lsof _ q
    · exact Probe.steady_coversTools.netstat _ q
    · exact (Probe.smooth_pattern q).haltsBy
    · exact (Probe.smooth_pidfile q).haltsBy
  sweeper q := (Probe.smooth_pattern q).haltsBy

theorem steady_covers : Covers fun α (t : Task σ α) => t.Steady where
  toIsClosed := Task.HaltsBy.isClosed
  isProtected pid := (Task.smooth_isProtected pid).haltsBy
  forceKill pid := (Task.smooth_forceKill pid).haltsBy
  sleep d := Task.steady_sleep d
  note _ := Task.haltsBy_emit _

variable {r : Reclaimer σ}

theorem IsSteady.reclaim (hr : r.IsSteady) (ports : List Port) (patterns : List Pattern) :
    (r.reclaim ports patterns).Steady :=
  steady_covers.reclaim fun p hp => hr.probes p hp _

theorem IsSteady.escalate (hr : r.IsSteady) (ports : List Port) (patterns : List Pattern) :
    (r.escalate ports patterns).Steady :=
  steady_covers.escalate (Task.haltsBy_emit _) (fun p hp => hr.probes p hp _) (hr.sweeper _)

theorem steady_coversPorts : CoversPorts fun α (t : Task σ α) => t.Steady where
  toCoversTools := Probe.steady_coversTools
  bindable _ := (Task.smooth_ask _).haltsBy
  notePort _ := Task.haltsBy_emit _

end Reclaimer

/-! ### Before the first launch, and the client -/

theorem Running.steady_busyPorts (r : Reclaimer σ) (ports : List Port) :
    (busyPorts r ports).Steady := by
  induction ports with
  | nil => exact .pure _
  | cons p ps ih =>
    have hfree := Reclaimer.steady_coversPorts.areFree r [p]
    exact hfree.bind fun _ => ih.bind fun _ => .pure _

theorem Running.steady_preflight {p : Plan σ} (hr : p.reclaimer.IsSteady) :
    (preflight p).Steady := by
  refine (Task.haltsBy_emit _).bind fun _ => (hr.reclaim _ _).bind fun _ => ?_
  refine (Reclaimer.steady_coversPorts.areFree p.reclaimer _).bind fun _ => .ite ?_ ?_
  · exact (Task.haltsBy_emit _).bind fun _ => .pure _
  -- the ports are still busy, so the sweep is repeated with more force
  refine (Task.haltsBy_emit _).bind fun _ => (hr.escalate _ _).bind fun _ => ?_
  refine (steady_busyPorts _ _).bind fun busy => .ite ?_ ?_
  · exact (Task.haltsBy_emit _).bind fun _ => .pure _
  · refine (Reclaimer.steady_coversPorts.bindings p.reclaimer busy).bind fun held => ?_
    have hsay := Task.HaltsBy.forIn (H := fun _ (_ : Session σ) => False)
      (fun (b : PortBinding) (_ : PUnit) => (Task.haltsBy_emit (.portStillHeld b.port b.owner)).bind
        fun _ => .pure (ForInStep.yield PUnit.unit)) held PUnit.unit
    exact hsay.bind fun _ => .pure _

theorem Client.steady_spawn (dir : Path) (l : Launch) : (spawn dir l : Task σ _).Steady := by
  refine (Task.haltsBy_emit _).bind fun _ => (Task.haltsBy_perform _).bind fun r => ?_
  match r with
  | .ok _ => exact (Task.haltsBy_emit _).bind fun _ => .pure _
  | .error _ => exact .pure _

theorem Client.lasting_stream (pid : Pid) (fuel : Nat) (r : LineReader) :
    (stream pid fuel r : Task σ Unit).Lasting := by
  induction fuel generalizing r with
  | zero => exact .throw fun _ => rfl
  | succ fuel ih =>
    refine ((Reading.lasting_covers pid).lineUntilClosed r).bind fun (r, bytes) => ?_
    match bytes with
    | none => exact .pure _
    | some _ => exact (Task.haltsBy_emit _).bind fun _ => ih r

theorem Client.lasting_wait (pid : Pid) : (wait pid : Task σ _).Lasting := by
  refine (Task.smooth_ask _).haltsBy.bind fun fuel => (lasting_stream pid fuel _).bind fun _ => ?_
  refine (Task.steady_waitExit pid none).haltsBy.bind fun r => ?_
  match r with
  | .ok (some _) => exact (Task.haltsBy_emit _).bind fun _ => .pure _
  | .ok none => exact .throw fun _ => rfl
  | .error _ => exact .pure _

end LatencyHarness
