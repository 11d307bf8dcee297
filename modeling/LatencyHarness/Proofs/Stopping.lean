import LatencyHarness.Proofs.Orderly
import Mathlib.Data.Set.Basic

/-! How a child is stopped.

A child that has not ended is sent the termination signal and is waited for; one that outlives the
grace period is sent the kill signal and is waited for again. On a host that answers for its
children, `Task.shutdown` either learns how the child ended or has seen it outlive both waits. -/
namespace LatencyHarness

variable {σ : Type} [Host σ]

/-- A host that answers for its children: it always says whether one has ended, keeps to that until
the next launch, and lets no wait for an end go by unless the end or the limit has come. -/
structure Host.IsReliable (σ : Type) [Host σ] : Prop where
  answers : ∀ pid (h : σ), ∃ status, Host.exitStatus? pid h = .ok status
  clock : ∀ (a : Action) (h : σ), Host.now h ≤ Host.now (a.onHost h)
  waits : ∀ pid limit (h : σ), let h' := Host.await (.exit pid) (some limit) false h
    (∃ status, Host.exitStatus? pid h' = .ok (some status)) ∨ limit ≤ Host.now h'
  remembers : ∀ (a : Action) pid status (h : σ), a.startsNothing = true →
    Host.exitStatus? pid h = .ok (some status) →
    Host.exitStatus? pid (a.onHost h) = .ok (some status)

namespace Action

/-- An action changes the host in one place only. -/
@[simp] theorem apply_host (s : Session σ) (a : Action) : (a.apply s).host = a.onHost s.host := by
  cases a <;> rfl

end Action

namespace Session

variable {s s' s'' : Session σ} {pid : Pid} {signal : Signal} {status : WaitStatus}

theorem Later.trans (h : s.Later s') (h' : s'.Later s'') : s.Later s'' := Reaches.trans h h'

/-- What the launch-free actions of a host keep is kept from one session to a later one. -/
theorem Later.keeps {P : σ → Prop} (h : s.Later s')
    (hP : ∀ (a : Action) (h : σ), a.startsNothing = true → P h → P (a.onHost h)) (hs : P s.host) :
    P s'.host := by
  refine Reaches.keeps (P := fun t => P t.host) (fun t a ha ht => ?_) h hs
  rw [Action.apply_host]
  exact hP a t.host ha ht

theorem Later.now_le (hσ : Host.IsReliable σ) (h : s.Later s') :
    Host.now s.host ≤ Host.now s'.host :=
  h.keeps (P := fun h' => Host.now s.host ≤ Host.now h')
    (fun a h' _ hle => Nat.le_trans hle (hσ.clock a h')) (Nat.le_refl _)

theorem Later.exitStatus? (hσ : Host.IsReliable σ) (h : s.Later s')
    (hs : Host.exitStatus? pid s.host = .ok (some status)) :
    Host.exitStatus? pid s'.host = .ok (some status) :=
  h.keeps (P := fun h' => Host.exitStatus? pid h' = .ok (some status))
    (fun a h' ha hh => hσ.remembers a pid status h' ha hh) hs

theorem HasLearnt.exitStatus? (hσ : Host.IsReliable σ) (h : s.HasLearnt pid status) :
    Host.exitStatus? pid s.host = .ok (some status) := by
  obtain ⟨t, hstatus, ht⟩ := h
  exact ht.exitStatus? hσ hstatus

/-- The session after a signal has been sent. -/
def sent (s : Session σ) (signal : Signal) (r : Recipient) : Session σ :=
  (Action.signal signal r).apply ((Action.note (.sent signal r)).apply s)

/-- The host's answer to a signal. -/
def answer (s : Session σ) (signal : Signal) (r : Recipient) : Except SystemError Unit :=
  (Host.signal signal r ((Action.note (.sent signal r)).apply s).host).1

theorem reaches_sent (s : Session σ) (signal : Signal) (r : Recipient) :
    s.Reaches (Action.isBackground ·) (s.sent signal r) := by
  have hnoted : s.Reaches (Action.isBackground ·) ((Action.note (.sent signal r)).apply s) :=
    .step s rfl
  exact hnoted.tail (a := .signal signal r) rfl

end Session

/-- A host whose processes obey. `members` are the living processes of the group that a child
leads. A group that has been sent the termination signal has no member left but its leader, and
gains none; one that has been sent the kill signal has none at all. -/
structure Host.IsObedient (members : Pid → σ → Set Pid) : Prop where
  answers : ∀ pid (h : σ), ∃ status, Host.exitStatus? pid h = .ok status
  leads : ∀ dir l pid (h : σ), (Host.spawn dir l h).1 = .ok pid → Host.ownGroup h ≠ pid
  ownGroup : ∀ (a : Action) (h : σ), Host.ownGroup (a.onHost h) = Host.ownGroup h
  ended : ∀ pid status (h : σ), Host.exitStatus? pid h = .ok (some status) → pid ∉ members pid h
  term : ∀ pid (s s' : Session σ), (s.sent .term (.group pid)).Later s' →
    members pid s'.host ⊆ {pid}
  kill : ∀ pid (s s' : Session σ), (s.sent .kill (.group pid)).Later s' → members pid s'.host = ∅
  empty : ∀ pid (a : Action) (h : σ), a.startsNothing = true → members pid h = ∅ →
    members pid (a.onHost h) = ∅

/-- A host whose children lead groups of their own: none is at the head of the group that the
harness is in. -/
structure Host.IsGrouped (σ : Type) [Host σ] : Prop where
  leads : ∀ dir l pid (h : σ), (Host.spawn dir l h).1 = .ok pid → Host.ownGroup h ≠ pid
  ownGroup : ∀ (a : Action) (h : σ), Host.ownGroup (a.onHost h) = Host.ownGroup h

theorem Host.IsObedient.isGrouped {members : Pid → σ → Set Pid} (hσ : Host.IsObedient members) :
    Host.IsGrouped σ := ⟨hσ.leads, hσ.ownGroup⟩

namespace Session

variable {s s' s'' : Session σ} {pid : Pid} {signal : Signal}

/-- On the way from one session to the other a process, or the group that it leads, has been sent
a signal. -/
def Signals (s : Session σ) (signal : Signal) (pid : Pid) (s' : Session σ) : Prop :=
  ∃ t r, (r = .group pid ∨ r = .process pid) ∧ s.Later t ∧ (t.sent signal r).Later s'

/-- On the way from one session to the other a process has been sent the termination signal and
has outlived the grace period, then the kill signal, and has outlived the wait after that too. -/
structure Outlives (s : Session σ) (timeouts : StopTimeouts) (pid : Pid) (s' : Session σ) :
    Prop where
  passes : ∃ a b c d, s.Signals .term pid a ∧ a.Later b ∧
    Host.now a.host + timeouts.graceful ≤ Host.now b.host ∧
    Host.exitStatus? pid b.host = .ok none ∧ b.Signals .kill pid c ∧ c.Later d ∧
    Host.now c.host + timeouts.forceful ≤ Host.now d.host ∧
    Host.exitStatus? pid d.host = .ok none ∧ d.Later s'

theorem Outlives.widen {timeouts : StopTimeouts} {t t' : Session σ} (h : s.Outlives timeouts pid s')
    (ht : t.Later s) (ht' : s'.Later t') : t.Outlives timeouts pid t' := by
  obtain ⟨a, b, c, d, ⟨u, r, hr, hu, ha⟩, hab, hgrace, hb, hkill, hcd, hforce, hd, hs'⟩ := h.passes
  exact ⟨a, b, c, d, ⟨u, r, hr, ht.trans hu, ha⟩, hab, hgrace, hb, hkill, hcd, hforce, hd,
    hs'.trans ht'⟩

end Session

namespace Task

variable {α : Type} {s : Session σ}

/-- The recipient that a child is first signalled by. -/
def recipient (pid : Pid) (h : σ) : Recipient :=
  if Host.ownGroup h ≠ pid then .group pid else .process pid

theorem ends_send_bind {signal : Signal} {r : Recipient} {f : Except SystemError Unit → Task σ α}
    {Q : α → Session σ → Prop} {E : Halt → Session σ → Prop}
    (h : ∀ x, Ends (f x) (s.sent signal r) Q E) : Ends (send signal r >>= f) s Q E := h _

theorem ends_answer_bind {signal : Signal} {r : Recipient} {f : Except SystemError Unit → Task σ α}
    {Q : α → Session σ → Prop} {E : Halt → Session σ → Prop}
    (h : Ends (f (s.answer signal r)) (s.sent signal r) Q E) :
    Ends (send signal r >>= f) s Q E := h

/-- What follows a smooth task that ends with no value of interest. -/
theorem Smooth.ends_from {t : Task σ α} (ht : t.Smooth) {s₀ : Session σ}
    (h : s₀.Reaches (Action.isBackground ·) s) :
    Ends t s (fun _ s' => s₀.Reaches (Action.isBackground ·) s') (fun _ _ => False) :=
  (ht s).mono (fun _ _ h' => h.trans h'.1) fun _ _ h' => h'

/-- An id that the operating system takes is signalled. -/
theorem signalTree_eq {pid : Pid} (hpid : pid.toNat ≤ maxOsPid) (signal : Signal) :
    (signalTree pid signal : Task σ Unit) = (do
      if (← ask Host.ownGroup) ≠ pid then
        match ← send signal (.group pid) with
        | .ok () => return
        | .error _ => emit .groupUnreachable
      signalProcess pid signal) := by
  unfold signalTree
  rw [osPid?_of_le hpid]
  rfl

/-- The group that a child leads is signalled first, unless it is our own. -/
theorem signalTree_ends {pid : Pid} (hpid : pid.toNat ≤ maxOsPid) (signal : Signal)
    (s : Session σ) :
    Ends (signalTree pid signal : Task σ Unit) s
      (fun _ s' => (s.sent signal (recipient pid s.host)).Reaches (Action.isBackground ·) s')
      (fun _ _ => False) := by
  rw [signalTree_eq hpid]
  refine ends_ask_bind ?_
  unfold recipient
  split
  · -- the process alone is signalled only where its group cannot be reached
    refine ends_send_bind fun r => ?_
    match r with
    | .ok () => exact .refl _
    | .error _ =>
      have hone : (do emit .groupUnreachable; signalProcess pid signal : Task σ Unit).Smooth :=
        (smooth_emit rfl).bind fun _ => smooth_signalProcess pid signal
      exact hone.ends_from (.refl _)
  · refine ends_send_bind fun r => ?_
    split
    · exact .refl _
    · exact .refl _
    · exact (smooth_emit rfl).ends_from (.refl _)

theorem signalTree_signals {pid : Pid} (hpid : pid.toNat ≤ maxOsPid) (signal : Signal)
    (s : Session σ) :
    Ends (signalTree pid signal : Task σ Unit) s (fun _ s' => s.Signals signal pid s')
      (fun _ _ => False) := by
  refine (signalTree_ends hpid signal s).mono (fun _ s' h => ?_) fun _ _ h => h
  refine ⟨s, recipient pid s.host, ?_, .refl s, h.later⟩
  unfold recipient
  split
  · exact .inl rfl
  · exact .inr rfl

/-! ### The wait for an end -/

/-- A wait for an end that cannot be cut short learns of the end, or its limit has passed. -/
theorem waitExit_ends (hσ : Host.IsReliable σ) (pid : Pid) (limit : Millis)
    (hs : s.interruptible = false) :
    Ends (waitExit pid (some limit) : Task σ _) s
      (fun r s' => ∃ status, r = .ok status ∧ Host.exitStatus? pid s'.host = .ok status ∧
        (status = none → Host.now s.host + limit ≤ Host.now s'.host)) (fun _ _ => True) := by
  refine ends_ask_bind ?_
  obtain ⟨status, hstatus⟩ := hσ.answers pid s.host
  rw [hstatus]
  cases status with
  | some status => exact ⟨some status, rfl, hstatus, nofun⟩
  | none =>
    refine ends_ask_bind ?_
    let deadline := Host.now s.host + limit
    let waited := (Action.await (.exit pid) (some deadline) false).apply s
    have hwait : Ends (await (.exit pid) (some deadline) : Task σ Unit) s
        (fun _ s' => waited.Later s') (fun _ _ => True) := by
      have hrest := catchUp_ends (.refl waited) ()
      rw [bind_pure_unit] at hrest
      have hcut : (Action.await (.exit pid) (some deadline) s.interruptible).apply s = waited := by
        rw [hs]
      rw [← hcut] at hrest ⊢
      exact hrest.weaken fun _ _ h => h.reaches.later
    refine hwait.bind fun _ s' hs' => ?_
    obtain ⟨status', hstatus'⟩ := hσ.answers pid s'.host
    refine ⟨status', hstatus', hstatus', fun hnone => ?_⟩
    subst hnone
    -- an end that had come by then would still be known
    rcases hσ.waits pid deadline s.host with ⟨known, hknown⟩ | hpassed
    · have hstill : Host.exitStatus? pid s'.host = .ok (some known) := hs'.exitStatus? hσ hknown
      rw [hstatus'] at hstill
      exact absurd hstill nofun
    · exact Nat.le_trans hpassed (hs'.now_le hσ)

/-! ### The whole stop -/

/-- A child that has ended gets no signal: neither it nor the group that it led. -/
theorem shutdown_of_ended {pid : Pid} {status : WaitStatus} (timeouts : StopTimeouts)
    (h : Host.exitStatus? pid s.host = .ok (some status)) :
    (shutdown pid timeouts : Task σ _) s =
      .ok (.ok (some status)) ((Action.note (.foundEnded pid)).apply s) := by
  have hask : (ask (Host.exitStatus? pid) : Task σ _) s = .ok (.ok (some status)) s :=
    congrArg (EStateM.Result.ok · s) h
  simp only [shutdown, Bind.bind, EStateM.bind, hask]
  rfl

/-- A child that is ended by force is known to have ended, or it has outlived the wait. -/
theorem endByForce_ends (hσ : Host.IsReliable σ) (pid : Pid) (limit : Millis)
    (hs : s.interruptible = false) :
    Ends (endByForce pid limit : Task σ _) s
      (fun r s' => ∃ status, r = .ok status ∧ Host.exitStatus? pid s'.host = .ok status ∧
        (status = none → ∃ c, s.Signals .kill pid c ∧ c.Later s' ∧
          Host.now c.host + limit ≤ Host.now s'.host)) (fun _ _ => True) := by
  let noted := (Action.note (.graceElapsed pid)).apply s
  have hnoted : s.Reaches (Action.isBackground ·) noted := .step s rfl
  refine ends_emit_bind ?_
  have hgroup : Ends (signalTree pid .kill : Task σ Unit) noted
      (fun _ t => s.Reaches (Action.isBackground ·) t) (fun _ _ => True) :=
    ((smooth_signalTree pid .kill).ends_from hnoted).forget
  refine hgroup.bind fun _ t ht => ?_
  -- whatever has become of the group, the child itself is sent the signal once more
  refine ends_send_bind fun _ => ?_
  let c := t.sent .kill (.process pid)
  have hc : s.Reaches (Action.isBackground ·) c := ht.trans (t.reaches_sent _ _)
  have hkilled : s.Signals .kill pid c := ⟨t, .process pid, .inr rfl, ht.later, .refl c⟩
  have hcalm : c.interruptible = false := hc.interruptible_eq.trans hs
  have hwait := (waitExit_ends hσ pid limit hcalm).and ((orderly_waitExit pid (some limit)).ends c)
  refine hwait.weaken ?_
  rintro r s' ⟨⟨status, hr, hstatus, hpassed⟩, hs'⟩
  exact ⟨status, hr, hstatus, fun hnone => ⟨c, hkilled, hs'.reaches.later, hpassed hnone⟩⟩

/-- After a stop the end of the child is known, or the child has outlived it. -/
theorem shutdown_ends (hσ : Host.IsReliable σ) {pid : Pid} (hpid : pid.toNat ≤ maxOsPid)
    (timeouts : StopTimeouts) (hs : s.interruptible = false) :
    Ends (shutdown pid timeouts : Task σ _) s
      (fun r s' => ∃ status, r = .ok status ∧ Host.exitStatus? pid s'.host = .ok status ∧
        (status = none → s.Outlives timeouts pid s')) (fun _ _ => True) := by
  refine ends_ask_bind ?_
  obtain ⟨status, hstatus⟩ := hσ.answers pid s.host
  rw [hstatus]
  cases status with
  | some status =>
    have hnoted : s.Later ((Action.note (.foundEnded pid)).apply s) := .step s rfl
    exact ⟨some status, rfl, hnoted.exitStatus? hσ hstatus, nofun⟩
  | none =>
    -- the termination signal
    have hterm := (signalTree_signals hpid .term s).and (smooth_signalTree pid .term s)
    refine hterm.forget.bind fun _ a ⟨ha, hsa, _⟩ => ?_
    have hcalm : a.interruptible = false := hsa.interruptible_eq.trans hs
    -- the grace period
    have hgrace := (waitExit_ends hσ pid timeouts.graceful hcalm).and
      ((orderly_waitExit pid (some timeouts.graceful)).ends a)
    refine hgrace.forget.bind fun r b ⟨⟨status, hr, hb, hgraceful⟩, hab⟩ => ?_
    subst hr
    cases status with
    | some status => exact ⟨some status, rfl, hb, nofun⟩
    | none =>
      have hcalm' : b.interruptible = false := hab.reaches.interruptible_eq.trans hcalm
      refine (endByForce_ends hσ pid timeouts.forceful hcalm').mono ?_ fun _ _ h => h
      rintro r d ⟨status, hr, hd, hforceful⟩
      refine ⟨status, hr, hd, fun hnone => ?_⟩
      -- both waits have gone by without an end
      obtain ⟨c, hkilled, hcd, hpassed⟩ := hforceful hnone
      rw [hnone] at hd
      exact ⟨a, b, c, d, ha, hab.reaches.later, hgraceful rfl, hb, hkilled, hcd, hpassed, hd,
        .refl d⟩

end Task

end LatencyHarness
