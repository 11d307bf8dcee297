import LatencyHarness.Proofs.Kills
import LatencyHarness.Proofs.Series
import LatencyHarness.Proofs.Survivors
import LatencyHarness.Simulation.Holdout

/-! How a stop goes from asking to force.

A stop takes one of three courses. A child that has ended gets no signal. Any other child is sent the
termination signal, with its whole group; if its end is known within the grace period, that is all.
Only a child that outlives the grace period is sent the kill signal. What a stop has learnt of an end
stays: from then on a stop gives the same status, and sends nothing. -/
namespace LatencyHarness

variable {σ : Type} [Host σ]

namespace Action

/-- An action by which no other child gets this id. -/
def reserves (pid : Pid) (h : σ) : Action → Prop
  | spawn dir l => (Host.spawn dir l h).1 ≠ .ok pid
  | _ => True

/-- The actions by which no signal is sent and no program is launched. -/
def isSilent (a : Action) : Bool := a.sendsNothing && a.startsNothing

theorem isSilent_of_isWaiting {a : Action} (h : a.isWaiting = true) : a.isSilent = true := by
  have hsends : a.sendsNothing = true := sendsNothing_of_isWaiting h
  cases a with
  | spawn dir l => exact absurd h nofun
  | _ => simpa [isSilent, startsNothing] using hsends

end Action

/-- A host that answers for its children, which lead groups of their own, and that still knows of an
end when other children are launched. -/
structure Host.IsFaithful (σ : Type) [Host σ] : Prop extends Host.IsReliable σ, Host.IsGrouped σ where
  recalls : ∀ (a : Action) pid status (h : σ), a.reserves pid h →
    Host.exitStatus? pid h = .ok (some status) →
    Host.exitStatus? pid (a.onHost h) = .ok (some status)

namespace Session

variable {s s' t u : Session σ} {pid : Pid} {signal : Signal}

/-- Anything may have happened from one session to the other, but that another child has got the
id. -/
def Reserves (pid : Pid) : Session σ → Session σ → Prop :=
  Relation.ReflTransGen fun s s' => ∃ a : Action, a.reserves pid s.host ∧ s' = a.apply s

theorem Reserves.exitStatus? (hσ : Host.IsFaithful σ) {status : WaitStatus} (h : s.Reserves pid s')
    (hs : Host.exitStatus? pid s.host = .ok (some status)) :
    Host.exitStatus? pid s'.host = .ok (some status) := by
  -- along the actions, from the first one to the last
  induction h with
  | refl => exact hs
  | tail _ hstep ih =>
    obtain ⟨a, ha, rfl⟩ := hstep
    rw [Action.apply_host]
    exact hσ.recalls a pid status _ ha ih

/-! ### Signals -/

/-- From one session to the other a signal is sent. -/
def Sends (s : Session σ) (x : Signal × Recipient) (s' : Session σ) : Prop := s' = s.sent x.1 x.2

/-- Between two sessions these signals are sent, in this order, and no others; nor is any program
launched. -/
abbrev Signalled (s : Session σ) (xs : List (Signal × Recipient)) (s' : Session σ) : Prop :=
  Series (Action.isSilent ·) Sends s xs s'

theorem signalled_sent (s : Session σ) (signal : Signal) (r : Recipient) :
    s.Signalled [(signal, r)] (s.sent signal r) := .one (show Sends s (signal, r) _ from rfl)

theorem Signalled.later {xs : List (Signal × Recipient)} (h : s.Signalled xs s') : s.Later s' := by
  refine h.reaches (fun a ha => ((Bool.and_eq_true _ _).mp ha).2) fun t x u hx => ?_
  subst hx
  exact (reaches_sent _ _ _).later

/-- What is sent to signal the whole group of a child: the child gets the signal alone if the host
has refused to pass it to the group. -/
def volley (s : Session σ) (signal : Signal) (pid : Pid) : List (Signal × Recipient) :=
  match s.answer signal (.group pid) with
  | .ok () => [(signal, .group pid)]
  | .error _ => [(signal, .group pid), (signal, .process pid)]

/-- What is sent to kill a child whose grace period has gone by: its whole group gets the signal, and
the child alone once more. -/
def force (s : Session σ) (pid : Pid) : List (Signal × Recipient) :=
  ((Action.note (.graceElapsed pid)).apply s).volley .kill pid ++ [(.kill, .process pid)]

/-- A stop takes one of three courses, from one session to another, and learns how the child has
ended or that it has not. -/
inductive Escalates (pid : Pid) (timeouts : StopTimeouts) (s : Session σ) :
    Option WaitStatus → Session σ → Prop
  /-- The child has ended before: nobody is sent a signal. -/
  | ended {status : WaitStatus} {s' : Session σ}
    (hended : Host.exitStatus? pid s.host = .ok (some status))
    (hquiet : s.Signalled [] s') : Escalates pid timeouts s (some status) s'
  /-- The end of the child is known by the end of the grace period. -/
  | yields {status : WaitStatus} {a s' : Session σ} (halive : Host.exitStatus? pid s.host = .ok none)
    (hterm : s.Signalled (s.volley .term pid) a) (hwait : a.Signalled [] s')
    (hended : Host.exitStatus? pid s'.host = .ok (some status)) :
    Escalates pid timeouts s (some status) s'
  /-- The child outlives the grace period and is killed: its end is known by the end of a second
  wait, or it outlives that too. -/
  | resists {status : Option WaitStatus} {a b c s' : Session σ}
    (halive : Host.exitStatus? pid s.host = .ok none)
    (hterm : s.Signalled (s.volley .term pid) a) (hgrace : a.Signalled [] b)
    (helapsed : Host.now a.host + timeouts.graceful ≤ Host.now b.host)
    (hresists : Host.exitStatus? pid b.host = .ok none)
    (hkill : b.Signalled (b.force pid) c) (hwait : c.Signalled [] s')
    (hend : Host.exitStatus? pid s'.host = .ok status)
    (hlast : status = none → Host.now c.host + timeouts.forceful ≤ Host.now s'.host) :
    Escalates pid timeouts s status s'

namespace Escalates

variable {timeouts : StopTimeouts} {status : Option WaitStatus}

theorem later (h : s.Escalates pid timeouts status s') : s.Later s' := by
  cases h with
  | ended _ hquiet => exact hquiet.later
  | yields _ hterm hwait _ => exact hterm.later.trans hwait.later
  | resists _ hterm hgrace _ _ hkill hwait _ _ =>
    exact ((hterm.later.trans hgrace.later).trans hkill.later).trans hwait.later

/-- What a stop learns is what the host says after it. -/
theorem exitStatus?_eq (hσ : Host.IsReliable σ) (h : s.Escalates pid timeouts status s') :
    Host.exitStatus? pid s'.host = .ok status := by
  cases h with
  | ended hended hquiet => exact hquiet.later.exitStatus? hσ hended
  | yields _ _ _ hended => exact hended
  | resists _ _ _ _ _ _ _ hend _ => exact hend

/-- A stop learns of an end exactly if it has come by then. -/
theorem eq_some_iff (hσ : Host.IsReliable σ) (h : s.Escalates pid timeouts status s')
    (known : WaitStatus) : status = some known ↔
      ∃ t, s.Later t ∧ t.Later s' ∧ Host.exitStatus? pid t.host = .ok (some known) := by
  have hend := h.exitStatus?_eq hσ
  constructor
  · rintro rfl
    exact ⟨s', h.later, .refl s', hend⟩
  · rintro ⟨t, -, hts', ht⟩
    have hknown := hts'.exitStatus? hσ ht
    exact Except.ok.inj (hend.symm.trans hknown)

theorem eq_none_iff (hσ : Host.IsReliable σ) (h : s.Escalates pid timeouts status s') :
    status = none ↔ ∀ t, s.Later t → t.Later s' → Host.exitStatus? pid t.host = .ok none := by
  constructor
  · intro hnone t hst hts'
    obtain ⟨seen, hseen⟩ := hσ.answers pid t.host
    cases seen with
    | none => exact hseen
    | some known =>
      -- an end that was known on the way would be known now
      have hknown := (h.eq_some_iff hσ known).mpr ⟨t, hst, hts', hseen⟩
      exact absurd (hnone.symm.trans hknown) nofun
  · intro hnever
    have hlast := hnever s' h.later (.refl s')
    exact Except.ok.inj ((h.exitStatus?_eq hσ).symm.trans hlast)

end Escalates

end Session

namespace Task

variable {s : Session σ} {pid : Pid}

theorem signalProcess_sends (pid : Pid) (signal : Signal) (s : Session σ) :
    Ends (signalProcess pid signal : Task σ Unit) s
      (fun _ s' => s.Signalled [(signal, .process pid)] s') (fun _ _ => False) := by
  have hsent := s.signalled_sent signal (.process pid)
  -- whatever the answer, at most a note follows
  refine ends_send_bind fun r => ?_
  split
  · exact hsent
  · exact hsent
  · exact hsent.after (.step _ (a := .note (.signalFailed signal)) rfl)

theorem signalTree_sends (signal : Signal) (hpid : pid.toNat ≤ maxOsPid)
    (hgroup : Host.ownGroup s.host ≠ pid) :
    Ends (signalTree pid signal : Task σ Unit) s
      (fun _ s' => s.Signalled (s.volley signal pid) s') (fun _ _ => False) := by
  have hsent := s.signalled_sent signal (.group pid)
  rw [signalTree_eq hpid]
  refine ends_ask_bind ?_
  rw [if_pos hgroup]
  refine ends_answer_bind ?_
  unfold Session.volley
  cases s.answer signal (.group pid) with
  | ok _ => exact hsent
  | error _ =>
    -- the group could not be reached, so the signal goes to the child alone
    let noted := (Action.note .groupUnreachable).apply (s.sent signal (.group pid))
    have hnoted : (s.sent signal (.group pid)).Signalled [] noted :=
      .done (.step _ (a := .note .groupUnreachable) rfl)
    refine ends_emit_bind ((signalProcess_sends pid signal noted).mono ?_ fun _ _ h => h)
    exact fun _ s' h => hsent.append (hnoted.append h)

theorem within_waitExit (pid : Pid) (limit : Option Millis) :
    (waitExit pid limit : Task σ _).Within (Action.isWaiting ·) := by
  refine (within_ask _).bind fun r => ?_
  match r with
  | .ok none =>
    exact (within_ask _).bind fun _ => (within_await (fun _ ha => ha) _ _).bind fun _ => within_ask _
  | .ok (some _) | .error _ => exact .pure _

/-- A wait for an end sends nothing. It ends as soon as the end is known, or with the time that it is
given. -/
theorem waitExit_waits (hσ : Host.IsReliable σ) (pid : Pid) (limit : Millis)
    (hs : s.interruptible = false) :
    Ends (waitExit pid (some limit) : Task σ _) s
      (fun r s' => s.Signalled [] s' ∧ ∃ status, r = .ok status ∧
        Host.exitStatus? pid s'.host = .ok status ∧
        (status = none → Host.now s.host + limit ≤ Host.now s'.host))
      (fun _ _ => False) := by
  have hcalm := (steady_waitExit pid (some limit)).calm s hs
  have hwait := (hcalm.also (within_waitExit pid (some limit) s)).also (waitExit_ends hσ pid limit hs)
  refine hwait.mono ?_ fun _ _ h => h
  rintro r s' ⟨⟨-, hreach⟩, hends⟩
  exact ⟨.done (hreach.mono fun _ => Action.isSilent_of_isWaiting), hends⟩

/-- A child is killed with its group, and alone once more. -/
theorem endByForce_sends (hσ : Host.IsFaithful σ) (limit : Millis) (hs : s.interruptible = false)
    (hpid : pid.toNat ≤ maxOsPid) (hgroup : Host.ownGroup s.host ≠ pid) :
    Ends (endByForce pid limit : Task σ _) s
      (fun r s' => ∃ status c, r = .ok status ∧ s.Signalled (s.force pid) c ∧
        c.Signalled [] s' ∧ Host.exitStatus? pid s'.host = .ok status ∧
        (status = none → Host.now c.host + limit ≤ Host.now s'.host))
      (fun _ _ => False) := by
  let noted := (Action.note (.graceElapsed pid)).apply s
  have hnoted : s.Reaches (Action.isBackground ·) noted := .step s rfl
  have hquiet : s.Signalled [] noted := .done (.step s (a := .note (.graceElapsed pid)) rfl)
  have hgroup' : Host.ownGroup noted.host ≠ pid := by
    rwa [hnoted.ownGroup_eq hσ.toIsGrouped]
  refine ends_emit_bind ?_
  have hkill := (signalTree_sends .kill hpid hgroup').also (smooth_signalTree pid .kill noted)
  refine hkill.bind fun _ t ⟨hsent, ht, _⟩ => ends_send_bind fun _ => ?_
  let c := t.sent .kill (.process pid)
  have hc : s.Reaches (Action.isBackground ·) c := (hnoted.trans ht).trans (t.reaches_sent _ _)
  have hcalm : c.interruptible = false := hc.interruptible_eq.trans hs
  refine (waitExit_waits hσ.toIsReliable pid limit hcalm).mono ?_ fun _ _ h => h
  rintro r s' ⟨hwait, status, hr, hend, hlast⟩
  -- the signals of both kinds, in the order in which they have been sent
  have hkilled := hquiet.append (hsent.append (t.signalled_sent .kill (.process pid)))
  exact ⟨status, c, hr, hkilled, hwait, hend, hlast⟩

/-- A stop takes one of the three courses. -/
theorem shutdown_takes_course (hσ : Host.IsFaithful σ) (timeouts : StopTimeouts)
    (hs : s.interruptible = false) (hpid : pid.toNat ≤ maxOsPid)
    (hgroup : Host.ownGroup s.host ≠ pid) :
    Ends (shutdown pid timeouts : Task σ _) s
      (fun r s' => ∃ status, r = .ok status ∧ s.Escalates pid timeouts status s')
      (fun _ _ => False) := by
  obtain ⟨status, hstatus⟩ := hσ.answers pid s.host
  refine ends_ask_bind ?_
  rw [hstatus]
  cases status with
  | some status =>
    have hquiet : s.Signalled [] ((Action.note (.foundEnded pid)).apply s) :=
      .done (.step s (a := .note (.foundEnded pid)) rfl)
    exact ends_emit_bind ⟨some status, rfl, .ended hstatus hquiet⟩
  | none =>
    have hterm := (signalTree_sends .term hpid hgroup).also (smooth_signalTree pid .term s)
    refine hterm.bind fun _ a ⟨hsent, ha, _⟩ => ?_
    have hcalm : a.interruptible = false := ha.interruptible_eq.trans hs
    -- the child yields in the grace period, or it is killed
    have hgrace := (waitExit_waits hσ.toIsReliable pid timeouts.graceful hcalm).also
      (steady_waitExit pid (some timeouts.graceful) a)
    refine hgrace.bind ?_
    rintro r b ⟨⟨hwait, status, rfl, hb, helapsed⟩, hcut⟩
    cases status with
    | some status => exact ⟨some status, rfl, .yields hstatus hsent hwait hb⟩
    | none =>
      have hgroup' : Host.ownGroup b.host ≠ pid := by
        rwa [Session.Reaches.ownGroup_eq hσ.toIsGrouped (hsent.later.trans hwait.later)]
      refine (endByForce_sends hσ timeouts.forceful (hcut.trans hcalm) hpid hgroup').mono ?_
        fun _ _ h => h
      rintro r s' ⟨status, c, rfl, hkill, hlast, hend, hpassed⟩
      exact ⟨status, rfl, .resists hstatus hsent hwait (helapsed rfl) hb hkill hlast hend hpassed⟩

/-- Stops of a child whose end is known give its status, each of them, and send nothing. -/
theorem shutdown_again (hσ : Host.IsReliable σ) {known : WaitStatus} (again : List StopTimeouts)
    (h : Host.exitStatus? pid s.host = .ok (some known)) :
    Ends (again.mapM (shutdown pid) : Task σ _) s
      (fun rs s' => rs = again.map (fun _ => .ok (some known)) ∧ s.Signalled [] s')
      (fun _ _ => False) := by
  -- the status is known before each of the stops, since nothing is launched by the others
  induction again generalizing s with
  | nil => exact ⟨rfl, .refl s⟩
  | cons timeouts again ih =>
    let noted := (Action.note (.foundEnded pid)).apply s
    have hnoted : s.Signalled [] noted := .done (.step s (a := .note (.foundEnded pid)) rfl)
    have hstop : Ends (shutdown pid timeouts : Task σ _) s
        (fun r s' => r = .ok (some known) ∧ s' = noted) (fun _ _ => False) := by
      unfold Ends
      rw [shutdown_of_ended timeouts h]
      exact ⟨rfl, rfl⟩
    rw [List.mapM_cons]
    refine hstop.bind ?_
    rintro r s₁ ⟨rfl, rfl⟩
    refine (ih (hnoted.later.exitStatus? hσ h)).bind ?_
    rintro rs s₂ ⟨rfl, hquiet⟩
    exact ⟨rfl, hnoted.append hquiet⟩

/-- A stop asks before it forces, and learns of an end if there is one to learn of.

If the child has ended, its status is given and nobody is sent a signal. Otherwise the whole group of
the child is sent the termination signal first; the kill signal follows only if the grace period has
gone by and the child is not known to have ended. The stop always comes to its end. It gives a status
exactly if the host has told of it by then, and none exactly if there has been nothing to tell. Once
a status has been given, further stops give the same one and send nothing, as long as no other child
gets the id. -/
theorem shutdown_asks_before_it_forces (hσ : Host.IsFaithful σ) (hspawned : s.HasSpawned pid)
    (hs : s.interruptible = false) (timeouts : StopTimeouts) :
    ∃ status s', (shutdown pid timeouts : Task σ _) s = .ok (.ok status) s' ∧
      s.Escalates pid timeouts status s' ∧
      (∀ known, status = some known ↔
        ∃ t, s.Later t ∧ t.Later s' ∧ Host.exitStatus? pid t.host = .ok (some known)) ∧
      (status = none ↔
        ∀ t, s.Later t → t.Later s' → Host.exitStatus? pid t.host = .ok none) ∧
      ∀ known, status = some known → ∀ t, s'.Reserves pid t → ∀ again : List StopTimeouts,
        ∃ t', (again.mapM (shutdown pid) : Task σ _) t =
            .ok (again.map fun _ => .ok (some known)) t' ∧ t.Signalled [] t' := by
  have hgroup := hspawned.ownGroup_ne hσ.toIsGrouped
  obtain ⟨r, s', hstop, status, rfl, h⟩ :=
    (shutdown_takes_course hσ timeouts hs hspawned.le hgroup).exists_ok
  refine ⟨status, s', hstop, h, h.eq_some_iff hσ.toIsReliable, h.eq_none_iff hσ.toIsReliable, ?_⟩
  rintro known rfl t ht again
  have hknown := ht.exitStatus? hσ (h.exitStatus?_eq hσ.toIsReliable)
  obtain ⟨rs, t', hagain, rfl, hquiet⟩ := (shutdown_again hσ.toIsReliable again hknown).exists_ok
  exact ⟨t', hagain, hquiet⟩

end Task

namespace Simulation.Holdout

/-- Time does not go back, and an end that is settled stays. -/
theorem onHost_keeps (a : Action) (h : Holdout) :
    h.clock ≤ (a.onHost h).clock ∧ ∀ t, h.deadAt = some t → (a.onHost h).deadAt = some t := by
  cases a with
  | await w limit cut => exact ⟨Nat.le_max_left _ _, fun _ ht => ht⟩
  | spawn dir l =>
    change h.clock ≤ (Host.spawn dir l h).2.clock ∧
      ∀ t, h.deadAt = some t → (Host.spawn dir l h).2.deadAt = some t
    simp only [Host.spawn]
    split <;> exact ⟨Nat.le_refl _, fun _ ht => ht⟩
  | signal s r =>
    change h.clock ≤ (h.hit s r).clock ∧ ∀ t, h.deadAt = some t → (h.hit s r).deadAt = some t
    unfold hit
    split
    · exact ⟨Nat.le_refl _, fun t ht => by simp [ht]⟩
    · exact ⟨Nat.le_refl _, fun _ ht => ht⟩
  | _ => exact ⟨Nat.le_refl _, fun _ ht => ht⟩

theorem status?_eq_some {pid : Pid} {status : WaitStatus} {h : Holdout} :
    h.status? pid = some status ↔ pid = child ∧ (∃ t, h.deadAt = some t ∧ t ≤ h.clock) ∧
      status = .ofSignal Signal.kill.number := by
  unfold status?
  cases h.deadAt with
  | none => simp
  | some t => simp [and_assoc, eq_comm]

theorem recalls (a : Action) (pid : Pid) (status : WaitStatus) (h : Holdout)
    (hknown : Host.exitStatus? pid h = .ok (some status)) :
    Host.exitStatus? pid (a.onHost h) = .ok (some status) := by
  obtain ⟨hclock, hdead⟩ := onHost_keeps a h
  obtain ⟨hpid, ⟨t, ht, hle⟩, hstatus⟩ := status?_eq_some.mp (Except.ok.inj hknown)
  have hstill := status?_eq_some.mpr ⟨hpid, ⟨t, hdead t ht, hle.trans hclock⟩, hstatus⟩
  exact congrArg Except.ok hstill

theorem isFaithful : Host.IsFaithful Holdout where
  answers _ _ := ⟨_, rfl⟩
  clock a h := (onHost_keeps a h).1
  waits pid limit h := .inr (Nat.le_max_right h.clock limit)
  remembers a pid status h _ := recalls a pid status h
  leads dir l pid h hspawn := by
    simp only [Host.spawn] at hspawn
    split at hspawn
    · exact absurd hspawn nofun
    · obtain rfl : child = pid := Except.ok.inj hspawn
      exact nofun
  ownGroup _ _ := rfl
  recalls a pid status h _ := recalls a pid status h

/-- The session in which the child has just been launched. -/
def launched : Session Holdout :=
  (Action.spawn (.ofString "/w") ⟨"sh", ["-c", "trap '' TERM; sleep 30"]⟩).apply
    (Session.start blank .absent)

theorem stop_ends : Ends (Task.shutdown child ⟨300, 2000⟩ : Task Holdout _) launched
    (fun r _ => r = .ok (some (.ofSignal 9))) (fun _ _ => False) := by
  decide +kernel

end Simulation.Holdout

namespace Task

open Simulation (Holdout)

/-- A child that takes no notice of the termination signal is killed; stops that follow give the same
status and send nothing. -/
theorem shutdown_asks_before_it_forces_on_holdout : ∃ s',
    (shutdown Holdout.child ⟨300, 2000⟩ : Task Holdout _) Holdout.launched =
      .ok (.ok (some (.ofSignal 9))) s' ∧
    Holdout.launched.Escalates Holdout.child ⟨300, 2000⟩ (some (.ofSignal 9)) s' ∧
    ∃ t', ([⟨300, 2000⟩, ⟨0, 0⟩].mapM (shutdown Holdout.child) : Task Holdout _) s' =
        .ok [.ok (some (.ofSignal 9)), .ok (some (.ofSignal 9))] t' ∧ s'.Signalled [] t' := by
  have hspawned : Holdout.launched.HasSpawned Holdout.child := ⟨_, _, _, rfl, .refl _⟩
  obtain ⟨status, s', hstop, h, -, -, hagain⟩ := shutdown_asks_before_it_forces Holdout.isFaithful
    hspawned rfl ⟨300, 2000⟩
  obtain rfl : status = some (.ofSignal 9) := Except.ok.inj (Holdout.stop_ends.of_ok hstop)
  exact ⟨s', hstop, h, hagain _ rfl s' .refl [⟨300, 2000⟩, ⟨0, 0⟩]⟩

end Task

end LatencyHarness
