import LatencyHarness.Proofs.Books
import LatencyHarness.Proofs.Statuses

/-! How a start ends, told by what it leaves behind.

A start is refused, or its program could not be spawned, or the service has been launched and
entered. From the entry on the start may go well, fail or be broken off; it launches nothing more,
and the entry stays. -/
namespace LatencyHarness

variable {σ : Type} [Host σ]

namespace Action

/-- What is done between the launch of a service and the end of its start. -/
def isStarting : Action → Bool
  | note (.ready _ _) | note (.exitedEarly _ _) | note (.readinessTimedOut _) => true
  | a => a.isWatching

theorem isStarting_of_isWatching {a : Action} (h : a.isWatching = true) : a.isStarting = true := by
  unfold isStarting
  split <;> first | rfl | exact h

end Action

namespace Supervising

/-- What a start leaves behind, whether it has ended with a value or been halted. -/
inductive Leaves (sv : Supervision σ) (spec : ServiceSpec) (v : Supervisor σ) :
    Supervisor σ → Prop where
  | refused (htracked : v.isTracked spec.role = true) : Leaves sv spec v v
  | unlaunched {e : SystemError} (hfree : v.tracked spec.role = none)
    (hspawn : (Host.spawn sv.workingDir spec.launch v.session.host).1 = .error e) :
    Leaves sv spec v (v.withSession ((Action.spawn sv.workingDir spec.launch).apply v.session))
  | entered {pid : Pid} {exited : Option WaitStatus} {v' : Supervisor σ}
    (hfree : v.tracked spec.role = none)
    (hspawn : (Host.spawn sv.workingDir spec.launch v.session.host).1 = .ok pid)
    (hreach : (launched sv spec pid v.session).Reaches (Action.isStarting ·) v'.session)
    (htracked : v'.tracked =
      (v.withEntry spec.role (some { entryOf spec pid with exited := exited })).tracked)
    (hexit : ∀ status, exited = some status →
      (launched sv spec pid v.session).Hears pid status v'.session) : Leaves sv spec v v'

omit [Host σ] in
theorem tracked_withEntry_exited (v : Supervisor σ) (role : Role) (t : Tracked)
    (status : WaitStatus) :
    let v₁ := v.withEntry role (some t)
    (v₁.withEntry role ((v₁.tracked role).map ({ · with exited := some status }))).tracked =
      (v.withEntry role (some { t with exited := some status })).tracked := by
  funext r
  change (if r = role then Option.map _ (if role = role then some t else _)
    else if r = role then some t else v.tracked r) = if r = role then _ else _
  rw [if_pos rfl]
  by_cases hr : r = role
  · rw [if_pos hr, if_pos hr]
    rfl
  · rw [if_neg hr, if_neg hr, if_neg hr]

variable {sv : Supervision σ} {spec : ServiceSpec} {v : Supervisor σ} {pid : Pid}

/-- From the entry on a start may be broken off anywhere. -/
theorem watch_leaves (hfree : v.tracked spec.role = none)
    (hspawn : (Host.spawn sv.workingDir spec.launch v.session.host).1 = .ok pid) :
    Ends (do
        let x ← ((watchOf sv spec).run pid (.ofStreams true true) : Task σ _)
        conclude spec pid x.1 x.2 : Supervising σ _)
      ((v.withSession (launched sv spec pid v.session)).withEntry spec.role
        (some (entryOf spec pid)))
      (fun _ v' => Leaves sv spec v v') (fun _ v' => Leaves sv spec v v') := by
  let s := launched sv spec pid v.session
  let w := watchOf sv spec
  have hwithin : (w.run pid (.ofStreams true true) : Task σ _).Within (Action.isStarting ·) :=
    Watch.within_run (fun _ => Action.isStarting_of_isWatching) w pid _
  have hheard := w.run_hears pid (.ofStreams true true) s
  have hentered {v' : Supervisor σ} (hreach : s.Reaches (Action.isStarting ·) v'.session)
      (htracked : v'.tracked = (v.withEntry spec.role (some (entryOf spec pid))).tracked) :
      Leaves sv spec v v' := .entered hfree hspawn hreach htracked nofun
  have hwatch : Ends (liftM (w.run pid (.ofStreams true true) : Task σ _) : Supervising σ _)
      ((v.withSession s).withEntry spec.role (some (entryOf spec pid)))
      (fun x v₁ => ∃ s₁, s.Reaches (Action.isStarting ·) s₁ ∧
        v₁ = (v.withSession s₁).withEntry spec.role (some (entryOf spec pid)) ∧
        ∀ status, x.2 = .processExited status → s.Hears pid status s₁)
      (fun _ v' => Leaves sv spec v v') :=
    ends_lift (((hwithin s).and hheard).mono (fun _ s₁ h => ⟨s₁, h.1, rfl, h.2⟩)
      fun _ _ h => hentered h.1 rfl)
  refine hwatch.bind ?_
  rintro ⟨reader, outcome⟩ _ ⟨s₁, hreach, rfl, hhears⟩
  -- each outcome is noted, and only an end is put down in the entry
  cases outcome with
  | ready =>
    have hforward := hreach.tail
      (a := .forwarders (s₁.forwarders ++ [⟨pid, spec.role.name, reader⟩])) rfl
    exact hentered (hforward.tail (a := .note (.ready spec.role pid)) rfl) rfl
  | timedOut => exact hentered (hreach.tail (a := .note (.readinessTimedOut spec.role)) rfl) rfl
  | processExited status =>
    refine .entered hfree hspawn
      (hreach.tail (a := .note (.exitedEarly spec.role status)) rfl)
      (tracked_withEntry_exited (v.withSession s₁) spec.role (entryOf spec pid) status) ?_
    intro known hknown
    obtain rfl := Option.some.inj hknown
    exact (hhears status rfl).widen (.refl _)
      (.step s₁ (a := .note (.exitedEarly spec.role status)) trivial)

/-- Every start is refused, comes to nothing or leaves the service that it has launched in its
entry. -/
theorem start_leaves (sv : Supervision σ) (spec : ServiceSpec) (v : Supervisor σ) :
    Ends (start sv spec) v (fun _ v' => Leaves sv spec v v') (fun _ v' => Leaves sv spec v v') := by
  change Ends (if v.isTracked spec.role then _ else _) v _ _
  split
  · next htracked => exact .refused htracked
  · next hfree =>
    have hnone : v.tracked spec.role = none := by
      simpa [Supervisor.isTracked] using hfree
    refine (launch_runs sv spec v).of_total.bind ?_
    rintro r v₁ ⟨hr, h₁⟩
    cases r with
    | error e =>
      obtain rfl : v₁ = v.withSession _ := h₁
      exact .unlaunched hnone hr.symm
    | ok pid =>
      obtain rfl := h₁
      exact watch_leaves hnone hr.symm

end Supervising

end LatencyHarness
