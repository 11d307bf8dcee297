import LatencyHarness.Proofs.Bench
import LatencyHarness.Proofs.Calm
import LatencyHarness.Proofs.Starts
import Mathlib.Data.List.Nodup

/-! Every service that was launched is accounted for.

Whatever becomes of the starts and of the stops, a launched service is tracked, or some teardown has
listed it as stopped, or it has been forgotten after a reclamation has finished it off. Each
teardown lists every tracked service once, and between the last stop and the last look at the
survivors there is one pass of reclamation. -/
namespace LatencyHarness

variable {σ : Type} [Host σ] {α β : Type}

/-! ### Kinds of actions -/

namespace Action

/-- What is done to forget a service. -/
def isForgetting : Action → Bool
  | folder _ | forwarders _ => true
  | _ => false

/-- What is done to stop the services. -/
def isStopping : Action → Bool
  | note (.stopped _ _) | note (.survived _) | folder _ => true
  | a => a.isEnding

/-- What is done to forget the services that have ended after all. -/
def isReaping : Action → Bool
  | note (.reaped _ _) => true
  | a => a.isForgetting

/-- The actions by which no service is noted to have ended after all. -/
def reapsNothing : Action → Bool
  | note (.reaped _ _) => false
  | _ => true

theorem isStopping_of_isEnding {a : Action} (h : a.isEnding = true) : a.isStopping = true := by
  unfold isStopping
  split
  · rfl
  · rfl
  · rfl
  · exact h

theorem isStopping_of_isForgetting {a : Action} (h : a.isForgetting = true) :
    a.isStopping = true := by
  cases a with
  | folder _ | forwarders _ => rfl
  | _ => exact absurd h nofun

theorem isReaping_of_isForgetting {a : Action} (h : a.isForgetting = true) :
    a.isReaping = true := by
  cases a with
  | folder _ | forwarders _ => rfl
  | _ => exact absurd h nofun

theorem reapsNothing_of_isStarting {a : Action} (h : a.isStarting = true) :
    a.reapsNothing = true := by
  unfold reapsNothing
  split
  · exact absurd h nofun
  · rfl

theorem reapsNothing_of_isStopping {a : Action} (h : a.isStopping = true) :
    a.reapsNothing = true := by
  unfold reapsNothing
  split
  · exact absurd h nofun
  · rfl

theorem reapsNothing_of_isKilling {a : Action} (h : a.isKilling = true) :
    a.reapsNothing = true := by
  unfold reapsNothing
  split
  · exact absurd h nofun
  · rfl

theorem reapsNothing_of_isSearching {a : Action} (h : a.isSearching = true) :
    a.reapsNothing = true := by
  unfold reapsNothing
  split
  · exact absurd h nofun
  · rfl

end Action

/-! ### The books -/

/-- Whether an event tells that a service of a role has ended after all. -/
def Event.reaps (role : Role) : Event → Bool
  | reaped r _ => r = role
  | _ => false

/-- How often a service of a role has been forgotten after a reclamation. -/
def Journal.reapings (role : Role) (j : Journal) : Nat := j.countP (Event.reaps role)

/-- How many services of a role are tracked. -/
def Supervisor.tally (v : Supervisor σ) (role : Role) : Nat := if v.isTracked role then 1 else 0

theorem Session.Reaches.reapings_eq {s s' : Session σ} (h : s.Reaches (Action.reapsNothing ·) s')
    (role : Role) : s'.journal.reapings role = s.journal.reapings role := by
  refine h.keeps (P := fun t => t.journal.reapings role = s.journal.reapings role)
    (fun t a ha ht => ?_) rfl
  cases a with
  | note e =>
    have he : e.reaps role = false := by
      cases e with
      | reaped r status => exact absurd ha nofun
      | _ => rfl
    change Journal.reapings role (e :: t.journal) = _
    unfold Journal.reapings
    rw [List.countP_cons_of_neg (by simp [he])]
    exact ht
  | _ => exact ht

namespace Session

variable {s s' : Session σ}

/-- A service of a role has been launched under an id on the way to the session. -/
def HasLaunched (s' : Session σ) (sv : Supervision σ) (role : Role) (pid : Pid) : Prop :=
  ∃ (spec : ServiceSpec) (s : Session σ), spec.role = role ∧
    (Host.spawn sv.workingDir spec.launch s.host).1 = .ok pid ∧
    ((Action.spawn sv.workingDir spec.launch).apply s).Precedes s'

/-- The host has given a status for a service since its launch. -/
def HasEndedAs (s' : Session σ) (sv : Supervision σ) (role : Role) (pid : Pid)
    (status : WaitStatus) : Prop :=
  ∃ s : Session σ, s.HasLaunched sv role pid ∧ Host.exitStatus? pid s.host = .ok (some status) ∧
    s.Precedes s'

variable {sv : Supervision σ} {role : Role} {pid : Pid} {status : WaitStatus}

theorem HasLaunched.precedes (h : s.HasLaunched sv role pid) (hs : s.Precedes s') :
    s'.HasLaunched sv role pid := by
  obtain ⟨spec, u, hrole, hpid, hu⟩ := h
  exact ⟨spec, u, hrole, hpid, hu.trans hs⟩

theorem HasEndedAs.precedes (h : s.HasEndedAs sv role pid status) (hs : s.Precedes s') :
    s'.HasEndedAs sv role pid status := by
  obtain ⟨u, hlaunched, hstatus, hu⟩ := h
  exact ⟨u, hlaunched, hstatus, hu.trans hs⟩

theorem HasLaunched.hears (h : s.HasLaunched sv role pid) (hs : s.Hears pid status s') :
    s'.HasEndedAs sv role pid status := by
  obtain ⟨u, hu, hstatus, hu'⟩ := hs
  exact ⟨u, h.precedes hu, hstatus, hu'⟩

end Session

/-- What a supervisor tracks has been launched, and an end that it has recorded is one that the host
has told of since then. -/
def Supervisor.IsRecorded (v : Supervisor σ) (sv : Supervision σ) : Prop :=
  ∀ role t, v.tracked role = some t → v.session.HasLaunched sv role t.pid ∧
    ∀ status, t.exited = some status → v.session.HasEndedAs sv role t.pid status

theorem Supervisor.IsRecorded.mono {v v' : Supervisor σ} {sv : Supervision σ} (h : v.IsRecorded sv)
    (hs : v.session.Precedes v'.session)
    (ht : ∀ role t, v'.tracked role = some t → v.tracked role = some t) : v'.IsRecorded sv := by
  intro role t htracked
  obtain ⟨hlaunched, hended⟩ := h role t (ht role t htracked)
  exact ⟨hlaunched.precedes hs, fun status hexit => (hended status hexit).precedes hs⟩

namespace Supervising

/-! ### Starts -/

/-- The roles that a start spawns a process for: its own, if the role is free and the host can start
the program, or none. -/
def spawnedBy (sv : Supervision σ) (spec : ServiceSpec) (v : Supervisor σ) : List Role :=
  if v.isTracked spec.role then []
  else match (Host.spawn sv.workingDir spec.launch v.session.host).1 with
    | .ok _ => [spec.role]
    | .error _ => []

/-- However a start has ended, the supervisor has come to track what was spawned and nothing
else. -/
structure Starts (sv : Supervision σ) (spec : ServiceSpec) (v v' : Supervisor σ) : Prop where
  reaches : v.session.Reaches (Action.reapsNothing ·) v'.session
  balance : ∀ role, v'.tally role = v.tally role + (spawnedBy sv spec v).count role
  entries : ∀ role t, v'.tracked role = some t → v.tracked role = some t ∨
    (role = spec.role ∧ v'.session.HasLaunched sv role t.pid ∧
      ∀ status, t.exited = some status → v'.session.HasEndedAs sv role t.pid status)

variable {sv : Supervision σ} {spec : ServiceSpec} {v v' : Supervisor σ} {pid : Pid}

/-- A process that was spawned is tracked from then on, so it is counted once. -/
theorem Starts.of_entry {t : Tracked} (hfree : v.tracked spec.role = none)
    (hspawn : (Host.spawn sv.workingDir spec.launch v.session.host).1 = .ok pid)
    (hreach : v.session.Reaches (Action.reapsNothing ·) v'.session)
    (htracked : v'.tracked = (v.withEntry spec.role (some t)).tracked)
    (hlaunched : v'.session.HasLaunched sv spec.role t.pid)
    (hexit : ∀ status, t.exited = some status →
      v'.session.HasEndedAs sv spec.role t.pid status) : Starts sv spec v v' := by
  have hspawned : spawnedBy sv spec v = [spec.role] := by
    unfold spawnedBy Supervisor.isTracked
    rw [hfree, hspawn]
    rfl
  have hentry (role : Role) : v'.tracked role = if role = spec.role then some t else v.tracked role :=
    congrFun htracked role
  refine ⟨hreach, fun role => ?_, fun role t' ht' => ?_⟩
  · rw [hspawned]
    unfold Supervisor.tally Supervisor.isTracked
    rw [hentry]
    by_cases hrole : role = spec.role
    · rw [if_pos hrole, hrole, hfree, List.count_singleton_self]
      rfl
    · rw [if_neg hrole, List.count_singleton, beq_false_of_ne (Ne.symm hrole)]
      rfl
  · rw [hentry] at ht'
    by_cases hrole : role = spec.role
    · rw [if_pos hrole] at ht'
      obtain rfl := Option.some.inj ht'
      exact .inr ⟨hrole, hrole ▸ hlaunched, hrole ▸ hexit⟩
    · rw [if_neg hrole] at ht'
      exact .inl ht'

theorem Starts.of_nothing (hspawned : spawnedBy sv spec v = [])
    (hreach : v.session.Reaches (Action.reapsNothing ·) v'.session)
    (htracked : v'.tracked = v.tracked) : Starts sv spec v v' := by
  refine ⟨hreach, fun role => ?_, fun role t ht => .inl (htracked ▸ ht)⟩
  unfold Supervisor.tally Supervisor.isTracked
  rw [hspawned, htracked]
  rfl

theorem Leaves.starts (h : Leaves sv spec v v') : Starts sv spec v v' := by
  cases h with
  | refused htracked =>
    -- a role that is started twice crashes before anything is spawned
    have hnothing : spawnedBy sv spec v = [] := if_pos htracked
    exact .of_nothing hnothing (.refl _) rfl
  | unlaunched hfree hspawn =>
    have hnothing : spawnedBy sv spec v = [] := by
      unfold spawnedBy Supervisor.isTracked
      rw [hfree, hspawn]
      rfl
    exact .of_nothing hnothing
      (.step v.session (a := .spawn sv.workingDir spec.launch) rfl) rfl
  | @entered pid exited v' hfree hspawn hreach htracked hexit =>
    have hspawned : v.session.Reaches (Action.reapsNothing ·)
        ((Action.spawn sv.workingDir spec.launch).apply v.session) := .step _ rfl
    have hnoted := reaches_launched (A := (Action.reapsNothing ·)) sv spec pid v.session rfl
      fun _ => rfl
    have hlaunched : (launched sv spec pid v.session).HasLaunched sv spec.role pid :=
      ⟨spec, v.session, rfl, hspawn, hnoted.precedes⟩
    have hrest := hreach.mono fun _ => Action.reapsNothing_of_isStarting
    refine .of_entry hfree hspawn ((hspawned.trans hnoted).trans hrest) htracked
      (hlaunched.precedes hreach.precedes) fun status hstatus => ?_
    exact hlaunched.hears (hexit status hstatus)

/-- Whatever becomes of a start, also if it is broken off after the launch, what it has spawned is
tracked. -/
theorem start_starts (sv : Supervision σ) (spec : ServiceSpec) (v : Supervisor σ) :
    Ends (start sv spec) v (fun _ v' => Starts sv spec v v') (fun _ v' => Starts sv spec v v') :=
  (start_leaves sv spec v).mono (fun _ _ h => h.starts) fun _ _ h => h.starts

/-! ### Stops -/

theorem forget_clears (role : Role) (pid : Pid) (v : Supervisor σ) :
    Ends (forget role pid : Supervising σ Unit) v
      (fun _ v' => v.session.Reaches (Action.isForgetting ·) v'.session ∧
        v'.tracked = (v.withEntry role none).tracked) (fun _ _ => False) := by
  have hstopped : v.session.Reaches (Action.isForgetting ·)
      ((Action.forwarders (v.session.forwarders.filter (·.pid ≠ pid))).apply v.session) :=
    .step _ rfl
  have hdeleted := hstopped.tail (a := .folder ((Pidfile.delete role).on v.session.pids).2) rfl
  exact ⟨hdeleted, rfl⟩

theorem within_endStatus (sv : Supervision σ) (role : Role) (t : Tracked) :
    (endStatus sv role t : Task σ _).Within (Action.isEnding ·) :=
  (Task.within_coversEnding (fun _ ha => ha) t.pid).endStatus sv role

theorem endStatus_hears (sv : Supervision σ) (role : Role) (t : Tracked) (s : Session σ) :
    Ends (endStatus sv role t : Task σ _) s
      (fun r s' => ∀ status, r = some status →
        t.exited = some status ∨ s.Hears t.pid status s') (fun _ _ => True) := by
  unfold endStatus
  cases t.exited with
  | some known =>
    refine Task.ends_emit_bind fun status hstatus => .inl ?_
    exact hstatus
  | none =>
    refine (Task.shutdown_hears t.pid sv.teardown s).bind fun r s' hheard => ?_
    match r with
    | .ok known => exact fun status hstatus => .inr (hheard status (congrArg Except.ok hstatus))
    | .error _ => exact Task.ends_emit_bind nofun

/-- A service has had its turn to be stopped: it has ended and is forgotten, or it stays
tracked. -/
structure Turns (role : Role) (t : Tracked) (v : Supervisor σ) (r : Option WaitStatus)
    (v' : Supervisor σ) : Prop where
  reaches : v.session.Reaches (Action.isStopping ·) v'.session
  tracked : v'.tracked = if r.isSome then (v.withEntry role none).tracked else v.tracked
  ended : ∀ status, r = some status →
    t.exited = some status ∨ v.session.Hears t.pid status v'.session

theorem stop_turns (sv : Supervision σ) (role : Role) (t : Tracked) (v : Supervisor σ) :
    Ends (stop sv role t) v (fun r v' => Turns role t v r v') (fun _ _ => True) := by
  have hends : Ends (liftM (endStatus sv role t) : Supervising σ _) v
      (fun r v₁ => ∃ s₁, v.session.Reaches (Action.isStopping ·) s₁ ∧ v₁ = v.withSession s₁ ∧
        ∀ status, r = some status → t.exited = some status ∨ v.session.Hears t.pid status s₁)
      (fun _ _ => True) := by
    have hboth := ((within_endStatus sv role t).mono fun _ => Action.isStopping_of_isEnding)
    refine ends_lift (((hboth v.session).and (endStatus_hears sv role t v.session)).weaken ?_)
    exact fun r s₁ ⟨hreach, hheard⟩ => ⟨s₁, hreach, rfl, hheard⟩
  refine hends.bind fun r v₁ ⟨s₁, hreach, hv₁, hheard⟩ => ?_
  subst hv₁
  cases r with
  | none => exact ⟨hreach.tail (a := .note (.survived role)) rfl, rfl, nofun⟩
  | some status =>
    let noted := (Action.note (.stopped role status)).apply s₁
    have hnoted : v.session.Reaches (Action.isStopping ·) noted := hreach.tail rfl
    have hnote : Ends (liftM (Task.emit (.stopped role status)) : Supervising σ Unit)
        (v.withSession s₁) (fun _ v₂ => v₂ = v.withSession noted) (fun _ _ => True) :=
      ends_lift rfl
    refine hnote.bind fun _ v₂ hv₂ => ?_
    subst hv₂
    refine (forget_clears role t.pid (v.withSession noted)).of_total.bind fun _ v' ⟨hv', ht'⟩ => ?_
    have hforgot : v.session.Reaches (Action.isStopping ·) v'.session :=
      hnoted.trans (hv'.mono fun _ => Action.isStopping_of_isForgetting)
    refine ⟨hforgot, ht', fun known hknown => ?_⟩
    rcases hheard known hknown with hexit | hhears
    · exact .inl hexit
    · refine .inr (hhears.widen (.refl _) ?_)
      have hlater : s₁.Precedes noted := .step s₁ (a := .note (.stopped role status)) trivial
      exact hlater.trans hv'.precedes

/-- The services among some roles have been stopped one after the other. Each of those that were
tracked is in one of the two lists, which keep their order. -/
structure StopsAll (roles : List Role) (v : Supervisor σ)
    (r : List (Role × WaitStatus) × List Role) (v' : Supervisor σ) : Prop where
  reaches : v.session.Reaches (Action.isStopping ·) v'.session
  complete : (r.1.map (·.1) ++ r.2).Perm (roles.filter v.isTracked)
  stoppedOrder : (r.1.map (·.1)).Sublist (roles.filter v.isTracked)
  lingeringOrder : r.2.Sublist (roles.filter v.isTracked)
  tracked : ∀ role, v'.tracked role = if role ∈ r.1.map (·.1) then none else v.tracked role
  ended : ∀ role status, (role, status) ∈ r.1 → ∃ t, v.tracked role = some t ∧
    (t.exited = some status ∨ v.session.Hears t.pid status v'.session)

omit [Host σ] in
theorem filter_isTracked_congr {roles : List Role} {v v' : Supervisor σ}
    (h : ∀ role ∈ roles, v'.tracked role = v.tracked role) :
    roles.filter v'.isTracked = roles.filter v.isTracked := by
  refine List.filter_congr fun role hmem => ?_
  unfold Supervisor.isTracked
  rw [h role hmem]

omit [Host σ] in
theorem filter_isTracked_cons (role : Role) (roles : List Role) (v : Supervisor σ) :
    (role :: roles).filter v.isTracked =
      if (v.tracked role).isSome then role :: roles.filter v.isTracked
      else roles.filter v.isTracked := by
  rw [List.filter_cons]
  rfl

theorem StopsAll.skip {role : Role} {roles : List Role} {v v' : Supervisor σ}
    {r : List (Role × WaitStatus) × List Role} (hnone : v.tracked role = none)
    (h : StopsAll roles v r v') : StopsAll (role :: roles) v r v' := by
  have hskip : (role :: roles).filter v.isTracked = roles.filter v.isTracked := by
    rw [filter_isTracked_cons, hnone]
    rfl
  exact ⟨h.reaches, hskip ▸ h.complete, hskip ▸ h.stoppedOrder, hskip ▸ h.lingeringOrder,
    h.tracked, h.ended⟩

/-- The first turn puts its role in front of one of the two lists. -/
theorem StopsAll.cons {role : Role} {roles : List Role} {t : Tracked} {v v₁ v' : Supervisor σ}
    {status : Option WaitStatus} {r : List (Role × WaitStatus) × List Role} (hnew : role ∉ roles)
    (htracked : v.tracked role = some t) (hturn : Turns role t v status v₁)
    (h : StopsAll roles v₁ r v') :
    StopsAll (role :: roles) v
      (match status with
        | some known => ((role, known) :: r.1, r.2)
        | none => (r.1, role :: r.2)) v' := by
  have htake : (role :: roles).filter v.isTracked = role :: roles.filter v.isTracked := by
    rw [filter_isTracked_cons, htracked]
    rfl
  have hother (x : Role) (hne : x ≠ role) : v₁.tracked x = v.tracked x := by
    rw [hturn.tracked]
    split
    · exact if_neg hne
    · rfl
  have hne (x : Role) (hx : x ∈ roles) : x ≠ role := fun heq => hnew (heq ▸ hx)
  have hsame : roles.filter v₁.isTracked = roles.filter v.isTracked :=
    filter_isTracked_congr fun x hx => hother x (hne x hx)
  -- so the lists of the later turns are about the roles that were tracked before the first one
  have hcomplete := hsame ▸ h.complete
  have hstoppedOrder := hsame ▸ h.stoppedOrder
  have hlingeringOrder := hsame ▸ h.lingeringOrder
  have hreach := hturn.reaches.trans h.reaches
  have hended (x : Role) (known : WaitStatus) (hmem : (x, known) ∈ r.1) :
      ∃ t, v.tracked x = some t ∧
        (t.exited = some known ∨ v.session.Hears t.pid known v'.session) := by
    obtain ⟨t', ht', hknown⟩ := h.ended x known hmem
    have hlisted : x ∈ r.1.map (·.1) := List.mem_map_of_mem hmem
    have hin : x ∈ roles := List.mem_of_mem_filter (hstoppedOrder.subset hlisted)
    refine ⟨t', (hother x (hne x hin)).symm.trans ht', ?_⟩
    exact hknown.imp id fun hhears => hhears.widen hturn.reaches.precedes (.refl _)
  cases status with
  | none =>
    refine ⟨hreach, ?_, htake ▸ hstoppedOrder.cons role, htake ▸ hlingeringOrder.cons_cons role,
      fun x => ?_, hended⟩
    · rw [htake]
      exact List.perm_middle.trans (hcomplete.cons role)
    · rw [h.tracked, hturn.tracked]
      rfl
  | some known =>
    refine ⟨hreach, htake ▸ hcomplete.cons role, htake ▸ hstoppedOrder.cons_cons role,
      htake ▸ hlingeringOrder.cons role, fun x => ?_, fun x status hmem => ?_⟩
    · rw [h.tracked, hturn.tracked]
      change (if x ∈ r.1.map (·.1) then none else if x = role then none else v.tracked x) =
        if x ∈ role :: r.1.map (·.1) then none else v.tracked x
      -- the stopped role itself is not tracked any more, and no other one is affected
      by_cases hx : x = role
      · subst hx
        rw [if_pos rfl, if_pos List.mem_cons_self, ite_self]
      · have hmem : x ∈ role :: r.1.map (·.1) ↔ x ∈ r.1.map (·.1) := by
          rw [List.mem_cons, or_iff_right hx]
        rw [if_neg hx]
        exact if_congr hmem.symm rfl rfl
    · rcases List.mem_cons.mp hmem with heq | hlater
      · obtain ⟨rfl, rfl⟩ := Prod.mk.inj heq
        refine ⟨t, htracked, ?_⟩
        exact (hturn.ended status rfl).imp id fun hhears =>
          hhears.widen (.refl _) h.reaches.precedes
      · exact hended x status hlater

theorem stopAll_turns (sv : Supervision σ) {roles : List Role} (hroles : roles.Nodup)
    (v : Supervisor σ) :
    Ends (stopAll sv roles) v (fun r v' => StopsAll roles v r v') (fun _ _ => True) := by
  -- the stop of one service leaves the entries of the others alone
  induction roles generalizing v with
  | nil => exact ⟨.refl _, .refl _, .refl _, .refl _, fun _ => rfl, nofun⟩
  | cons role roles ih =>
    obtain ⟨hnew, hrest⟩ := List.nodup_cons.mp hroles
    refine Ends.get_bind ?_
    cases htracked : v.tracked role with
    | none => exact (ih hrest v).weaken fun _ _ h => h.skip htracked
    | some t =>
      refine (stop_turns sv role t v).bind fun status v₁ hturn => ?_
      refine (ih hrest v₁).bind fun r v' h => ?_
      have hcons := h.cons hnew htracked hturn
      cases status with
      | none => exact hcons
      | some known => exact hcons

theorem StopsAll.tally {roles : List Role} {v v' : Supervisor σ}
    {r : List (Role × WaitStatus) × List Role} (h : StopsAll roles v r v') (hroles : roles.Nodup)
    (role : Role) : (r.1.map (·.1)).count role + v'.tally role = v.tally role := by
  have hnodup : (r.1.map (·.1)).Nodup := h.stoppedOrder.nodup (hroles.filter _)
  unfold Supervisor.tally Supervisor.isTracked
  rw [h.tracked]
  by_cases hmem : role ∈ r.1.map (·.1)
  · -- what is listed was tracked
    have hin : role ∈ roles.filter v.isTracked := h.stoppedOrder.subset hmem
    have htracked : (v.tracked role).isSome = true := (List.mem_filter.mp hin).2
    rw [List.count_eq_one_of_mem hnodup hmem, if_pos hmem, if_pos htracked]
    rfl
  · rw [List.count_eq_zero_of_not_mem hmem, if_neg hmem, Nat.zero_add]

/-! ### Reaping -/

/-- Some services have been forgotten, one for each reaping that was noted. -/
structure Reaps (v v' : Supervisor σ) : Prop where
  reaches : v.session.Reaches (Action.isReaping ·) v'.session
  balance : ∀ role, v'.session.journal.reapings role + v'.tally role =
    v.session.journal.reapings role + v.tally role
  entries : ∀ role t, v'.tracked role = some t → v.tracked role = some t

theorem Reaps.refl (v : Supervisor σ) : Reaps v v := ⟨.refl _, fun _ => rfl, fun _ _ h => h⟩

theorem Reaps.trans {v v' v'' : Supervisor σ} (h : Reaps v v') (h' : Reaps v' v'') :
    Reaps v v'' :=
  ⟨h.reaches.trans h'.reaches, fun role => (h'.balance role).trans (h.balance role),
    fun role t ht => h.entries role t (h'.entries role t ht)⟩

/-- A service that has ended is noted and forgotten before the others are looked at. -/
theorem ends_reap_bind {role : Role} {t : Tracked} {v : Supervisor σ} (ht : v.tracked role = some t)
    (status : WaitStatus) {k : Supervising σ Unit}
    (hk : ∀ v', Reaps v v' → Ends k v' (fun _ v'' => Reaps v v'') (fun _ _ => False)) :
    Ends (do (Task.emit (.reaped role status) : Task σ _); forget role t.pid; k :
      Supervising σ Unit) v (fun _ v' => Reaps v v') (fun _ _ => False) := by
  let noted := (Action.note (.reaped role status)).apply v.session
  have hnote : Ends (liftM (Task.emit (.reaped role status)) : Supervising σ Unit) v
      (fun _ v₁ => v₁ = v.withSession noted) (fun _ _ => False) := ends_lift rfl
  refine hnote.bind fun _ v₁ hv₁ => ?_
  subst hv₁
  refine (forget_clears role t.pid (v.withSession noted)).bind
    fun _ v' ⟨hreach, htracked⟩ => hk v' ?_
  have hnoted : v.session.Reaches (Action.isReaping ·) noted := .step v.session rfl
  have hentry (r : Role) : v'.tracked r = if r = role then none else v.tracked r :=
    congrFun htracked r
  refine ⟨hnoted.trans (hreach.mono fun _ => Action.isReaping_of_isForgetting), fun r => ?_,
    fun r t' ht' => ?_⟩
  · have hquiet : v'.session.journal.reapings r = noted.journal.reapings r := by
      refine Session.Reaches.reapings_eq (hreach.mono fun a ha => ?_) r
      exact Action.reapsNothing_of_isStopping (Action.isStopping_of_isForgetting ha)
    have hcount : noted.journal.reapings r =
        v.session.journal.reapings r + if r = role then 1 else 0 := by
      change Journal.reapings r (.reaped role status :: v.session.journal) = _
      unfold Journal.reapings
      rw [List.countP_cons]
      by_cases hr : r = role
      · simp [Event.reaps, hr]
      · simp [Event.reaps, hr, Ne.symm hr]
    rw [hquiet, hcount]
    unfold Supervisor.tally Supervisor.isTracked
    rw [hentry]
    by_cases hr : r = role
    · rw [if_pos hr, if_pos hr, hr, ht]
      rfl
    · rw [if_neg hr, if_neg hr]
      rfl
  · rw [hentry] at ht'
    by_cases hr : r = role
    · rw [if_pos hr] at ht'
      exact absurd ht' nofun
    · rwa [if_neg hr] at ht'

theorem forgetReaped_reaps (roles : List Role) (v : Supervisor σ) :
    Ends (forgetReaped roles : Supervising σ Unit) v (fun _ v' => Reaps v v')
      (fun _ _ => False) := by
  induction roles generalizing v with
  | nil => exact .refl v
  | cons role roles ih =>
    refine Ends.get_bind ?_
    cases htracked : v.tracked role with
    | none => exact ih v
    | some t =>
      have hask : Ends (liftM (Task.ask (Host.exitStatus? t.pid) : Task σ _) : Supervising σ _) v
          (fun _ v₁ => v₁ = v) (fun _ _ => False) := ends_lift rfl
      refine hask.bind fun r v₁ hv₁ => ?_
      subst hv₁
      match r with
      | .ok (some status) =>
        exact ends_reap_bind htracked status fun v₂ h₂ =>
          (ih v₂).mono (fun _ _ h => h₂.trans h) fun _ _ h => h
      | .ok none | .error _ => exact ih v₁

/-! ### A teardown -/

/-- A teardown accounts for the services that were tracked before it: each is listed once, as
stopped or as lingering, in start order. What is listed as stopped is forgotten, with the status
that the host gave for it, and what is still tracked is listed as lingering. After the last stop
there is one reclamation, and after that nothing but the reaping. -/
structure Accounts (sv : Supervision σ) (v : Supervisor σ) (summary : TeardownSummary)
    (v' : Supervisor σ) : Prop where
  complete : (summary.stopped.map (·.1) ++ summary.lingering).Perm v.trackedRoles
  stoppedOrder : (summary.stopped.map (·.1)).Sublist v.trackedRoles
  lingeringOrder : summary.lingering.Sublist v.trackedRoles
  stopped : ∀ role status, (role, status) ∈ summary.stopped → v'.tracked role = none ∧
    ∃ t, v.tracked role = some t ∧ v'.session.HasEndedAs sv role t.pid status
  rest : ∀ role, v'.isTracked role = true → role ∈ summary.lingering
  reclaims : ∃ s₁ s₂, (begun v).session.Reaches (Action.isStopping ·) s₁ ∧
    sv.reclaimer.reclaim sv.ports sv.patterns s₁ = .ok summary.reclaim s₂ ∧
    s₂.Reaches (Action.isReaping ·) v'.session

/-- The books before and after a teardown. -/
structure Balances (v : Supervisor σ) (summary : TeardownSummary) (v' : Supervisor σ) : Prop where
  precedes : v.session.Precedes v'.session
  balance : ∀ role, (summary.stopped.map (·.1)).count role +
    v'.session.journal.reapings role + v'.tally role =
      v.session.journal.reapings role + v.tally role
  entries : ∀ role t, v'.tracked role = some t → v.tracked role = some t

theorem teardownAll_accounts {sv : Supervision σ}
    (hr : sv.reclaimer.Searches (Action.reapsNothing ·)) {v : Supervisor σ} (hv : v.IsRecorded sv) :
    Ends (teardownAll sv) v (fun summary v' => Accounts sv v summary v' ∧ Balances v summary v')
      (fun _ _ => True) := by
  have hnodup : Role.startOrder.Nodup := by decide
  have hbegun : v.session.Reaches (Action.reapsNothing ·) (begun v).session :=
    .step v.session (a := .note .teardownBegun) rfl
  refine (stopAll_turns sv hnodup (begun v)).bind fun (stopped, lingering) v₁ h₁ => ?_
  -- the reclamation
  have hwithin : (sv.reclaimer.reclaim sv.ports sv.patterns).Within (Action.reapsNothing ·) :=
    Reclaimer.within_reclaim (fun _ => Action.reapsNothing_of_isKilling) hr _ _
  have hreclaim : Ends (liftM (sv.reclaimer.reclaim sv.ports sv.patterns) : Supervising σ _) v₁
      (fun report v₂ => ∃ s₂, v₂ = v₁.withSession s₂ ∧
        sv.reclaimer.reclaim sv.ports sv.patterns v₁.session = .ok report s₂ ∧
        v₁.session.Reaches (Action.reapsNothing ·) s₂) (fun _ _ => True) :=
    ends_lift (((Ends.self _ v₁.session).and (hwithin v₁.session)).weaken
      fun _ s₂ h => ⟨s₂, rfl, h.1, h.2⟩)
  refine hreclaim.bind fun report v₂ ⟨s₂, hv₂, hrun, hreach₂⟩ => ?_
  subst hv₂
  refine (forgetReaped_reaps Role.startOrder (v₁.withSession s₂)).of_total.bind
    fun _ v' hreaped => ?_
  have hstop : (begun v).session.Reaches (Action.reapsNothing ·) v₁.session :=
    h₁.reaches.mono fun _ => Action.reapsNothing_of_isStopping
  have hbefore : v.session.Precedes v₁.session := (hbegun.trans hstop).precedes
  have hafter : v₁.session.Precedes v'.session := hreach₂.precedes.trans hreaped.reaches.precedes
  have hkept (role : Role) (t : Tracked) (ht : v'.tracked role = some t) :
      role ∉ stopped.map (·.1) ∧ v.tracked role = some t := by
    have ht₁ : v₁.tracked role = some t := hreaped.entries role t ht
    rw [h₁.tracked] at ht₁
    by_cases hmem : role ∈ stopped.map (·.1)
    · rw [if_pos hmem] at ht₁
      exact absurd ht₁ nofun
    · rw [if_neg hmem] at ht₁
      exact ⟨hmem, ht₁⟩
  refine ⟨⟨h₁.complete, h₁.stoppedOrder, h₁.lingeringOrder, fun role status hmem => ⟨?_, ?_⟩,
    fun role htracked => ?_, v₁.session, s₂, h₁.reaches, hrun, hreaped.reaches⟩,
    ⟨hbefore.trans hafter, fun role => ?_, fun role t ht => (hkept role t ht).2⟩⟩
  · -- a service that has been stopped is not tracked again
    cases ht : v'.tracked role with
    | none => rfl
    | some t =>
      have hlisted : role ∈ stopped.map (·.1) := List.mem_map_of_mem hmem
      exact absurd hlisted (hkept role t ht).1
  · obtain ⟨t, ht, hknown⟩ := h₁.ended role status hmem
    obtain ⟨hlaunched, hended⟩ := hv role t ht
    refine ⟨t, ht, ?_⟩
    rcases hknown with hexit | hhears
    · exact (hended status hexit).precedes (hbefore.trans hafter)
    · exact ((hlaunched.precedes hbegun.precedes).hears hhears).precedes hafter
  · obtain ⟨t, ht⟩ := Option.isSome_iff_exists.mp htracked
    obtain ⟨hnot, hbefore⟩ := hkept role t ht
    have hlisted : role ∈ stopped.map (·.1) ++ lingering := by
      refine h₁.complete.symm.subset (List.mem_filter.mpr ⟨role.mem_startOrder, ?_⟩)
      exact Option.isSome_iff_exists.mpr ⟨t, hbefore⟩
    exact (List.mem_append.mp hlisted).resolve_left hnot
  · -- stopped, then reaped, then still tracked
    have hstopped := h₁.tally hnodup role
    have hbalance := hreaped.balance role
    have hquiet₁ := (hbegun.trans hstop).reapings_eq role
    have hquiet₂ := hreach₂.reapings_eq role
    change (stopped.map (·.1)).count role + v₁.tally role = v.tally role at hstopped
    change _ = s₂.journal.reapings role + v₁.tally role at hbalance
    change (stopped.map (·.1)).count role + _ + _ = _
    omega

/-! ### Histories -/

/-- What may happen to a supervisor from its beginning on: starts, which may be broken off, and
teardowns, and between them anything that goes on in its session. The lists are of the roles that
processes have been spawned for and of the summaries of the teardowns. -/
inductive History (sv : Supervision σ) : List Role → List TeardownSummary → Supervisor σ → Prop where
  | begin (host : σ) (pids : Folder) :
    History sv [] [] (Supervisor.start (Session.start host pids))
  | start {spawned : List Role} {summaries : List TeardownSummary} {v v' : Supervisor σ}
    (h : History sv spawned summaries v) (spec : ServiceSpec) {r : Except StartError Started}
    (hrun : Supervising.start sv spec v = .ok r v') :
    History sv (spawned ++ spawnedBy sv spec v) summaries v'
  | dropped {spawned : List Role} {summaries : List TeardownSummary} {v v' : Supervisor σ}
    (h : History sv spawned summaries v) (spec : ServiceSpec) {halt : Halt}
    (hrun : Supervising.start sv spec v = .error halt v') :
    History sv (spawned ++ spawnedBy sv spec v) summaries v'
  | teardown {spawned : List Role} {summaries : List TeardownSummary} {v v' : Supervisor σ}
    (h : History sv spawned summaries v) {summary : TeardownSummary}
    (hrun : teardownAll sv v = .ok summary v') : History sv spawned (summaries ++ [summary]) v'
  | meanwhile {spawned : List Role} {summaries : List TeardownSummary} {v : Supervisor σ}
    {s : Session σ} (h : History sv spawned summaries v)
    (hs : v.session.Reaches (Action.reapsNothing ·) s) :
    History sv spawned summaries (v.withSession s)

/-- The roles that some teardowns have listed as stopped. -/
def stoppedIn (summaries : List TeardownSummary) : List Role :=
  summaries.flatMap fun summary => summary.stopped.map (·.1)

/-- The books of a supervisor agree with what has been spawned and stopped. -/
structure Balanced (sv : Supervision σ) (spawned : List Role) (summaries : List TeardownSummary)
    (v : Supervisor σ) : Prop where
  balance : ∀ role, spawned.count role =
    (stoppedIn summaries).count role + v.session.journal.reapings role + v.tally role
  recorded : v.IsRecorded sv

variable {spawned : List Role} {summaries : List TeardownSummary}

theorem Balanced.start (h : Balanced sv spawned summaries v) (hs : Starts sv spec v v') :
    Balanced sv (spawned ++ spawnedBy sv spec v) summaries v' := by
  refine ⟨fun role => ?_, fun role t ht => ?_⟩
  · rw [List.count_append, h.balance role, hs.reaches.reapings_eq role, hs.balance role]
    omega
  · rcases hs.entries role t ht with hold | ⟨rfl, hnew⟩
    · obtain ⟨hlaunched, hended⟩ := h.recorded role t hold
      have hlater : v.session.Precedes v'.session := hs.reaches.precedes
      exact ⟨hlaunched.precedes hlater, fun status hexit => (hended status hexit).precedes hlater⟩
    · exact hnew

theorem Balanced.teardown (h : Balanced sv spawned summaries v) {summary : TeardownSummary}
    (hb : Balances v summary v') : Balanced sv spawned (summaries ++ [summary]) v' := by
  refine ⟨fun role => ?_, h.recorded.mono hb.precedes hb.entries⟩
  have hsum : (stoppedIn (summaries ++ [summary])).count role =
      (stoppedIn summaries).count role + (summary.stopped.map (·.1)).count role := by
    unfold stoppedIn
    rw [List.flatMap_append, List.count_append, List.flatMap_singleton]
  have hbefore := h.balance role
  have hafter := hb.balance role
  omega

theorem History.balanced (hr : sv.reclaimer.Searches (Action.reapsNothing ·))
    (h : History sv spawned summaries v) : Balanced sv spawned summaries v := by
  induction h with
  | begin host pids => exact ⟨fun _ => rfl, nofun⟩
  | start _ spec hrun ih => exact ih.start ((start_starts sv spec _).of_ok hrun)
  | dropped _ spec hrun ih => exact ih.start ((start_starts sv spec _).of_error hrun)
  | teardown _ hrun ih => exact ih.teardown ((teardownAll_accounts hr ih.recorded).of_ok hrun).2
  | meanwhile _ hs ih =>
    refine ⟨fun role => ?_, ih.recorded.mono hs.precedes fun _ _ ht => ht⟩
    have hbalance := ih.balance role
    rw [← hs.reapings_eq role] at hbalance
    exact hbalance

omit [Host σ] in
theorem supervision_of_config [Pattern.Wording] {c : Config} {r : Reclaimer σ}
    (h : Supervision.ofConfig c r = .ok sv) :
    sv.ports = c.ports ∧ c.sweep = .ok sv.patterns ∧ sv.reclaimer = r := by
  unfold Supervision.ofConfig at h
  cases hsweep : c.sweep with
  | error e =>
    rw [hsweep] at h
    exact absurd h nofun
  | ok patterns =>
    rw [hsweep] at h
    obtain rfl := Except.ok.inj h
    exact ⟨rfl, rfl, rfl⟩

/-- Launched services are conserved. In every history of starts and teardowns, and for every role,
each spawn is matched by one mention among the stopped of some teardown, or by one reaping after a
reclamation, or by the service that is tracked. And a teardown at any point of a history accounts
for all that is tracked there, with one reclamation of the configured ports and patterns; it ends,
if it cannot be interrupted and the probes end. -/
theorem launched_services_are_conserved [Pattern.Wording] {c : Config} {r : Reclaimer σ}
    (hsv : Supervision.ofConfig c r = .ok sv) (hr : r.Searches (Action.reapsNothing ·))
    (h : History sv spawned summaries v) :
    (∀ role, spawned.count role = (stoppedIn summaries).count role +
        v.session.journal.reapings role + if v.isTracked role then 1 else 0) ∧
      (sv.ports = c.ports ∧ c.sweep = .ok sv.patterns) ∧
      (∀ summary v', teardownAll sv v = .ok summary v' → Accounts sv v summary v') ∧
      (r.IsCalm → v.session.interruptible = false →
        ∃ summary v', teardownAll sv v = .ok summary v') := by
  obtain ⟨hports, hpatterns, rfl⟩ := supervision_of_config hsv
  have hbalanced := h.balanced hr
  refine ⟨hbalanced.balance, ⟨hports, hpatterns⟩, fun summary v' hrun => ?_, fun hcalm hv => ?_⟩
  · exact ((teardownAll_accounts hr hbalanced.recorded).of_ok hrun).1
  · obtain ⟨summary, v', hrun, -⟩ := (calm_teardownAll hcalm v hv).exists_ok
    exact ⟨summary, v', hrun⟩

/-- A call to a supervisor. -/
inductive Call where
  | start (spec : ServiceSpec)
  | teardown

/-- Calls made one after the other, with nothing between them. -/
def runAll (sv : Supervision σ) : List Call → Supervising σ (List TeardownSummary)
  | [] => return []
  | .start spec :: calls => do
    let _ ← start sv spec
    runAll sv calls
  | .teardown :: calls => do
    let summary ← teardownAll sv
    let summaries ← runAll sv calls
    return summary :: summaries

theorem runAll_history (h : History sv spawned summaries v) (calls : List Call) :
    Ends (runAll sv calls) v
      (fun more v' => ∃ spawned', History sv spawned' (summaries ++ more) v') (fun _ _ => True) := by
  induction calls generalizing spawned summaries v with
  | nil => exact ⟨spawned, (List.append_nil summaries).symm ▸ h⟩
  | cons call calls ih =>
    cases call with
    | start spec =>
      exact (Ends.ok_self (start sv spec) v).bind fun _ v₁ hrun => ih (h.start spec hrun)
    | teardown =>
      refine (Ends.ok_self (teardownAll sv) v).bind fun summary v₁ hrun => ?_
      refine (ih (h.teardown hrun)).bind fun more v' ⟨spawned', h'⟩ => ?_
      rw [List.append_assoc] at h'
      exact ⟨spawned', h'⟩

end Supervising

namespace Simulation.Bench

/-- Both services are started and torn down, and one of them is started again. -/
def calls : List Supervising.Call :=
  [.start config.server2, .start config.server1, .teardown, .start config.server2]

theorem calls_end : Ends (Supervising.runAll plan.supervision calls)
    (Supervisor.start (Session.start blank .absent))
    (fun summaries v => Supervising.stoppedIn summaries = [.server2, .server1] ∧
      v.trackedRoles = [.server2] ∧ v.session.interruptible = false) (fun _ _ => False) := by
  decide +kernel

end Simulation.Bench

namespace Supervising

/-- On the bench two services have been spawned for one of the roles: the first has been stopped,
the second is tracked, and a teardown accounts for it. -/
theorem launched_services_are_conserved_on_bench : ∃ spawned summaries v,
    History Simulation.Bench.plan.supervision spawned summaries v ∧
      stoppedIn summaries = [.server2, .server1] ∧ v.trackedRoles = [.server2] ∧
      (∀ role, spawned.count role = (stoppedIn summaries).count role +
        v.session.journal.reapings role + if v.isTracked role then 1 else 0) ∧
      ∃ summary v', teardownAll Simulation.Bench.plan.supervision v = .ok summary v' ∧
        Accounts Simulation.Bench.plan.supervision v summary v' := by
  obtain ⟨summaries, v, hrun, hstopped, htracked, hv⟩ := Simulation.Bench.calls_end.exists_ok
  have hbegin : History Simulation.Bench.plan.supervision [] []
      (Supervisor.start (Session.start Simulation.Bench.blank .absent)) := .begin _ _
  obtain ⟨spawned, hhistory⟩ := (runAll_history hbegin Simulation.Bench.calls).of_ok hrun
  have hsv : Supervision.ofConfig Simulation.Bench.config
      (.standard Simulation.Bench.config.reclaim) = .ok Simulation.Bench.plan.supervision := rfl
  have hr : (Reclaimer.standard Simulation.Bench.config.reclaim :
      Reclaimer Simulation.Bench).Searches (Action.reapsNothing ·) :=
    (Reclaimer.standard_searches _).mono fun _ => Action.reapsNothing_of_isSearching
  have h := launched_services_are_conserved hsv hr hhistory
  obtain ⟨summary, v', htorn⟩ := h.2.2.2 (Reclaimer.standard_isCalm _) hv
  exact ⟨spawned, summaries, v, hhistory, hstopped, htracked, h.1, summary, v', htorn,
    h.2.2.1 summary v' htorn⟩

end Supervising

end LatencyHarness
