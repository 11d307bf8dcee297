import LatencyHarness.Proofs.Custody

/-! What a run leaves alive of the groups that its children lead.

The teardown signals the whole group of a child that it has to stop, so nothing of such a group is
left at the report. A child that has ended before its turn gets no signal, and neither does its
group: what it has started there outlives the run. -/
namespace LatencyHarness

variable {σ : Type} [Host σ]

variable {members : Pid → σ → Set Pid} {s s' : Session σ} {pid : Pid}

namespace Session

/-- A group that has died out stays so until the next launch. -/
theorem Later.members_eq_empty (hσ : Host.IsObedient members) (h : s.Later s')
    (hs : members pid s.host = ∅) : members pid s'.host = ∅ :=
  h.keeps (P := fun h' => members pid h' = ∅) (fun a h' ha hh => hσ.empty pid a h' ha hh) hs

theorem Reaches.ownGroup_eq {A : Action → Prop} (hσ : Host.IsGrouped σ) (h : s.Reaches A s') :
    Host.ownGroup s'.host = Host.ownGroup s.host := by
  refine keeps (P := fun t => Host.ownGroup t.host = Host.ownGroup s.host) (fun t a _ ht => ?_) h rfl
  rw [Action.apply_host, hσ.ownGroup a t.host]
  exact ht

theorem HasSpawned.ownGroup_ne (hσ : Host.IsGrouped σ) (h : s.HasSpawned pid) :
    Host.ownGroup s.host ≠ pid := by
  obtain ⟨t, dir, l, hpid, ht⟩ := h
  have hspawn := hσ.leads dir l pid t.host hpid
  rw [ht.ownGroup_eq hσ, Action.apply_host, hσ.ownGroup]
  exact hspawn

end Session

namespace Task

/-- A wait for an end answers as the host does after it. -/
theorem waitExit_asks (pid : Pid) (limit : Option Millis) (s : Session σ) :
    Ends (waitExit pid limit : Task σ _) s (fun r s' => r = Host.exitStatus? pid s'.host)
      (fun _ _ => True) := by
  refine ends_ask_bind ?_
  split
  · refine ends_ask_bind ?_
    exact ((orderly_await (.exit pid) _).ends s).bind fun _ _ _ => rfl
  · rfl

/-- A child whose group is sent the kill signal leaves no one in it. -/
theorem endByForce_empties (hσ : Host.IsObedient members) (limit : Millis)
    (hpid : pid.toNat ≤ maxOsPid) (hgroup : Host.ownGroup s.host ≠ pid) :
    Ends (endByForce pid limit : Task σ _) s (fun _ s' => members pid s'.host = ∅)
      (fun _ _ => True) := by
  let noted := (Action.note (.graceElapsed pid)).apply s
  have hnoted : s.Reaches (Action.isBackground ·) noted := .step s rfl
  have hgroup' : Host.ownGroup noted.host ≠ pid := by rwa [hnoted.ownGroup_eq hσ.isGrouped]
  refine ends_emit_bind ?_
  have hkill : Ends (signalTree pid .kill : Task σ Unit) noted
      (fun _ t => members pid t.host = ∅) (fun _ _ => True) := by
    refine (signalTree_ends hpid .kill noted).weaken fun _ t ht => ?_
    rw [recipient, if_pos hgroup'] at ht
    exact hσ.kill pid noted t ht.later
  -- the second signal and the wait bring nobody back
  refine hkill.bind fun _ t ht => ends_send_bind fun _ => ?_
  have hsent : members pid (t.sent .kill (.process pid)).host = ∅ :=
    (t.reaches_sent .kill (.process pid)).later.members_eq_empty hσ ht
  exact ((orderly_waitExit pid (some limit)).ends _).mono
    (fun _ _ h => h.reaches.later.members_eq_empty hσ hsent) fun _ _ h => h

/-- A stop leaves no one in the group that the child leads, unless the child is found to have
ended. -/
theorem shutdown_empties (hσ : Host.IsObedient members) (timeouts : StopTimeouts)
    (hpid : pid.toNat ≤ maxOsPid) (hgroup : Host.ownGroup s.host ≠ pid) :
    Ends (shutdown pid timeouts : Task σ _) s
      (fun _ s' => .foundEnded pid ∈ s'.journal ∨ members pid s'.host = ∅) (fun _ _ => True) := by
  refine ends_ask_bind ?_
  obtain ⟨status, hstatus⟩ := hσ.answers pid s.host
  rw [hstatus]
  cases status with
  | some status =>
    -- no signal goes to the group of a leader that has ended
    exact .inl List.mem_cons_self
  | none =>
    -- the whole group is asked to end, and only its leader may take its time
    have hterm : Ends (signalTree pid .term : Task σ Unit) s
        (fun _ a => (s.sent .term (.group pid)).Reaches (Action.isBackground ·) a)
        (fun _ _ => True) := by
      refine (signalTree_ends hpid .term s).weaken fun _ a ha => ?_
      rwa [recipient, if_pos hgroup] at ha
    refine hterm.bind fun _ a ha => ?_
    have hwait := (waitExit_asks pid (some timeouts.graceful) a).and
      ((orderly_waitExit pid (some timeouts.graceful)).ends a)
    refine hwait.forget.bind fun r b ⟨hr, hab⟩ => ?_
    subst hr
    have hb := ha.trans hab.reaches
    have hgroup' : Host.ownGroup b.host ≠ pid := by
      rwa [hb.ownGroup_eq hσ.isGrouped, (s.reaches_sent _ _).ownGroup_eq hσ.isGrouped]
    obtain ⟨status, hstatus⟩ := hσ.answers pid b.host
    rw [hstatus]
    cases status with
    | none => exact (endByForce_empties hσ timeouts.forceful hpid hgroup').weaken fun _ _ h => .inr h
    | some status =>
      -- the leader was the last one, and it has ended
      have hlast : members pid b.host ⊆ {pid} := hσ.term pid s b hb.later
      have hgone : pid ∉ members pid b.host := hσ.ended pid status b.host hstatus
      refine .inr (Set.eq_empty_of_forall_notMem fun q hq => hgone ?_)
      obtain rfl : q = pid := hlast hq
      exact hq

end Task

/-- After its turn nothing is left of the group of a service, unless the service was found to have
ended. -/
theorem Supervising.Stops.empties {sv : Supervision σ} {role : Role} {t : Tracked}
    (hσ : Host.IsObedient members) (h : Stops sv role t s s') (hpid : t.pid.toNat ≤ maxOsPid)
    (hgroup : Host.ownGroup s.host ≠ t.pid) :
    .foundEnded t.pid ∈ s'.journal ∨ members t.pid s'.host = ∅ := by
  obtain ⟨a, status, b, ha, hend, hb, -⟩ := h.turn
  have hturn : Ends (endStatus sv role t : Task σ _) a
      (fun _ b => .foundEnded t.pid ∈ b.journal ∨ members t.pid b.host = ∅) (fun _ _ => True) := by
    unfold endStatus
    cases t.exited with
    | some known =>
      -- the end was recorded before the teardown, and the group is passed over
      exact Task.ends_emit_bind (.inl List.mem_cons_self)
    | none =>
      have hgroup' : Host.ownGroup a.host ≠ t.pid := by rwa [ha.ownGroup_eq hσ.isGrouped]
      refine (Task.shutdown_empties hσ sv.teardown hpid hgroup').bind fun r b' hb' => ?_
      match r with
      | .ok _ => exact hb'
      | .error _ =>
        have hnoted : b'.Later ((Action.note (.stopFailed role)).apply b') := .step b' rfl
        exact hb'.imp (fun hmem => List.mem_cons_of_mem _ hmem)
          fun hempty => hnoted.members_eq_empty hσ hempty
  rcases hturn.of_ok hend with hmem | hempty
  · exact .inl (hb.journal_suffix.subset hmem)
  · exact .inr (hb.later.members_eq_empty hσ hempty)

namespace Running

variable {p : Plan σ} {c c' k : Controller σ} {v : Supervisor σ} {report : RunReport}

/-- After its turn nothing is left of the client's group, unless the client was found to have
ended. -/
theorem stopClient_empties (hσ : Host.IsObedient members) (timeouts : StopTimeouts)
    (hpid : pid.toNat ≤ maxOsPid) (hgroup : Host.ownGroup s.host ≠ pid) :
    Ends (stopClient timeouts pid : Task σ Unit) s
      (fun _ s' => .foundEnded pid ∈ s'.journal ∨ members pid s'.host = ∅) (fun _ _ => True) := by
  have hkeeps {t : Task σ Unit} (ht : t.Smooth) {a : Session σ}
      (ha : .foundEnded pid ∈ a.journal ∨ members pid a.host = ∅) :
      Ends t a (fun _ s' => .foundEnded pid ∈ s'.journal ∨ members pid s'.host = ∅)
        (fun _ _ => True) := by
    refine (ht.ends_from (.refl a)).weaken fun _ s' hs' => ?_
    exact ha.imp (fun hmem => hs'.journal_suffix.subset hmem)
      fun hempty => hs'.later.members_eq_empty hσ hempty
  have hrelease {e : Event} (he : e.isMilestone = false) :
      (do Task.emit e; Task.release pid : Task σ Unit).Smooth :=
    (Task.smooth_emit he).bind fun _ => Task.smooth_release pid
  refine (Task.shutdown_empties hσ timeouts hpid hgroup).bind fun r a ha => ?_
  match r with
  | .ok (some status) => exact hkeeps (Task.smooth_emit rfl) ha
  | .ok none => exact hkeeps (hrelease (e := .clientLingers pid) rfl) ha
  | .error _ => exact hkeeps (hrelease (e := .clientStopFailed) rfl) ha

/-- Of the groups of what is held when a teardown begins, only those are left whose leaders have
ended before their turn. -/
theorem TearsDown.empties (hσ : Host.IsObedient members) (h : TearsDown p c c' s v)
    (hheld : (∃ role t, c.supervisor.tracked role = some t ∧ t.pid = pid) ∨ c.client = some pid)
    (hpid : pid.toNat ≤ maxOsPid) (hgroup : Host.ownGroup c.session.host ≠ pid) :
    .foundEnded pid ∈ c'.session.journal ∨ members pid c'.session.host = ∅ := by
  obtain ⟨hentered, hbegun, hended⟩ := h.later
  have hgroup' : Host.ownGroup (enterTeardown c).host ≠ pid := by
    rwa [Session.Reaches.ownGroup_eq hσ.isGrouped hentered]
  rcases hheld with ⟨role, t, ht, rfl⟩ | hclient
  · refine (h.stops ht).empties hσ hpid ?_
    rwa [Session.Reaches.ownGroup_eq hσ.isGrouped hbegun, h.client_reaches.ownGroup_eq hσ.isGrouped]
  · have hstopped := (stopClient_empties hσ p.config.teardown hpid hgroup').of_ok (h.client pid hclient)
    have hrest := hbegun.trans hended
    exact hstopped.imp (fun hmem => (Session.Reaches.journal_suffix hrest).subset hmem)
      fun hempty => hrest.members_eq_empty hσ hempty

/-- At the report no one is left in the group of any child that had not ended before its turn to
be stopped. -/
theorem no_member_survives [Pattern.Wording] {c : Config} {r : Reclaimer σ}
    (hp : Plan.ofConfig c r = .ok p) (hr : r.IsOrderly) (hσ : Host.IsObedient members) {host : σ}
    {pids : Folder}
    (hrun : run p (Controller.start (Session.start host pids)) = .ok report k) :
    ∀ e ∈ k.session.journal, ∀ pid, e.child? = some pid →
      .foundEnded pid ∉ k.session.journal → members pid k.session.host = ∅ := by
  intro e hmem pid hchild hnot
  obtain ⟨outcome, m, ms, hm, h, hk⟩ := run_ok hp hr hrun
  obtain ⟨hms, hmem'⟩ := h.mem_of_child hk hchild hmem
  obtain ⟨htracked, hclient⟩ := h.holds
  -- whatever was launched is held when the teardown begins
  have hheld : (∃ role t, m.supervisor.tracked role = some t ∧ t.pid = pid) ∨
      m.client = some pid := by
    cases e with
    | launched role pid' =>
      obtain rfl : pid' = pid := Option.some.inj hchild
      exact .inl ⟨role, htracked role pid' hmem'⟩
    | clientLaunched pid' =>
      obtain rfl : pid' = pid := Option.some.inj hchild
      exact .inr (hclient pid' hmem')
    | _ => exact absurd hchild nofun
  have hspawned := h.onCourse.services.spawned e hms pid hchild
  have hgroup : Host.ownGroup m.session.host ≠ pid := hspawned.ownGroup_ne hσ.isGrouped
  obtain ⟨-, -, m', t, s, v, hm', hreach, htears, hlater⟩ :=
    hk.tornDown (h.isTornDown_of_child hms hchild)
  have hheld' : (∃ role t, m'.supervisor.tracked role = some t ∧ t.pid = pid) ∨
      m'.client = some pid := by
    rw [hm']
    exact hheld
  have hgroup' : Host.ownGroup m'.session.host ≠ pid := by rwa [hreach.ownGroup_eq hσ.isGrouped]
  rcases htears.empties hσ hheld' hspawned.le hgroup' with hfound | hempty
  · exact absurd ((Session.Reaches.journal_suffix hlater).subset hfound) hnot
  · exact hlater.members_eq_empty hσ hempty

theorem no_member_survives_on_bench :
    ∃ report k, run Simulation.Bench.plan Simulation.Bench.start = .ok report k ∧
      .launched .server2 101 ∈ k.session.journal ∧
      {q | q ∈ k.session.host.members 101} = (∅ : Set Pid) := by
  obtain ⟨report, k, hrun, -, -, hmem, hnot, -⟩ := Simulation.Bench.run_ends.exists_ok
  have h := no_member_survives Simulation.Bench.plan_eq Simulation.Bench.plan_isOrderly
    Simulation.Bench.isObedient hrun
  exact ⟨report, k, hrun, hmem, h _ hmem 101 rfl hnot⟩

/-- A client that ends by itself leaves what it has started in its group alive, although everything
obeys. -/
theorem helper_of_ended_client_survives :
    ¬ ∀ members : Pid → Simulation.Bench → Set Pid, Host.IsObedient members →
      ∀ report k, run Simulation.Bench.plan Simulation.Bench.start = .ok report k →
        ∀ e ∈ k.session.journal, ∀ pid, e.child? = some pid → members pid k.session.host = ∅ := by
  intro hall
  obtain ⟨report, k, hrun, -, -, -, -, hmem, hhelper⟩ := Simulation.Bench.run_ends.exists_ok
  have hempty := hall _ Simulation.Bench.isObedient report k hrun _ hmem 105 rfl
  have halive : (106 : Pid) ∈ {q | q ∈ k.session.host.members 105} := by
    change 106 ∈ k.supervisor.session.host.members 105
    rw [hhelper]
    exact List.mem_cons_self
  exact Set.notMem_empty _ (hempty ▸ halive)

end Running

end LatencyHarness
