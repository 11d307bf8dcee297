import LatencyHarness.Proofs.Drive

/-! From the end of the way forward to the report: the teardown, if there is one, and the
verdict. -/
namespace LatencyHarness

variable {σ : Type} [Host σ] {α β : Type}

open Course

/-! ### What a teardown leaves alone -/

/-- Nothing is launched from one session to the other, and these milestones are passed. -/
structure Session.Through (s : Session σ) (l : List Event) (s' : Session σ) : Prop where
  later : s.Later s'
  milestones : s'.journal.milestones = s.journal.milestones ++ l

namespace Session.Through

variable {s s' s'' : Session σ} {l l' : List Event}

theorem of_reaches (h : s.Reaches (Action.isBackground ·) s') : s.Through [] s' :=
  ⟨h.later, by simpa using h.milestones_eq⟩

theorem note (s : Session σ) {e : Event} (he : e.isMilestone = true) :
    s.Through [e] ((Action.note e).apply s) :=
  ⟨.step s rfl, Journal.milestones_cons_of he s.journal⟩

theorem trans (h : s.Through l s') (h' : s'.Through l' s'') : s.Through (l ++ l') s'' :=
  ⟨h.later.trans h'.later, by rw [h'.milestones, h.milestones, List.append_assoc]⟩

end Session.Through

namespace Supervisor

/-- A supervisor has gone on in the background of the run and tracks nothing new. -/
structure Follows (v v' : Supervisor σ) : Prop where
  reaches : v.session.Reaches (Action.isBackground ·) v'.session
  passes : v'.passes = v.passes
  tracked : ∀ role t, v'.tracked role = some t → v.tracked role = some t

variable {v v' v'' : Supervisor σ}

theorem Follows.refl (v : Supervisor σ) : v.Follows v := ⟨.refl _, rfl, fun _ _ h => h⟩

theorem Follows.trans (h : v.Follows v') (h' : v'.Follows v'') : v.Follows v'' :=
  ⟨h.reaches.trans h'.reaches, h'.passes.trans h.passes,
    fun role t ht => h.tracked role t (h'.tracked role t ht)⟩

end Supervisor

namespace Supervising

/-- A part of the teardown that stays in the background of the run and tracks nothing new. -/
def Keeps (t : Supervising σ α) : Prop := ∀ v, Ends t v (fun _ v' => v.Follows v') fun _ _ => True

namespace Keeps

variable {t u : Supervising σ α} {f : α → Supervising σ β}

theorem pure (a : α) : (Pure.pure a : Supervising σ α).Keeps := fun v => .refl v

theorem bind (ht : t.Keeps) (hf : ∀ a, (f a).Keeps) : (t >>= f).Keeps := fun v =>
  (ht v).bind fun a v' h => (hf a v').mono (fun _ _ h' => h.trans h') fun _ _ h' => h'

theorem get : (MonadState.get : Supervising σ (Supervisor σ)).Keeps := fun v => .refl v

theorem lift {t : Task σ α} (ht : t.Orderly) : (liftM t : Supervising σ α).Keeps := fun v =>
  ends_lift ((ht.ends v.session).mono (fun _ _ h => ⟨h.reaches, rfl, fun _ _ h' => h'⟩)
    fun _ _ h => h)

end Keeps

theorem keeps_forget (role : Role) (pid : Pid) : (forget role pid : Supervising σ Unit).Keeps := by
  have hentry : (modify (·.withEntry role none) : Supervising σ Unit).Keeps := fun v =>
    ⟨.refl _, rfl, fun role' t ht => by
      -- an entry that is left was there before
      have ht' : (if role' = role then none else v.tracked role') = some t := ht
      split at ht'
      · exact absurd ht' nofun
      · exact ht'⟩
  exact .bind (.lift (Task.smooth_stopForwarder pid).orderly) fun _ =>
    .bind (.lift (Task.smooth_inFolder _).orderly) fun _ => hentry

theorem keeps_covers (sv : Supervision σ) : Covers sv fun α (t : Supervising σ α) => t.Keeps where
  toIsClosed := ⟨.pure, .bind⟩
  get := .get
  endStatus role t := .lift ((Task.orderly_coversEnding t.pid).endStatus sv role)
  exitStatus? _ := .lift (Task.smooth_ask _).orderly
  forget role pid := keeps_forget role pid
  note he := .lift (Task.smooth_emit (Event.isMilestone_of_isOfTeardown he)).orderly

theorem keeps_stop (sv : Supervision σ) (role : Role) (t : Tracked) : (stop sv role t).Keeps :=
  (keeps_covers sv).stop role t

theorem keeps_stopAll (sv : Supervision σ) (roles : List Role) : (stopAll sv roles).Keeps :=
  (keeps_covers sv).stopAll roles

theorem abandon_ends (roles : List Role) (v : Supervisor σ) :
    Ends (abandon roles : Supervising σ Unit) v
      (fun _ v' => v.Follows v' ∧ v'.session.cancelled = v.session.cancelled)
      (fun _ _ => False) := by
  -- the token is not looked at on the way, so it is as it was
  induction roles generalizing v with
  | nil => exact ⟨.refl v, rfl⟩
  | cons role roles ih =>
    refine Ends.get_bind ?_
    cases v.tracked role with
    | none => exact ih v
    | some t =>
      have hrelease : Ends (liftM (Task.release t.pid) : Supervising σ Unit) v
          (fun _ v' => v.Follows v' ∧ v'.session.cancelled = v.session.cancelled)
          (fun _ _ => False) :=
        ends_lift ((Task.smooth_release t.pid v.session).mono
          (fun _ _ h => ⟨⟨h.1, rfl, fun _ _ h' => h'⟩, h.2⟩) fun _ _ h => h)
      exact hrelease.bind fun _ v₁ h₁ => (ih v₁).mono
        (fun _ _ h => ⟨h₁.1.trans h.1, h.2.trans h₁.2⟩) fun _ _ h => h

/-- A supervisor as its teardown begins. -/
def begun (v : Supervisor σ) : Supervisor σ :=
  { v.withSession ((Action.note .teardownBegun).apply v.session) with passes := v.passes + 1 }

/-- A teardown stops the services; what it does after that stays in the background. -/
theorem teardownAll_ends (sv : Supervision σ) (hr : sv.reclaimer.IsOrderly) (v : Supervisor σ) :
    Ends (teardownAll sv) v (fun _ v' => ∃ r v₁,
      stopAll sv Role.startOrder (begun v) = .ok r v₁ ∧ v₁.Follows v') fun _ _ => True := by
  have hstop := Ends.ok_self (stopAll sv Role.startOrder) (begun v)
  refine hstop.bind fun r v₁ h₁ => ?_
  have hrest {γ : Type} (x : ReclaimReport → γ) : (do
      let report ← (sv.reclaimer.reclaim sv.ports sv.patterns : Task σ _)
      forgetReaped Role.startOrder
      return x report : Supervising σ γ).Keeps :=
    .bind (.lift (hr.reclaim _ _)) fun _ => .bind ((keeps_covers sv).forgetReaped _) fun _ => .pure _
  exact (hrest _ v₁).mono (fun _ _ h => ⟨r, v₁, h₁, h⟩) fun _ _ h => h

end Supervising

namespace Running

theorem orderly_stopClient (timeouts : StopTimeouts) (pid : Pid) :
    (stopClient timeouts pid : Task σ Unit).Orderly := by
  have hrelease (e : Event) (he : e.isMilestone = false) :
      (do Task.emit e; Task.release pid : Task σ Unit).Orderly :=
    (Task.smooth_emit he).orderly.bind fun _ => (Task.smooth_release pid).orderly
  refine (Task.orderly_shutdown pid timeouts).bind fun r => ?_
  match r with
  | .ok (some _) => exact (Task.smooth_emit rfl).orderly.bind fun _ => .pure _
  | .ok none => exact hrelease _ rfl
  | .error _ => exact hrelease _ rfl

/-! ### The teardown of a run -/

/-- A part of the run after its way forward that neither changes its state nor tracks anything
new. -/
def Keeps (t : Running σ α) : Prop :=
  ∀ c : Controller σ, Ends t c
    (fun _ c' => c.supervisor.Follows c'.supervisor ∧ c'.state = c.state) fun _ _ => True

namespace Keeps

variable {t : Running σ α} {f : α → Running σ β}

theorem pure (a : α) : (Pure.pure a : Running σ α).Keeps := fun _ => ⟨.refl _, rfl⟩

theorem bind (ht : t.Keeps) (hf : ∀ a, (f a).Keeps) : (t >>= f).Keeps := fun c =>
  (ht c).bind fun a c' h => (hf a c').mono
    (fun _ _ h' => ⟨h.1.trans h'.1, h'.2.trans h.2⟩) fun _ _ h' => h'

theorem services {t : Supervising σ α} (ht : t.Keeps) : (liftM t : Running σ α).Keeps := fun c =>
  ends_services ((ht c.supervisor).mono (fun _ _ h => ⟨h, rfl⟩) fun _ _ h => h)

theorem task {t : Task σ α} (ht : t.Orderly) : (Running.task t).Keeps := services (.lift ht)

theorem print (text : String) : (Running.print text : Running σ Unit).Keeps :=
  task (Task.smooth_print text).orderly

theorem forIn {γ : Type} {g : γ → β → Running σ (ForInStep β)} (hg : ∀ x b, (g x b).Keeps)
    (l : List γ) (b : β) : (forIn l b g).Keeps :=
  have hclosed : IsClosed fun α (t : Running σ α) => t.Keeps := ⟨pure, bind⟩
  hclosed.forIn hg l b

end Keeps

/-- Stopping the services is stopping each of them, and what follows stays in the background. -/
theorem stopServices_ends (sv : Supervision σ) (hr : sv.reclaimer.IsOrderly) (c : Controller σ) :
    Ends (stopServices sv) c (fun _ c' => c'.state = c.state ∧ ∃ r v,
      Supervising.stopAll sv Role.startOrder (Supervising.begun c.supervisor) = .ok r v ∧
        v.Follows c'.supervisor) fun _ _ => True := by
  have hall : Ends (liftM (Supervising.teardownAll sv) : Running σ _) c (fun _ c' =>
      c'.state = c.state ∧ ∃ r v,
        Supervising.stopAll sv Role.startOrder (Supervising.begun c.supervisor) = .ok r v ∧
          v.Follows c'.supervisor) fun _ _ => True :=
    ends_services ((Supervising.teardownAll_ends sv hr c.supervisor).mono (fun _ _ h => ⟨rfl, h⟩)
      fun _ _ h => h)
  refine hall.bind fun summary c' ⟨hstate, r, v, hstop, hv⟩ => ?_
  have hsaid : (forIn summary.lingering PUnit.unit fun role _ => do
      print s!"⚠️  {role.name} did not exit; left to the port sweep"
      return ForInStep.yield PUnit.unit : Running σ PUnit).Keeps :=
    .forIn (fun _ _ => .bind (.print _) fun _ => .pure _) _ _
  have hswept : (do
      if summary.reclaim.anyKilled then
        task (Task.emit (.leftoversKilled summary.reclaim.killed.length)) : Running σ Unit).Keeps := by
    split
    · exact .task (Task.smooth_emit rfl).orderly
    · exact .pure ()
  exact (Keeps.bind hsaid (fun _ => hswept) c').mono
    (fun _ _ h => ⟨h.2.trans hstate, r, v, hstop, hv.trans h.1⟩) fun _ _ h => h

theorem endClient_ends (timeouts : StopTimeouts) (c : Controller σ) :
    Ends (endClient timeouts) c (fun _ c' => c'.state = c.state ∧ ∃ s,
      c'.supervisor = c.supervisor.withSession s ∧
        (∀ pid, c.client = some pid → stopClient timeouts pid c.session = .ok () s) ∧
        (c.client = none → s = c.session)) fun _ _ => True := by
  refine Ends.get_bind ?_
  cases hclient : c.client with
  | none => exact ⟨rfl, c.session, rfl, nofun, fun _ => rfl⟩
  | some pid =>
    have hstop := Ends.ok_self (stopClient timeouts pid) c.session
    refine ends_task (c := { c with client := none })
      (hstop.mono (fun _ s h => ⟨rfl, s, rfl, fun pid' hpid => ?_, nofun⟩) fun _ _ h => h)
    obtain rfl : pid = pid' := Option.some.inj hpid
    exact h

/-- The session of a run that goes over to its teardown. -/
def enterTeardown (c : Controller σ) : Session σ :=
  (Action.note (.line "🧹 Stopping services...")).apply
    ((Action.note (.stateChanged c.state .tearingDown)).apply c.session)

/-- What a teardown of a run does: it ends the client if there is one, then the services. -/
structure TearsDown (p : Plan σ) (c c' : Controller σ) (s : Session σ) (v : Supervisor σ) :
    Prop where
  client : ∀ pid, c.client = some pid →
    stopClient p.config.teardown pid (enterTeardown c) = .ok () s
  noClient : c.client = none → s = enterTeardown c
  services : ∃ r, Supervising.stopAll p.supervision Role.startOrder
    (Supervising.begun (c.supervisor.withSession s)) = .ok r v
  rest : v.Follows c'.supervisor
  state : c'.state = .tearingDown

theorem teardown_ends (p : Plan σ) (hr : p.reclaimer.IsOrderly) (c : Controller σ)
    (hfirst : c.tornDown = false) (hstate : c.state ≠ .tearingDown) :
    Ends (teardown p) c (fun _ c' => ∃ s v, TearsDown p c c' s v) fun _ _ => True := by
  change Ends (if c.tornDown then _ else _) c _ _
  rw [if_neg (by simp [hfirst])]
  -- the guard is set first, so a second teardown would be skipped
  let c₀ : Controller σ := { c with tornDown := true }
  refine (transition_ends (c := c₀) hstate).bind fun _ c₁ hc₁ => ?_
  subst hc₁
  refine (endClient_ends p.config.teardown _).bind fun _ c₂ ⟨hstate₂, s, hs, hclient, hnone⟩ => ?_
  refine (stopServices_ends p.supervision hr c₂).mono
    (fun _ c₃ ⟨hstate₃, r, v, hstop, hv⟩ => ?_) fun _ _ h => h
  exact ⟨s, v, hclient, hnone, ⟨r, hs ▸ hstop⟩, hv, hstate₃.trans hstate₂⟩

variable {p : Plan σ} {c c' : Controller σ} {s : Session σ} {v : Supervisor σ}

theorem TearsDown.client_reaches (h : TearsDown p c c' s v) :
    (enterTeardown c).Reaches (Action.isBackground ·) s := by
  cases hc : c.client with
  | none =>
    rw [h.noClient hc]
    exact .refl _
  | some pid =>
    have hstopped := (orderly_stopClient p.config.teardown pid).ends (enterTeardown c)
    exact (hstopped.of_ok (h.client pid hc)).reaches

theorem TearsDown.through (h : TearsDown p c c' s v) :
    c.session.Through [.stateChanged c.state .tearingDown, .teardownBegun] c'.session ∧
      c'.supervisor.passes = c.supervisor.passes + 1 := by
  have hentered : c.session.Through [.stateChanged c.state .tearingDown] (enterTeardown c) :=
    (Session.Through.note c.session rfl).trans (.of_reaches (.step _ (a := .note (.line _)) rfl))
  obtain ⟨r, hstop⟩ := h.services
  have hservices := (Supervising.keeps_stopAll _ _ _).of_ok hstop
  have hbegun : s.Through [.teardownBegun] ((Action.note .teardownBegun).apply s) := .note s rfl
  refine ⟨?_, h.rest.passes.trans hservices.passes⟩
  -- the client's stop lies between the two milestones, those of the services after them
  exact ((hentered.trans (.of_reaches h.client_reaches)).trans hbegun).trans
    (.of_reaches (hservices.reaches.trans h.rest.reaches))

end Running

end LatencyHarness
