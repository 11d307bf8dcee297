import LatencyHarness.Proofs.Starts
import LatencyHarness.Proofs.Teardown

/-! The launches of a run and the notes of them.

The milestones tell of a launch by a note. A run makes such a note directly after the host has
launched a program and given its id, with that id, and it never launches one without the note. So
the children that the milestones name are the programs that the host has launched, in that order,
whatever a run comes to. -/
namespace LatencyHarness

variable {σ : Type} [Host σ] {α β : Type}

/-- The actions that neither launch a program nor note a launch. -/
def Action.launchesNothing : Action → Bool
  | note e => e.child?.isNone
  | spawn _ _ => false
  | _ => true

theorem Event.child?_eq_none {e : Event} (he : e.isMilestone = false) : e.child? = none := by
  cases e with
  | launched _ _ | clientLaunched _ => exact absurd he nofun
  | _ => rfl

theorem Action.launchesNothing_of_isBackground {a : Action} (h : a.isBackground = true) :
    a.launchesNothing = true := by
  cases a with
  | note e =>
    have he : e.isMilestone = false := by simpa [isBackground] using h
    simp [launchesNothing, Event.child?_eq_none he]
  | spawn _ _ => simp [isBackground] at h
  | _ => rfl

theorem Action.launchesNothing_of_isStarting {a : Action} (h : a.isStarting = true) :
    a.launchesNothing = true := by
  cases a with
  | note e =>
    cases e with
    | launched _ _ | clientLaunched _ => exact absurd h nofun
    | _ => rfl
  | spawn _ _ => exact absurd h nofun
  | _ => rfl

namespace Session

/-- From one session to the other the host has launched programs with these ids, one after the other,
and each of them has been noted directly after its launch, with nothing else noted as one. -/
inductive Launches (s : Session σ) : List Pid → Session σ → Prop
  | refl : Launches s [] s
  | quiet {ids : List Pid} {t : Session σ} {a : Action} (h : Launches s ids t)
    (ha : a.launchesNothing = true) : Launches s ids (a.apply t)
  | failed {ids : List Pid} {t : Session σ} {dir : Path} {l : Launch} {e : SystemError}
    (h : Launches s ids t) (hspawn : (Host.spawn dir l t.host).1 = .error e) :
    Launches s ids ((Action.spawn dir l).apply t)
  | launched {ids : List Pid} {t : Session σ} {dir : Path} {l : Launch} {pid : Pid} {e : Event}
    (h : Launches s ids t) (hspawn : (Host.spawn dir l t.host).1 = .ok pid)
    (he : e.child? = some pid) :
    Launches s (ids ++ [pid]) ((Action.note e).apply ((Action.spawn dir l).apply t))

/-- Every launch from one session to the other has been noted. -/
def Tells (s s' : Session σ) : Prop := ∃ ids, s.Launches ids s'

variable {s t u : Session σ} {ids ids' : List Pid}

theorem Launches.trans (h : s.Launches ids t) (h' : t.Launches ids' u) :
    s.Launches (ids ++ ids') u := by
  -- the induction goes along the second part
  induction h' with
  | refl => rwa [List.append_nil]
  | quiet _ ha ih => exact ih.quiet ha
  | failed _ hspawn ih => exact ih.failed hspawn
  | launched _ hspawn he ih =>
    rw [← List.append_assoc]
    exact ih.launched hspawn he

theorem Reaches.launches (h : s.Reaches (Action.launchesNothing ·) t) : s.Launches [] t :=
  h.keeps (P := fun t => s.Launches [] t) (fun _ _ ha ht => ht.quiet ha) .refl

theorem Tells.refl (s : Session σ) : s.Tells s := ⟨[], .refl⟩

theorem Tells.trans (h : s.Tells t) (h' : t.Tells u) : s.Tells u := by
  obtain ⟨ids, hids⟩ := h
  obtain ⟨ids', hids'⟩ := h'
  exact ⟨ids ++ ids', hids.trans hids'⟩

theorem Reaches.tells (h : s.Reaches (Action.launchesNothing ·) t) : s.Tells t := ⟨[], h.launches⟩

theorem Reaches.background_tells (h : s.Reaches (Action.isBackground ·) t) : s.Tells t :=
  (h.mono fun _ => Action.launchesNothing_of_isBackground).tells

theorem tells_note (s : Session σ) {e : Event} (he : e.child? = none) :
    s.Tells ((Action.note e).apply s) :=
  ⟨[], Launches.refl.quiet (by simp [Action.launchesNothing, he])⟩

/-- The children that the milestones name are those that the host has launched. -/
theorem Launches.children (h : s.Launches ids t) :
    t.journal.milestones.filterMap Event.child? =
      s.journal.milestones.filterMap Event.child? ++ ids := by
  induction h with
  | refl => rw [List.append_nil]
  | @quiet ids t a _ ha ih =>
    rw [← ih]
    cases a with
    | note e =>
      have he : e.child? = none := by simpa [Action.launchesNothing] using ha
      change (Journal.milestones (e :: t.journal)).filterMap Event.child? = _
      rw [Journal.milestones_cons, List.filterMap_append]
      split
      · simp [he]
      · simp
    | _ => rfl
  | failed _ _ ih => exact ih
  | @launched ids t dir l pid e _ _ he ih =>
    -- a note that names a child is kept among the milestones
    have hmilestone : e.isMilestone = true := by
      by_contra hnot
      simp [Event.child?_eq_none (Bool.eq_false_iff.mpr hnot)] at he
    change (Journal.milestones (e :: t.journal)).filterMap Event.child? = _
    rw [Journal.milestones_cons_of hmilestone, List.filterMap_append, ih, List.append_assoc]
    simp [he]

/-- The note of a launch stands on top of what had been noted when the host launched the program. -/
theorem Launches.spawned {e : Event} {pid : Pid} (h : s.Launches ids t) (he : e.child? = some pid)
    {later past : Journal} (hpast : s.journal <:+ past) (hj : t.journal = later ++ e :: past) :
    ∃ u before after dir l, s.Launches before u ∧ u.journal = past ∧
      (Host.spawn dir l u.host).1 = .ok pid ∧
      ((Action.note e).apply ((Action.spawn dir l).apply u)).Launches after t := by
  -- the last action has made the note that is asked about, or it came before
  induction h generalizing later with
  | refl =>
    have hlength := hpast.length_le
    rw [hj] at hlength
    simp at hlength
    omega
  | @quiet ids t a h ha ih =>
    have hbefore {later : Journal} (hj : t.journal = later ++ e :: past) : ∃ u before after dir l,
        s.Launches before u ∧ u.journal = past ∧ (Host.spawn dir l u.host).1 = .ok pid ∧
        ((Action.note e).apply ((Action.spawn dir l).apply u)).Launches after (a.apply t) := by
      obtain ⟨u, before, after, dir, l, hu, hjournal, hspawn, hafter⟩ := ih hj
      exact ⟨u, before, after, dir, l, hu, hjournal, hspawn, hafter.quiet ha⟩
    cases a with
    | note e' =>
      have hj' : e' :: t.journal = later ++ e :: past := hj
      cases later with
      | nil =>
        obtain ⟨rfl, -⟩ := List.cons.inj hj'
        simp [Action.launchesNothing, he] at ha
      | cons _ later => exact hbefore (List.cons.inj hj').2
    | _ => exact hbefore hj
  | failed h hspawn ih =>
    obtain ⟨u, before, after, dir, l, hu, hjournal, hpid, hafter⟩ := ih hj
    exact ⟨u, before, after, dir, l, hu, hjournal, hpid, hafter.failed hspawn⟩
  | @launched ids t dir l pid' e' h hspawn he' ih =>
    have hj' : e' :: t.journal = later ++ e :: past := hj
    cases later with
    | nil =>
      obtain ⟨rfl, hjournal⟩ := List.cons.inj hj'
      obtain rfl : pid' = pid := Option.some.inj (he'.symm.trans he)
      exact ⟨t, ids, [], dir, l, h, hjournal, hspawn, .refl⟩
    | cons _ later =>
      obtain ⟨u, before, after, dir', l', hu, hjournal, hpid, hafter⟩ := ih (List.cons.inj hj').2
      exact ⟨u, before, _, dir', l', hu, hjournal, hpid, hafter.launched hspawn he'⟩

end Session

/-! ### The services -/

namespace Supervising

/-- Whatever becomes of a part of the supervisor's work, every launch in it has been noted. -/
def Tells (t : Supervising σ α) : Prop :=
  ∀ v : Supervisor σ, Ends t v (fun _ v' => v.session.Tells v'.session)
    (fun _ v' => v.session.Tells v'.session)

namespace Tells

variable {t : Supervising σ α} {f : α → Supervising σ β}

theorem pure (a : α) : (Pure.pure a : Supervising σ α).Tells := fun _ => .refl _

theorem bind (ht : t.Tells) (hf : ∀ a, (f a).Tells) : (t >>= f).Tells := fun v =>
  (ht v).bind fun a v' h => (hf a v').mono (fun _ _ h' => h.trans h') fun _ _ h' => h.trans h'

theorem get : (MonadState.get : Supervising σ (Supervisor σ)).Tells := fun _ => .refl _

theorem lift {t : Task σ α} (ht : t.Orderly) : (liftM t : Supervising σ α).Tells := fun v =>
  ends_lift ((ht v.session).mono (fun _ _ h => h.reaches.background_tells)
    fun _ _ h => h.reaches.background_tells)

end Tells

theorem tells_start (sv : Supervision σ) (spec : ServiceSpec) : (start sv spec).Tells := fun v => by
  -- a start that is broken off has left the same behind as one that ends
  have hleaves {v' : Supervisor σ} (h : Leaves sv spec v v') : v.session.Tells v'.session := by
    cases h with
    | refused _ => exact .refl _
    | unlaunched _ hspawn => exact ⟨[], .failed .refl hspawn⟩
    | @entered pid _ _ _ hspawn hreach _ _ =>
      have hnoted := Session.Launches.refl.launched (e := .launched spec.role pid) hspawn rfl
      have hlaunched : v.session.Tells (launched sv spec pid v.session) :=
        ⟨_, hnoted.quiet (a := .folder _) rfl⟩
      exact hlaunched.trans (hreach.mono fun _ => Action.launchesNothing_of_isStarting).tells
  exact (start_leaves sv spec v).mono (fun _ _ h => hleaves h) fun _ _ h => hleaves h

theorem tells_covers (sv : Supervision σ) : Covers sv fun α (t : Supervising σ α) => t.Tells where
  toIsClosed := ⟨.pure, .bind⟩
  get := .get
  endStatus role t := .lift ((Task.orderly_coversEnding t.pid).endStatus sv role)
  exitStatus? _ := .lift (Task.smooth_ask _).orderly
  forget role pid := by
    have hentry : (modify (·.withEntry role none) : Supervising σ Unit).Tells := fun _ => .refl _
    exact .bind (.lift (Task.smooth_stopForwarder pid).orderly) fun _ =>
      .bind (.lift (Task.smooth_inFolder _).orderly) fun _ => hentry
  note he := .lift (Task.smooth_emit (Event.isMilestone_of_isOfTeardown he)).orderly

theorem tells_teardownAll (sv : Supervision σ) (hr : sv.reclaimer.IsOrderly) :
    (teardownAll sv).Tells := by
  have hcounted : (modify fun s => { s with passes := s.passes + 1 } : Supervising σ Unit).Tells :=
    fun _ => .refl _
  have hbegun : (liftM (Task.emit .teardownBegun : Task σ Unit) : Supervising σ Unit).Tells :=
    fun v => v.session.tells_note rfl
  exact hcounted.bind fun _ => hbegun.bind fun _ => ((tells_covers sv).stopAll _).bind fun _ =>
    (Tells.lift (hr.reclaim _ _)).bind fun _ => ((tells_covers sv).forgetReaped _).bind fun _ =>
      .pure _

end Supervising

/-! ### A whole run -/

namespace Running

/-- Whatever becomes of a part of a run, every launch in it has been noted. -/
def Tells (t : Running σ α) : Prop :=
  ∀ c : Controller σ, Ends t c (fun _ c' => c.session.Tells c'.session)
    (fun _ c' => c.session.Tells c'.session)

namespace Tells

variable {t u : Running σ α} {f : α → Running σ β}

theorem pure (a : α) : (Pure.pure a : Running σ α).Tells := fun _ => .refl _

theorem bind (ht : t.Tells) (hf : ∀ a, (f a).Tells) : (t >>= f).Tells := fun c =>
  (ht c).bind fun a c' h => (hf a c').mono (fun _ _ h' => h.trans h') fun _ _ h' => h.trans h'

theorem ite {c : Prop} [Decidable c] (ht : t.Tells) (hu : u.Tells) : (if c then t else u).Tells := by
  split
  · exact ht
  · exact hu

theorem get : (MonadState.get : Running σ (Controller σ)).Tells := fun _ => .refl _

theorem services {t : Supervising σ α} (ht : t.Tells) : (liftM t : Running σ α).Tells := fun c =>
  ends_services (ht c.supervisor)

theorem task {t : Task σ α} (ht : t.Orderly) : (Running.task t).Tells := services (.lift ht)

theorem print (text : String) : (Running.print text : Running σ Unit).Tells :=
  task (Task.smooth_print text).orderly

theorem note {e : Event} (he : e.child? = none) : (Running.task (Task.emit e) : Running σ Unit).Tells :=
  fun c => ends_task (c.session.tells_note he)

theorem transition (b : RunState) : (Running.transition b : Running σ Unit).Tells := by
  have hchanged : (modify ({ · with state := b }) : Running σ Unit).Tells := fun _ => .refl _
  exact get.bind fun c => .ite ((note rfl).bind fun _ => hchanged) (.pure ())

theorem marks {t : Task σ (Except HarnessError Unit)} {e : Event} (ht : t.Marks e)
    (he : e.child? = none) : (Running.task t).Tells := fun c =>
  ends_task ((ht c.session).mono (fun r s' h => by
    match r with
    | .ok () =>
      obtain ⟨s₁, hs₁, rfl⟩ := h
      exact hs₁.reaches.background_tells.trans (s₁.tells_note he)
    | .error _ => exact h.2.reaches.background_tells) fun _ _ h => h.reaches.background_tells)

theorem tryCatch {h : Halt → Running σ α} (ht : t.Tells) (hh : ∀ e, (h e).Tells) :
    (MonadExcept.tryCatch t h).Tells := fun c =>
  (ht c).tryCatch fun e c' hc' => (hh e c').mono (fun _ _ h' => hc'.trans h')
    fun _ _ h' => hc'.trans h'

theorem forIn {γ : Type} {g : γ → β → Running σ (ForInStep β)} (hg : ∀ x b, (g x b).Tells)
    (l : List γ) (b : β) : (forIn l b g).Tells :=
  have hclosed : IsClosed fun α (t : Running σ α) => t.Tells := ⟨pure, bind⟩
  hclosed.forIn hg l b

end Tells

theorem tells_startService (p : Plan σ) (role : Role) : (startService p role).Tells := by
  refine (Tells.print _).bind fun _ => ?_
  refine (Tells.services (Supervising.tells_start p.supervision _)).bind fun r => ?_
  match r with
  | .error e => exact .pure _
  | .ok started => exact (Tells.print _).bind fun _ => .pure _

theorem tells_startServices (p : Plan σ) (roles : List Role) : (startServices p roles).Tells := by
  induction roles with
  | nil => exact .pure _
  | cons role roles ih =>
    refine (Tells.transition _).bind fun _ => (tells_startService p role).bind fun r => ?_
    match r with
    | .error e => exact .pure _
    | .ok () => exact ih

theorem tells_launchClient (p : Plan σ) : (launchClient p).Tells := by
  have hspawn : (task (Client.spawn p.config.workingDir p.config.clientLaunch) :
      Running σ _).Tells := fun c => by
    refine ends_task ((Client.spawn_ends _ _ c.session).mono (fun r s' ⟨hid, hr⟩ => ?_)
      fun _ _ h => h.elim)
    have hstarting : c.session.Launches [] ((Action.note .clientStarting).apply c.session) :=
      Session.Launches.refl.quiet rfl
    match r with
    | .ok pid =>
      rw [hr]
      exact ⟨_, hstarting.launched (e := .clientLaunched pid) ((hid pid).mp rfl) rfl⟩
    | .error e =>
      rw [hr.2]
      let s₀ := (Action.note .clientStarting).apply c.session
      -- the task has no id to give, so the host has given none
      cases hfailed : (Host.spawn p.config.workingDir p.config.clientLaunch s₀.host).1 with
      | error e' => exact ⟨_, hstarting.failed hfailed⟩
      | ok pid => exact absurd ((hid pid).mpr hfailed) nofun
  refine hspawn.bind fun r => ?_
  match r with
  | .error e => exact .pure _
  | .ok pid =>
    have hheld : (modify ({ · with client := some pid }) : Running σ Unit).Tells := fun _ => .refl _
    refine hheld.bind fun _ => (Tells.marks (Client.wait_marks pid) rfl).bind fun r => ?_
    match r with
    | .error e => exact .pure _
    | .ok () => exact (Tells.print _).bind fun _ => .pure _

theorem tells_drive (p : Plan σ) (hr : p.reclaimer.IsOrderly) : (drive p).Tells := by
  refine (Tells.transition _).bind fun _ =>
    (Tells.task (Preconditions.smooth_check p.config).orderly).bind fun r => ?_
  match r with
  | .error e => exact .pure _
  | .ok version =>
    refine (Tells.note rfl).bind fun _ => (Tells.marks (preflight_marks p hr) rfl).bind fun r => ?_
    match r with
    | .error e => exact .pure _
    | .ok () =>
      refine (tells_startServices p _).bind fun r => ?_
      match r with
      | .error e => exact .pure _
      | .ok () =>
        exact (Tells.transition _).bind fun _ => (Tells.print _).bind fun _ => tells_launchClient p

theorem tells_isCancelled : (isCancelled : Running σ Bool).Tells := fun c =>
  (isCancelled_ends (E := fun _ c' => c.session.Tells c'.session) c).mono
    (fun _ _ ⟨_, hc', hs, _⟩ => hc' ▸ hs.background_tells) fun _ _ h => h

theorem tells_setInterruptible (allowed : Bool) : (setInterruptible allowed : Running σ Unit).Tells :=
  fun _ => ⟨[], Session.Launches.refl.quiet (a := .interrupts allowed) rfl⟩

theorem tells_driveUntilShutdown (p : Plan σ) (hr : p.reclaimer.IsOrderly) :
    (driveUntilShutdown p).Tells := by
  refine tells_isCancelled.bind fun b => .ite (.pure _) ?_
  refine (tells_setInterruptible true).bind fun _ => ?_
  refine ((tells_drive p hr).tryCatch fun e => ?_).bind fun outcome =>
    (tells_setInterruptible false).bind fun _ => .pure _
  cases e with
  | interrupted => exact .pure _
  | crashed _ | exhausted => exact fun _ => .refl _

theorem tells_teardown (p : Plan σ) (hr : p.reclaimer.IsOrderly) : (teardown p).Tells := by
  have hentered : (modify ({ · with tornDown := true }) : Running σ Unit).Tells := fun _ => .refl _
  have hclient : (endClient p.config.teardown : Running σ Unit).Tells := by
    refine Tells.get.bind fun c => ?_
    match c.client with
    | none => exact .pure _
    | some pid =>
      have hgone : (modify ({ · with client := none }) : Running σ Unit).Tells := fun _ => .refl _
      exact hgone.bind fun _ => .task (orderly_stopClient _ pid)
  have hservices : (stopServices p.supervision).Tells := by
    refine (Tells.services (Supervising.tells_teardownAll p.supervision hr)).bind fun summary => ?_
    refine (Tells.forIn (fun _ _ => (Tells.print _).bind fun _ => .pure _) _ _).bind fun _ => ?_
    exact .ite (.note rfl) (.pure _)
  exact Tells.get.bind fun _ => .ite ((Tells.note rfl).bind fun _ => .pure _)
    (hentered.bind fun _ => (Tells.transition _).bind fun _ => (Tells.print _).bind fun _ =>
      hclient.bind fun _ => hservices)

theorem tells_report (startedAt : Timestamp) (outcome : Except HarnessError Unit) :
    (report startedAt outcome : Running σ RunReport).Tells := by
  have hfinal : (finalOutcome outcome : Running σ _).Tells := by
    match outcome with
    | .error e => exact .pure _
    | .ok () =>
      exact tells_isCancelled.bind fun _ => .ite ((Tells.print _).bind fun _ => .pure _) (.pure _)
  have hconclude (final : Except HarnessError Unit) : (conclude final : Running σ Unit).Tells := by
    match final with
    | .ok () => exact (Tells.transition _).bind fun _ => .print _
    | .error e => exact (Tells.transition _).bind fun _ => .print _
  have habandon : (Supervising.abandon Role.startOrder : Supervising σ Unit).Tells := fun v =>
    (Supervising.abandon_ends Role.startOrder v).mono (fun _ _ h => h.1.reaches.background_tells)
      fun _ _ h => h.elim
  exact hfinal.bind fun final => (hconclude final).bind fun _ => Tells.get.bind fun _ =>
    (Tells.task (Task.smooth_ask _).orderly).bind fun _ =>
      (Tells.services habandon).bind fun _ => .pure _

theorem tells_run (p : Plan σ) (hr : p.reclaimer.IsOrderly) : (run p).Tells := by
  have hsay (outcome : Except HarnessError Unit) : (sayFailure outcome : Running σ Unit).Tells := by
    match outcome with
    | .ok () => exact .pure _
    | .error e => exact .print _
  have hclean (outcome : Except HarnessError Unit) : (cleanUp p outcome).Tells :=
    Tells.get.bind fun _ => .ite (tells_teardown p hr) (.pure _)
  exact (Tells.task (Task.smooth_ask _).orderly).bind fun startedAt =>
    (tells_driveUntilShutdown p hr).bind fun outcome => (hsay outcome).bind fun _ =>
      (hclean outcome).bind fun _ => tells_report startedAt outcome

/-- The children that the milestones of a run name are the programs that the host has launched in
it, in that order, whether it ends with a report or is halted. -/
theorem run_notes_its_launches (p : Plan σ) (hr : p.reclaimer.IsOrderly) (host : σ) (pids : Folder) :
    let s := Session.start host pids
    Ends (run p) (Controller.start s)
      (fun _ k => s.Launches (k.session.journal.milestones.filterMap Event.child?) k.session)
      (fun _ k => s.Launches (k.session.journal.milestones.filterMap Event.child?) k.session) := by
  intro s
  have hnoted {k : Controller σ} (h : s.Tells k.session) :
      s.Launches (k.session.journal.milestones.filterMap Event.child?) k.session := by
    obtain ⟨ids, hids⟩ := h
    rw [hids.children]
    exact hids
  exact (tells_run p hr (Controller.start s)).mono (fun _ _ h => hnoted h) fun _ _ h => hnoted h

end Running

end LatencyHarness
