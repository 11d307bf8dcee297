import LatencyHarness.Proofs.Bench
import LatencyHarness.Proofs.Teardown

/-! The end of a run: which states it has visited by then, how often it is torn down, and what its
report says of the outcome of its way forward. -/
namespace LatencyHarness

variable {σ : Type} [Host σ] {E : Halt → Controller σ → Prop}

open Course

namespace Running

/-! ### The end of a run -/

/-- Whether a run is torn down after its way forward. -/
def IsTornDown (outcome : Except HarnessError Unit) (m : Controller σ) : Prop :=
  m.state ≠ .preflightCleanup ∨ outcome = .error .interrupted

/-- The outcome of a run that was good so far depends on the token at the end. -/
def outcomeWith (cancelled : Bool) : Except HarnessError Unit → Except HarnessError Unit
  | .error e => .error e
  | .ok () => if cancelled then .error .interrupted else .ok ()

/-- The state that a run with this outcome ends in. -/
def lastState : Except HarnessError Unit → RunState
  | .ok () => .done .success
  | .error _ => .done .failure

/-- What a run passes after its way forward. -/
structure Finishes (p : Plan σ) (outcome : Except HarnessError Unit) (m : Controller σ)
    (report : RunReport) (k : Controller σ) : Prop where
  state : report.state = lastState (outcomeWith k.session.cancelled outcome)
  failure : report.failure = failureText (outcomeWith k.session.cancelled outcome)
  /-- a request is looked for where everything has been stopped -/
  asked : ∃ m' t, sayFailure outcome m = .ok () m' ∧ cleanUp p outcome m' = .ok () t ∧
    (outcome = .ok () → (k.session.cancelled = true ↔ t.session.IsRequested))
  /-- nothing is torn down where nothing has been launched -/
  closed : ¬ IsTornDown outcome m → report.teardownPasses = .ofNat m.supervisor.passes ∧
    m.session.Through [.stateChanged m.state report.state] k.session
  tornDown : IsTornDown outcome m → report.teardownPasses = .ofNat (m.supervisor.passes + 1) ∧
    m.session.Through [.stateChanged m.state .tearingDown, .teardownBegun,
      .stateChanged .tearingDown report.state] k.session ∧
    ∃ m' t s v, m' = m.withSession m'.session ∧
      m.session.Reaches (Action.isBackground ·) m'.session ∧ TearsDown p m' t s v ∧
      t.session.Later k.session

theorem finalOutcome_ends (outcome : Except HarnessError Unit) (c : Controller σ) :
    Ends (finalOutcome outcome) c (fun final c' =>
      c.session.Reaches (Action.isBackground ·) c'.session ∧ c' = c.withSession c'.session ∧
        final = outcomeWith c'.session.cancelled outcome ∧
        (outcome = .ok () → (c'.session.cancelled = true ↔ c.session.IsRequested))) E := by
  match outcome with
  | .error e => exact ⟨.refl _, rfl, rfl, nofun⟩
  | .ok () =>
    refine ((isCancelled_hears c).of_total.also (isCancelled_ends (E := E) c)).bind ?_
    rintro b _ ⟨⟨-, hheard, -⟩, s', rfl, hs', rfl⟩
    split
    · -- what was good so far has been interrupted after all
      next hcancelled =>
      have hprinted : s'.Reaches (Action.isBackground ·)
          ((Action.note (.line s!"❌ {HarnessError.interrupted.message}")).apply s') :=
        .step s' rfl
      exact ⟨hs'.trans hprinted, rfl, (if_pos hcancelled).symm, fun _ => hheard⟩
    · next hcancelled => exact ⟨hs', rfl, (if_neg hcancelled).symm, fun _ => hheard⟩

/-- A run is concluded by a change to its last state. -/
theorem conclude_ends (outcome : Except HarnessError Unit) (c : Controller σ)
    (hstate : ∀ v, c.state ≠ .done v) :
    Ends (conclude outcome) c (fun _ c' => c'.state = lastState outcome ∧
      c'.supervisor.passes = c.supervisor.passes ∧ c'.session.cancelled = c.session.cancelled ∧
      c.session.Through [.stateChanged c.state (lastState outcome)] c'.session) E := by
  have hclosed (v : Verdict) (text : String) : Ends (do
      transition (.done v)
      print text) c (fun _ c' => c'.state = .done v ∧
        c'.supervisor.passes = c.supervisor.passes ∧
        c'.session.cancelled = c.session.cancelled ∧
        c.session.Through [.stateChanged c.state (.done v)] c'.session) E := by
    refine (transition_ends (hstate v)).bind fun _ c' hc' => ?_
    subst hc'
    exact ⟨rfl, rfl, rfl, (Session.Through.note c.session rfl).trans
      (.of_reaches (.step _ (a := .note (.line text)) rfl))⟩
  match outcome with
  | .ok () => exact hclosed .success _
  | .error _ => exact hclosed .failure _

theorem sayFailure_ends (outcome : Except HarnessError Unit) (c : Controller σ) :
    Ends (sayFailure outcome) c (fun _ c' =>
      c' = c.withSession c'.session ∧ c.session.Reaches (Action.isBackground ·) c'.session) E := by
  match outcome with
  | .ok () => exact ⟨rfl, .refl _⟩
  | .error _ => exact ⟨rfl, .step _ (a := .note (.line _)) rfl⟩

theorem isInterruption_iff (outcome : Except HarnessError Unit) :
    isInterruption outcome = true ↔ outcome = .error .interrupted := by
  cases outcome with
  | ok u => simp [isInterruption]
  | error e => cases e <;> simp [isInterruption]

theorem cleanUp_ends (p : Plan σ) (hr : p.reclaimer.IsOrderly) (outcome : Except HarnessError Unit)
    (c : Controller σ) (hfirst : c.tornDown = false) (hstate : c.state ≠ .tearingDown) :
    Ends (cleanUp p outcome) c (fun _ c' =>
      (IsTornDown outcome c → ∃ s v, TearsDown p c c' s v) ∧ (¬ IsTornDown outcome c → c' = c))
      fun _ _ => True := by
  have hneeded : (decide (c.state ≠ .preflightCleanup) || isInterruption outcome) = true ↔
      IsTornDown outcome c := by
    rw [Bool.or_eq_true, decide_eq_true_iff, isInterruption_iff, IsTornDown]
  change Ends (if (decide (c.state ≠ .preflightCleanup) || isInterruption outcome) = true
    then teardown p else pure ()) c _ _
  by_cases htorn : IsTornDown outcome c
  · rw [if_pos (hneeded.mpr htorn)]
    exact (teardown_ends p hr c hfirst hstate).mono
      (fun _ _ h => ⟨fun _ => h, fun hnot => absurd htorn hnot⟩) fun _ _ h => h
  · rw [if_neg (mt hneeded.mp htorn)]
    exact ⟨fun h => absurd h htorn, fun _ => rfl⟩

/-- The report tells the state and the failure that the token at the end makes of the outcome. -/
theorem report_ends (startedAt : Timestamp) (outcome : Except HarnessError Unit)
    (c : Controller σ) (hstate : ∀ v, c.state ≠ .done v) :
    Ends (report startedAt outcome) c (fun r k =>
      r.state = lastState (outcomeWith k.session.cancelled outcome) ∧
      r.failure = failureText (outcomeWith k.session.cancelled outcome) ∧
      r.teardownPasses = .ofNat c.supervisor.passes ∧
      (outcome = .ok () → (k.session.cancelled = true ↔ c.session.IsRequested)) ∧
      c.session.Through [.stateChanged c.state r.state] k.session) fun _ _ => True := by
  refine (finalOutcome_ends outcome c).bind fun final c₁ ⟨h₁, hc₁, hfinal, hasked⟩ => ?_
  have hstate₁ : c₁.state = c.state := by rw [hc₁]; rfl
  have hpasses₁ : c₁.supervisor.passes = c.supervisor.passes := by rw [hc₁]; rfl
  refine (conclude_ends final c₁ (hstate₁ ▸ hstate)).bind
    fun _ c₂ ⟨hstate₂, hpasses₂, hcancelled₂, h₂⟩ => ?_
  -- letting go of the services neither hears of a request nor passes a milestone
  have habandon : Ends (liftM (Supervising.abandon Role.startOrder) : Running σ Unit) c₂
      (fun _ k => c₂.supervisor.Follows k.supervisor ∧
        k.session.cancelled = c₁.session.cancelled) (fun _ _ => True) :=
    ends_services ((Supervising.abandon_ends Role.startOrder c₂.supervisor).weaken
      fun _ _ h => ⟨h.1, h.2.trans hcancelled₂⟩)
  refine habandon.bind fun _ k ⟨hk, hcancelled⟩ => ?_
  rw [← hcancelled] at hfinal hasked
  rw [hstate₁] at h₂
  refine ⟨hstate₂.trans (hfinal ▸ rfl), hfinal ▸ rfl,
    congrArg UInt32.ofNat (hpasses₂.trans hpasses₁), hasked, ?_⟩
  have hthrough := ((Session.Through.of_reaches h₁).trans h₂).trans (.of_reaches hk.reaches)
  exact hstate₂ ▸ hthrough

/-- A run that is not over yet has a way forward behind it and an end before it. -/
theorem run_ends (p : Plan σ) (hr : p.reclaimer.IsOrderly) (c : Controller σ)
    (hdriven : ∀ outcome m, driveUntilShutdown p c = .ok outcome m →
      m.tornDown = false ∧ m.state ≠ .tearingDown ∧ ∀ v, m.state ≠ .done v) :
    Ends (run p) c (fun report k => ∃ outcome m,
      driveUntilShutdown p c = .ok outcome m ∧ Finishes p outcome m report k)
      fun _ _ => True := by
  refine (Ends.ok_self (driveUntilShutdown p) c).bind fun outcome m hm => ?_
  obtain ⟨hfirst, hnot, hdone⟩ := hdriven outcome m hm
  have hsay := (sayFailure_ends (E := fun _ _ => True) outcome m).also
    (Ends.ok_self (sayFailure outcome) m)
  refine hsay.bind fun _ m' ⟨⟨hm', hsaid⟩, hsayrun⟩ => ?_
  have hfirst' : m'.tornDown = false := by rw [hm']; exact hfirst
  have hstate' : m'.state = m.state := by rw [hm']; rfl
  have hpasses' : m'.supervisor.passes = m.supervisor.passes := by rw [hm']; rfl
  have hsame : IsTornDown outcome m' ↔ IsTornDown outcome m := by
    rw [IsTornDown, IsTornDown, hstate']
  have hclean := (cleanUp_ends p hr outcome m' hfirst' (hstate' ▸ hnot)).also
    (Ends.ok_self (cleanUp p outcome) m')
  refine hclean.bind fun _ t ⟨⟨htorn, hclosed⟩, hcleanrun⟩ => ?_
  -- the last change of state is still to come, torn down or not
  have hlast : ∀ v, t.state ≠ .done v := by
    by_cases h : IsTornDown outcome m'
    · obtain ⟨s, v, ht⟩ := htorn h
      exact fun v' => by simp [ht.state]
    · rw [hclosed h, hstate']
      exact hdone
  refine (report_ends _ outcome t hlast).mono
    (fun r k ⟨hstate, hfailure, hpasses, hasked, hk⟩ => ⟨outcome, m, hm, hstate, hfailure,
      ⟨m', t, hsayrun, hcleanrun, hasked⟩, fun h => ?_, fun h => ?_⟩) fun _ _ h => h
  · obtain rfl := hclosed (mt hsame.mp h)
    rw [hpasses, hpasses', ← hstate']
    exact ⟨rfl, (Session.Through.of_reaches hsaid).trans hk⟩
  · obtain ⟨s, v, ht⟩ := htorn (hsame.mpr h)
    obtain ⟨hthrough, htpasses⟩ := ht.through
    rw [hpasses, htpasses, hpasses', ← hstate']
    refine ⟨rfl, ?_, m', t, s, v, hm', hsaid, ht, hk.later⟩
    rw [ht.state] at hk
    exact (Session.Through.of_reaches hsaid).trans (hthrough.trans hk)

/-! ### The course of a whole run -/

variable {p : Plan σ} {outcome : Except HarnessError Unit} {m k : Controller σ}
  {ms : List Event} {report : RunReport}

theorem Driven.visits_onWay (h : Driven p outcome m ms) :
    visits ms <+: [.preflightCleanup, .startingDependencyA, .startingDependencyB,
      .runningClient] := by
  obtain ⟨version, pid₂, pid₁, client, hp⟩ := h.onWay
  exact visits_of_onWay hp

theorem Driven.state_mem (h : Driven p outcome m ms) :
    m.state ∈ [RunState.preflightCleanup, .startingDependencyA, .startingDependencyB,
      .runningClient] :=
  h.visits_onWay.subset (List.mem_of_getLast? h.onCourse.state)

theorem Driven.state_ne_iff (h : Driven p outcome m ms) :
    m.state ≠ .preflightCleanup ↔ .startingDependencyA ∈ visits ms := by
  have hlast := h.onCourse.state
  have hstart := h.visits_onWay
  unfold visits at hlast hstart ⊢
  -- the state is the last one visited, and the first one is visited at the beginning only
  cases hv : ms.filterMap Event.arrival? with
  | nil =>
    have hfirst : RunState.preflightCleanup = m.state := by simpa [hv] using hlast
    simp [← hfirst]
  | cons x rest =>
    rw [hv, List.getLast?_cons_cons] at hlast
    rw [hv, List.cons_prefix_cons, List.cons_prefix_cons] at hstart
    obtain ⟨-, rfl, hrest⟩ := hstart
    have hmem : m.state ∈ [RunState.startingDependencyA, .startingDependencyB, .runningClient] := by
      rcases List.mem_cons.mp (List.mem_of_getLast? hlast) with heq | htail
      · exact heq ▸ List.mem_cons_self
      · exact List.mem_cons_of_mem _ (hrest.subset htail)
    refine iff_of_true (fun hpre => ?_) (by simp)
    simp [hpre] at hmem

theorem Driven.state_of_ok (h : Driven p (.ok ()) m ms) : m.state = .runningClient := by
  obtain ⟨version, pid₂, pid₁, client, hp⟩ := h.onWay
  have hlast := h.onCourse.state
  rw [eq_way_of_mem hp (h.complete.mp rfl)] at hlast
  exact (Option.some.inj hlast).symm

/-- A run that is not torn down has failed in its first state. -/
theorem Driven.closed (h : Driven p outcome m ms) (hk : Finishes p outcome m report k)
    (hclosed : ¬ IsTornDown outcome m) :
    report.state = .done .failure ∧ report.teardownPasses = 0 ∧
      k.session.journal.milestones = ms ++ [.stateChanged .preflightCleanup (.done .failure)] := by
  have hstate : m.state = .preflightCleanup := not_not.mp fun hne => hclosed (.inl hne)
  have hfailed : report.state = .done .failure := by
    match outcome with
    | .ok () => exact absurd (h.state_of_ok.symm.trans hstate) nofun
    | .error _ => exact hk.state
  obtain ⟨hpasses, hthrough⟩ := hk.closed hclosed
  refine ⟨hfailed, by rw [hpasses, h.onCourse.services.passes]; rfl, ?_⟩
  rw [hthrough.milestones, h.onCourse.milestones, hstate, hfailed]

/-- A run that is torn down passes three milestones after its way forward. -/
theorem Driven.tornDown (h : Driven p outcome m ms) (hk : Finishes p outcome m report k)
    (htorn : IsTornDown outcome m) :
    report.teardownPasses = 1 ∧ k.session.journal.milestones = ms ++
      [.stateChanged m.state .tearingDown, .teardownBegun,
        .stateChanged .tearingDown report.state] := by
  obtain ⟨hpasses, hthrough, -⟩ := hk.tornDown htorn
  refine ⟨by rw [hpasses, h.onCourse.services.passes]; rfl, ?_⟩
  rw [hthrough.milestones, h.onCourse.milestones]

theorem Finishes.state_done (hk : Finishes p outcome m report k) : ∃ v, report.state = .done v := by
  rw [hk.state]
  cases outcomeWith k.session.cancelled outcome with
  | ok _ => exact ⟨_, rfl⟩
  | error _ => exact ⟨_, rfl⟩

/-- The course of a whole run is lawful, and the state it ends in is that of its report. -/
theorem Driven.isLawful (h : Driven p outcome m ms) (hk : Finishes p outcome m report k) :
    IsLawful p.config k.session.journal.milestones ∧
      (visits k.session.journal.milestones).getLast? = some report.state := by
  obtain ⟨version, pid₂, pid₁, client, hp⟩ := h.onWay
  have hway : IsLawful p.config ms := (way_lawful _ _ _ _ _).of_start hp
  have hnew {b : RunState} (hb : b ∉ [RunState.preflightCleanup, .startingDependencyA,
      .startingDependencyB, .runningClient]) : b ∉ visits ms :=
    fun hmem => hb (h.visits_onWay.subset hmem)
  have hlast := h.onCourse.state
  by_cases htorn : IsTornDown outcome m
  · -- the three milestones of a teardown, each permitted after those before it
    obtain ⟨v, hv⟩ := hk.state_done
    rw [(h.tornDown hk htorn).2, hv]
    have hentered := hway.snoc (e := .stateChanged m.state .tearingDown)
      ⟨hlast, .tearDown (fun hs => ?_) (fun v hs => ?_), hnew (by simp)⟩
    · have hbegun := hentered.snoc (e := .teardownBegun) trivial
      have hended := hbegun.snoc (e := .stateChanged .tearingDown (.done v))
        ⟨by simp [Event.arrival?, List.filterMap_cons], .finish v,
          by simpa [Event.arrival?] using hnew (by simp)⟩
      exact ⟨by simpa using hended, by simp [Event.arrival?, List.filterMap_cons]⟩
    · exact absurd (hs ▸ h.state_mem) (by simp)
    · exact absurd (hs ▸ h.state_mem) (by simp)
  · -- otherwise the run gives up in its first state
    have hpre : m.state = .preflightCleanup := not_not.mp fun hne => htorn (.inl hne)
    obtain ⟨hstate, -, hms⟩ := h.closed hk htorn
    rw [hms, hstate]
    exact ⟨hway.snoc ⟨hpre ▸ hlast, .giveUp, hnew (by simp)⟩, by simp [Event.arrival?]⟩

theorem Driven.not_mem_teardown (h : Driven p outcome m ms) :
    .teardownBegun ∉ ms ∧ ∀ a, .stateChanged a .tearingDown ∉ ms := by
  obtain ⟨version, pid₂, pid₁, client, hp⟩ := h.onWay
  refine ⟨fun hmem => ?_, fun a hmem => ?_⟩
  · have hway : Event.teardownBegun ∈ way p.config version pid₂ pid₁ client := hp.subset hmem
    simp [way] at hway
  · have hvisit := h.visits_onWay.subset (mem_visits_of_mem hmem)
    simp at hvisit

/-- After its way forward a run only changes its state and begins a teardown. -/
theorem Driven.mem_iff (h : Driven p outcome m ms) (hk : Finishes p outcome m report k) {e : Event}
    (he : e.isMilestone = true) (hchange : e.arrival? = none) (hbegun : e ≠ .teardownBegun) :
    e ∈ k.session.journal ↔ e ∈ ms := by
  have hnot (a b : RunState) : e ≠ .stateChanged a b := by
    rintro rfl
    simp [Event.arrival?] at hchange
  rw [← Journal.mem_milestones he]
  by_cases htorn : IsTornDown outcome m
  · rw [(h.tornDown hk htorn).2]
    simp [hnot, hbegun]
  · rw [(h.closed hk htorn).2.2]
    simp [hnot]

/-- A run is torn down exactly if it has begun to start a service or was interrupted. -/
theorem Driven.isTornDown_iff (h : Driven p outcome m ms) (hk : Finishes p outcome m report k) :
    IsTornDown outcome m ↔ .startingDependencyA ∈ visits k.session.journal.milestones ∨
      outcome = .error .interrupted := by
  rw [IsTornDown, h.state_ne_iff]
  -- neither the teardown nor the end of a run is the start of a service
  refine or_congr_left ?_
  obtain ⟨v, hv⟩ := hk.state_done
  by_cases htorn : IsTornDown outcome m
  · rw [(h.tornDown hk htorn).2, hv]
    simp [Event.arrival?, List.filterMap_cons]
  · rw [(h.closed hk htorn).2.2]
    simp [Event.arrival?]

theorem except_bind_ok {ε α β : Type} {x : Except ε α} {f : α → Except ε β} {b : β}
    (h : x >>= f = .ok b) : ∃ a, x = .ok a ∧ f a = .ok b := by
  cases x with
  | ok a => exact ⟨a, rfl, h⟩
  | error _ => exact absurd h nofun

theorem except_mapError_ok {ε ε' α : Type} {g : ε → ε'} {x : Except ε α} {a : α}
    (h : x.mapError g = .ok a) : x = .ok a := by
  cases x with
  | ok _ => exact congrArg Except.ok (Except.ok.inj h)
  | error _ => exact absurd h nofun

omit [Host σ] in
theorem ofConfig_ok [Pattern.Wording] {c : Config} {r : Reclaimer σ}
    (hp : Plan.ofConfig c r = .ok p) :
    p.config = c ∧ p.supervision.reclaimer = r ∧ p.supervision.teardown = c.teardown := by
  -- a plan comes of the parts of the configuration, each of them valid
  obtain ⟨_, -, hparts⟩ := except_bind_ok (except_mapError_ok hp)
  obtain ⟨patterns, -, hparts⟩ := except_bind_ok hparts
  obtain ⟨escalation, -, hparts⟩ := except_bind_ok hparts
  obtain ⟨v, hv, hplan⟩ := except_bind_ok hparts
  obtain ⟨sweep, -, hsupervision⟩ := except_bind_ok hv
  rw [← Except.ok.inj hplan, ← Except.ok.inj hsupervision]
  exact ⟨rfl, rfl, rfl⟩

theorem run_ok [Pattern.Wording] {c : Config} {r : Reclaimer σ}
    (hp : Plan.ofConfig c r = .ok p) (hr : r.IsOrderly) {host : σ} {pids : Folder}
    (hrun : run p (Controller.start (Session.start host pids)) = .ok report k) :
    ∃ outcome m ms,
      driveUntilShutdown p (Controller.start (Session.start host pids)) = .ok outcome m ∧
        Driven p outcome m ms ∧ Finishes p outcome m report k := by
  obtain ⟨-, hreclaimer, -⟩ := ofConfig_ok hp
  have hr' : p.reclaimer.IsOrderly := by rwa [Plan.reclaimer, hreclaimer]
  have hdriven := driveUntilShutdown_ends p hr' host pids
  have hends := run_ends p hr' (Controller.start (Session.start host pids)) fun outcome m hm => by
    obtain ⟨ms, h⟩ := hdriven.of_ok hm
    have hmem := h.state_mem
    exact ⟨h.onCourse.tornDown, fun hs => by simp [hs] at hmem, fun v hs => by simp [hs] at hmem⟩
  obtain ⟨outcome, m, hm, hk⟩ := hends.of_ok hrun
  obtain ⟨ms, h⟩ := hdriven.of_ok hm
  exact ⟨outcome, m, ms, hm, h, hk⟩

/-- The states, the teardowns and the launches of a run.

The run visits states along the edges of `RunState.Edge`, none of them twice, and ends in the last
state that its report names. Only if interrupted does it go from its first state to the teardown.
The services are torn down once if the run has begun to start one or was interrupted, and not at
all if not. Every milestone is one that `Course.Permits` after those before it. -/
theorem run_is_lawful [Pattern.Wording] {c : Config} {r : Reclaimer σ}
    (hp : Plan.ofConfig c r = .ok p) (hr : r.IsOrderly) {host : σ} {pids : Folder}
    (hrun : run p (Controller.start (Session.start host pids)) = .ok report k) :
    let ms := k.session.journal.milestones
    let interrupted := ∃ m, driveUntilShutdown p (Controller.start (Session.start host pids)) =
      .ok (.error .interrupted) m
    ((visits ms).IsChain RunState.Edge ∧ (visits ms).Nodup ∧
        (visits ms).getLast? = some report.state ∧ ∃ v, report.state = .done v) ∧
      (.stateChanged .preflightCleanup .tearingDown ∈ ms → interrupted) ∧
      (report.teardownPasses.toNat = ms.count .teardownBegun ∧
        (.startingDependencyA ∈ visits ms ∨ interrupted → ms.count .teardownBegun = 1) ∧
        (¬ (.startingDependencyA ∈ visits ms ∨ interrupted) → ms.count .teardownBegun = 0)) ∧
      IsLawful c ms := by
  obtain ⟨outcome, m, ms, hm, h, hk⟩ := run_ok hp hr hrun
  obtain ⟨rfl, -⟩ := ofConfig_ok hp
  intro ms' interrupted
  obtain ⟨hlawful, hlast⟩ := h.isLawful hk
  have hinterrupted : interrupted ↔ outcome = .error .interrupted := by
    constructor
    · rintro ⟨m', hm'⟩
      exact (EStateM.Result.ok.inj (hm.symm.trans hm')).1
    · rintro rfl
      exact ⟨m, hm⟩
  obtain ⟨hbegun, hchange⟩ := h.not_mem_teardown
  refine ⟨⟨hlawful.visits_chain.1, hlawful.visits_chain.2, hlast, hk.state_done⟩,
    fun hmem => hinterrupted.mpr ?_, ?_, hlawful⟩
  · -- a teardown from the first state has no other reason than an interruption
    by_cases htorn : IsTornDown outcome m
    · simp only [ms', (h.tornDown hk htorn).2, List.mem_append, List.mem_cons, hchange,
        Event.stateChanged.injEq] at hmem
      have hpre : m.state = .preflightCleanup := by simpa [eq_comm] using hmem
      exact htorn.resolve_left (not_not_intro hpre)
    · simp [ms', (h.closed hk htorn).2.2, hchange] at hmem
  · -- the teardowns that have begun are those that the report counts
    rw [hinterrupted, ← h.isTornDown_iff hk]
    by_cases htorn : IsTornDown outcome m
    · obtain ⟨hpasses, hms⟩ := h.tornDown hk htorn
      have hcount : ms'.count .teardownBegun = 1 := by
        simp [ms', hms, List.count_eq_zero_of_not_mem hbegun]
      exact ⟨by rw [hpasses, hcount]; rfl, fun _ => hcount, fun hnot => absurd htorn hnot⟩
    · obtain ⟨-, hpasses, hms⟩ := h.closed hk htorn
      have hcount : ms'.count .teardownBegun = 0 := by
        simp [ms', hms, List.count_eq_zero_of_not_mem hbegun]
      exact ⟨by rw [hpasses, hcount]; rfl, fun h => absurd h htorn, fun _ => hcount⟩

theorem run_is_lawful_on_bench :
    ∃ report k, run Simulation.Bench.plan Simulation.Bench.start = .ok report k ∧
      (visits k.session.journal.milestones).IsChain RunState.Edge ∧
      k.session.journal.milestones.count .teardownBegun = 1 ∧
      IsLawful Simulation.Bench.config k.session.journal.milestones := by
  obtain ⟨report, k, hrun, -, hpasses, -⟩ := Simulation.Bench.run_ends.exists_ok
  have h := run_is_lawful Simulation.Bench.plan_eq Simulation.Bench.plan_isOrderly hrun
  obtain ⟨⟨hchain, -⟩, -, ⟨hcount, -⟩, hlawful⟩ := h
  exact ⟨report, k, hrun, hchain, by rw [← hcount, hpasses]; rfl, hlawful⟩

end Running

end LatencyHarness
