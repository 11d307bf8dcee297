import LatencyHarness.Proofs.Books

/-! The way forward of a run: `Running.drive` goes along `Course.way`, and either comes to its end
or stops short of it. -/
namespace LatencyHarness

variable {σ : Type} [Host σ] {α : Type}

open Course

/-! ### Tasks that end with a mark -/

namespace Task

/-- A task in the background that ends with a mark if it is a success, and that does not fail for
a request for shutdown. -/
def Marks (t : Task σ (Except HarnessError Unit)) (e : Event) : Prop :=
  ∀ s, Ends t s
    (fun r s' =>
      match r with
      | .ok () => ∃ s₁, s.Passes s₁ ∧ s' = (Action.note e).apply s₁
      | .error e' => e' ≠ .interrupted ∧ s.Passes s')
    (s.HaltsAt · ·)

namespace Marks

variable {t u : Task σ (Except HarnessError Unit)} {e : Event}

theorem succeed (e : Event) : (do emit e; return .ok () : Task σ (Except HarnessError Unit)).Marks e :=
  fun s => ⟨s, .refl s, rfl⟩

theorem fail {err : HarnessError} (he : err ≠ .interrupted) :
    (return .error err : Task σ (Except HarnessError Unit)).Marks e := fun s => ⟨he, .refl s⟩

theorem throw {h : Halt} (hh : h ≠ .interrupted) :
    (throw h : Task σ (Except HarnessError Unit)).Marks e :=
  fun s => ⟨.refl s, fun hs => by simp [hh, hs.2]⟩

theorem after {b : Task σ α} {f : α → Task σ (Except HarnessError Unit)} (hb : b.Orderly)
    (hf : ∀ x, (f x).Marks e) : (b >>= f).Marks e := fun s =>
  (hb s).bind fun x s₁ h₁ => (hf x s₁).mono
    (fun r s' hr => by
      match r with
      | .ok () => exact hr.imp fun _ h => ⟨h₁.trans h.1, h.2⟩
      | .error _ => exact ⟨hr.1, h₁.trans hr.2⟩)
    fun _ _ he => h₁.haltsAt he

theorem ite {c : Prop} [Decidable c] (ht : t.Marks e) (hu : u.Marks e) :
    (if c then t else u).Marks e := by
  split
  · exact ht
  · exact hu

end Marks

end Task

/-- The checks before the launch are made at once, and do not fail for a request for shutdown. -/
theorem Preconditions.check_ends (c : Config) (s : Session σ) :
    Ends (check c : Task σ _) s (fun r s' => s.Passes s' ∧
      match r with
      | .ok _ => True
      | .error e => e ≠ .interrupted) (fun _ _ => False) := by
  -- neither of the two ways in which the checks fail is an interruption
  have hkind : Ends (check c : Task σ _) s (fun r _ =>
      match r with
      | .ok _ => True
      | .error e => e ≠ .interrupted) (fun _ _ => True) := by
    refine Task.ends_ask_bind ?_
    split
    · exact nofun
    · refine ((smooth_version? _ _).orderly.ends s).bind fun v _ _ => ?_
      match v with
      | some _ => trivial
      | none => exact nofun
  exact ((smooth_check c s).and hkind).mono (fun _ _ h => ⟨.of_cancelled_eq h.1.1 h.1.2, h.2⟩)
    fun _ _ h => h.1

theorem Running.orderly_busyPorts (r : Reclaimer σ) (ports : List Port) :
    (busyPorts r ports).Orderly := by
  induction ports with
  | nil => exact .pure _
  | cons p ps ih =>
    have hfree := Reclaimer.orderly_coversPorts.areFree r [p]
    exact hfree.bind fun _ => ih.bind fun _ => .pure _

theorem Running.preflight_marks (p : Plan σ) (hr : p.reclaimer.IsOrderly) :
    (preflight p).Marks .portsFree := by
  have hprint (text : String) : (Task.print text : Task σ Unit).Orderly :=
    (Task.smooth_print text).orderly
  refine .after (hprint _) fun _ => .after (hr.reclaim _ _) fun _ =>
    .after (Reclaimer.orderly_coversPorts.areFree p.reclaimer _) fun _ => .ite (.succeed _) ?_
  -- the ports are still busy, so the sweep is repeated with more force
  refine .after (hprint _) fun _ => .after (hr.escalate _ _) fun _ =>
    .after (orderly_busyPorts _ _) fun busy => .ite (.succeed _) ?_
  have hholders := Reclaimer.orderly_coversPorts.bindings p.reclaimer busy
  refine .after hholders fun held => .after ?_ fun _ => .fail nofun
  exact .forIn (fun _ _ => (Task.smooth_emit rfl).orderly.bind fun _ => .pure _) held _

/-- The client is launched exactly if the host gives an id, and that is noted at once. -/
theorem Client.spawn_ends (dir : Path) (l : Launch) (s : Session σ) :
    Ends (spawn dir l : Task σ _) s (fun r s' =>
      let s₀ := (Action.note .clientStarting).apply s
      let s₁ := (Action.spawn dir l).apply s₀
      (∀ pid, r = .ok pid ↔ (Host.spawn dir l s₀.host).1 = .ok pid) ∧
        match r with
        | .ok pid => s' = (Action.note (.clientLaunched pid)).apply s₁
        | .error e => e ≠ .interrupted ∧ s' = s₁) (fun _ _ => False) := by
  let s₀ := (Action.note .clientStarting).apply s
  -- the launch is one action, and its id is what the host has given
  have hrun : Ends (Task.perform (Host.spawn dir l) : Task σ _) s₀
      (fun r s₁ => r = (Host.spawn dir l s₀.host).1 ∧ s₁ = (Action.spawn dir l).apply s₀)
      (fun _ _ => False) := ⟨rfl, rfl⟩
  refine Task.ends_emit_bind (hrun.bind fun r s₁ ⟨hr, hs₁⟩ => ?_)
  subst hs₁
  match r with
  | .error _ =>
    exact ⟨fun _ => iff_of_false nofun fun h => absurd (hr.trans h) nofun, nofun, rfl⟩
  | .ok pid =>
    refine ⟨fun pid' => ?_, rfl⟩
    rw [← hr, Except.ok.injEq, Except.ok.injEq]

theorem WaitStatus.isSuccess_eq_false {status : WaitStatus} (h : status ≠ .exited 0) :
    status.isSuccess = false := by
  simpa [isSuccess] using h

theorem Client.verdict_of_failure {status : WaitStatus} (h : status.isSuccess = false) :
    verdict status = .error (.clientFailure s!"client exited with {status.message}") := by
  simp [verdict, h]

theorem Client.wait_marks (pid : Pid) : (wait pid : Task σ _).Marks (.clientExited (.exited 0)) := by
  refine .after (Task.smooth_ask _).orderly fun fuel => .after (orderly_stream pid fuel _) fun _ =>
    .after (Task.orderly_waitExit pid none) fun r => ?_
  match r with
  | .ok none => exact .throw nofun
  | .error _ => exact .fail nofun
  | .ok (some status) =>
    -- only the good end is a milestone
    by_cases hs : status = .exited 0
    · subst hs
      exact .succeed _
    · have hfailure := WaitStatus.isSuccess_eq_false hs
      dsimp only
      rw [verdict_of_failure hfailure]
      exact .after (Task.smooth_emit (e := .clientExited status) hfailure).orderly fun _ =>
        .fail nofun

/-! ### Requests for shutdown -/

/-- Shutdown has been requested: the token is cancelled, or the host has news, any of which cancel
it. -/
def Session.IsRequested (s : Session σ) : Prop :=
  s.cancelled = true ∨ (Host.news? s.host).1.isSome = true

/-- After listening the token is cancelled exactly if shutdown had been requested, and if not,
nothing has happened but that the host was asked for news. -/
theorem Task.listen_hears (s : Session σ) :
    Ends (Task.listen : Task σ Unit) s (fun _ s' => (s'.cancelled = true ↔ s.IsRequested) ∧
      (¬ s.IsRequested → s' = Action.news.apply s)) (fun _ _ => False) := by
  have hasked : Ends (perform Host.news? : Task σ _) s
      (fun n s' => n = (Host.news? s.host).1 ∧ s' = Action.news.apply s) (fun _ _ => False) :=
    ⟨rfl, rfl⟩
  refine hasked.bind fun n s' ⟨hn, hs'⟩ => ?_
  subst hs'
  have hkept : (Action.news.apply s).cancelled = s.cancelled := rfl
  cases n with
  | none =>
    have hquiet : (Host.news? s.host).1.isSome = false := by rw [← hn]; rfl
    exact ⟨by simp [Session.IsRequested, hquiet, hkept], fun _ => rfl⟩
  | some n =>
    have hnews : s.IsRequested := .inr (by rw [← hn]; rfl)
    refine Ends.mono (Q := fun _ s' => s'.cancelled = true) ?_
      (fun _ _ h => ⟨iff_of_true h hnews, fun hnot => absurd hnews hnot⟩) fun _ _ h => h
    cases n with
    | cancelled => exact rfl
    | signalled =>
      -- a signal after a cancellation is ignored
      refine Ends.get_bind ?_
      split
      · next hcancelled => exact hcancelled
      · exact rfl

/-! ### Going forward -/

namespace Running

variable {a b d : RunState} {W W' : List Event → Prop}
  {t u : Running σ (Except HarnessError Unit)}

omit [Host σ] in
/-- What the supervisor does in a run changes nothing else of it. -/
theorem ends_services {c : Controller σ} {t : Supervising σ α} {Q : α → Controller σ → Prop}
    {E : Halt → Controller σ → Prop}
    (h : Ends t c.supervisor (fun x v => Q x { c with supervisor := v })
      (fun e v => E e { c with supervisor := v })) :
    Ends (liftM t : Running σ α) c Q E := by
  cases ht : t c.supervisor with
  | ok x v =>
    have hrun : (liftM t : Running σ α) c = .ok x { c with supervisor := v } := by
      change (MonadLift.monadLift t : Running σ α) c = _
      simp only [MonadLift.monadLift, ht]
    have hx := h.of_ok ht
    simpa only [Ends, hrun] using hx
  | error e v =>
    have hrun : (liftM t : Running σ α) c = .error e { c with supervisor := v } := by
      change (MonadLift.monadLift t : Running σ α) c = _
      simp only [MonadLift.monadLift, ht]
    have he := h.of_error ht
    simpa only [Ends, hrun] using he

omit [Host σ] in
theorem ends_task {c : Controller σ} {t : Task σ α} {Q : α → Controller σ → Prop}
    {E : Halt → Controller σ → Prop}
    (h : Ends t c.session (fun x s' => Q x (c.withSession s')) (fun e s' => E e (c.withSession s'))) :
    Ends (task t) c Q E :=
  ends_services (Supervising.ends_lift h)

theorem transition_ends {c : Controller σ} (h : c.state ≠ b) {E : Halt → Controller σ → Prop} :
    Ends (transition b) c (fun _ c' => c' =
      { c.withSession ((Action.note (.stateChanged c.state b)).apply c.session) with state := b })
      E := by
  change Ends (if c.state ≠ b then _ else _) c _ _
  rw [if_pos h]
  rfl

theorem transition_self {c : Controller σ} (h : c.state = a) {E : Halt → Controller σ → Prop} :
    Ends (transition a) c (fun _ c' => c' = c) E := by
  change Ends (if c.state ≠ a then _ else _) c _ _
  rw [if_neg (not_not_intro h)]
  rfl

/-- How a part of the way forward ends: at the end of a word of its way, or failing short of
that. -/
def GoesOn (ms : List Event) (b : RunState) (W : List Event → Prop) :
    Except HarnessError Unit → Controller σ → Prop
  | .ok (), c => ∃ l, W l ∧ c.Going (ms ++ l) b
  | .error e, c => e ≠ .interrupted ∧ c.session.Alert ∧ ShortOf W fun l => c.OnCourse (ms ++ l)

/-- How a part of the way forward is halted, by a request for shutdown if one has been heard. -/
def BreaksOff (ms : List Event) (W : List Event → Prop) (e : Halt) (c : Controller σ) : Prop :=
  (e = .interrupted ↔ c.session.cancelled = true) ∧ ShortOf W fun l => c.OnCourse (ms ++ l)

/-- A part of the way forward leads from one state to another along the words of a way. -/
def Advances (t : Running σ (Except HarnessError Unit)) (a b : RunState)
    (W : List Event → Prop) : Prop :=
  ∀ c ms, c.Going ms a → Ends t c (GoesOn ms b W) (BreaksOff ms W)

/-- What is the end of a part is also that of a longer one with something before it. -/
theorem ends_from {c : Controller σ} {ms l : List Event} (hW : ∀ l', W' l' → W (l ++ l'))
    (h : Ends t c (GoesOn (ms ++ l) b W') (BreaksOff (ms ++ l) W')) :
    Ends t c (GoesOn ms b W) (BreaksOff ms W) := by
  have hshort {P : List Event → Prop} (hP : ShortOf W' fun l' => P (ms ++ l ++ l')) :
      ShortOf W fun l' => P (ms ++ l') := by
    obtain ⟨l₁, l₂, hl, hne, hl₁⟩ := hP
    exact ⟨l ++ l₁, l₂, by simpa using hW _ hl, hne, by simpa using hl₁⟩
  refine h.mono (fun r c' hr => ?_) fun e c' he => ⟨he.1, hshort he.2⟩
  match r with
  | .ok () =>
    obtain ⟨l', hl', hc'⟩ := hr
    exact ⟨l ++ l', hW l' hl', by simpa using hc'⟩
  | .error _ => exact ⟨hr.1, hr.2.1, hshort hr.2.2⟩

namespace Advances

theorem mono (h : Advances t a b W) (hW : ∀ l, W l → W' l) : Advances t a b W' := fun c ms hc =>
  ends_from (l := []) hW (by simpa using h c ms hc)

theorem done : Advances (return .ok () : Running σ _) a a (· = []) := fun c ms h =>
  ⟨[], rfl, by simpa using h⟩

theorem fail {e : HarnessError} {l : List Event} (he : e ≠ .interrupted) (hW : W l)
    (hl : l ≠ []) : Advances (return .error e : Running σ _) a b W := fun c ms h =>
  ⟨he, h.alert, [], l, hW, hl, by simpa using h.onCourse⟩

/-- A step in the background that cannot be halted. -/
theorem after {t : Task σ α} {f : α → Running σ (Except HarnessError Unit)} {P : α → Prop}
    (ht : ∀ s, Ends t s (fun x s' => s.Passes s' ∧ P x) (fun _ _ => False))
    (hf : ∀ x, P x → Advances (f x) a b W) : Advances (task t >>= f) a b W := fun c ms h => by
  refine (ends_task (Q := fun x c' => c'.Going ms a ∧ P x)
    ((ht c.session).mono (fun x s' hx => ?_) fun _ _ he => he.elim)).bind fun x c' hx => ?_
  · exact ⟨h.passes hx.1, hx.2⟩
  · exact hf x hx.2 c' ms hx.1

theorem after_print (text : String) (ht : Advances t a b W) :
    Advances (print text >>= fun _ => t) a b W :=
  after (P := fun _ => True)
    (fun s => (Task.smooth_print text s).mono (fun _ _ h => ⟨.of_cancelled_eq h.1 h.2, trivial⟩)
      fun _ _ h => h) fun _ _ => ht

theorem mark {t : Task σ (Except HarnessError Unit)} {e : Event} (he : e.isMark = true)
    (ht : t.Marks e) : Advances (task t) a a (· = [e]) := fun c ms h => by
  -- halted or failed, the task has not come to its mark
  refine ends_task ((ht c.session).mono (fun r s' hr => ?_) fun e' s' he' => ?_)
  · match r with
    | .ok () =>
      obtain ⟨s₁, hs₁, rfl⟩ := hr
      have hgoing := h.passes hs₁
      exact ⟨[e], rfl, hgoing.onCourse.mark he, h.state, h.running, hgoing.alert⟩
    | .error e' =>
      have hgoing := h.passes hr.2
      exact ⟨hr.1, hgoing.alert, [], [e], rfl, by simp, by simpa using hgoing.onCourse⟩
  · exact ⟨he'.prompt h.alert, [], [e], rfl, by simp,
      by simpa using h.onCourse.reaches he'.reaches⟩

theorem seq (ht : Advances t a b W) (hu : Advances u b d W') {l' : List Event} (hl' : W' l') :
    Advances (do
      match ← t with
      | .error e => return .error e
      | .ok () => u) a d (fun l => ∃ l₁ l₂, W l₁ ∧ W' l₂ ∧ l = l₁ ++ l₂) := fun c ms h => by
  -- a word that is broken off in the first part is broken off before those of the second
  have hfirst {P : List Event → Prop} : ShortOf W P →
      ShortOf (fun l => ∃ l₁ l₂, W l₁ ∧ W' l₂ ∧ l = l₁ ++ l₂) P :=
    fun ⟨l₀, l₁, hl₁, hne, hP⟩ => ⟨l₀, l₁ ++ l', ⟨_, l', hl₁, hl', by simp⟩, by simp [hne], hP⟩
  refine ((ht c ms h).mono (fun _ _ hr => hr) fun _ _ he => ⟨he.1, hfirst he.2⟩).bind
    fun r c' hr => ?_
  match r with
  | .error e => exact ⟨hr.1, hr.2.1, hfirst hr.2.2⟩
  | .ok () =>
    obtain ⟨l₁, hl₁, hc'⟩ := hr
    exact ends_from (fun l₂ hl₂ => ⟨l₁, l₂, hl₁, hl₂, rfl⟩) (hu c' _ hc')

theorem transition (hab : a ≠ b) (ht : Advances t b d W) :
    Advances (Running.transition b >>= fun _ => t) a d
      (fun l => ∃ l₀, W l₀ ∧ l = .stateChanged a b :: l₀) := fun c ms h => by
  have hstate := h.state
  subst hstate
  refine (transition_ends hab).bind fun _ c' hc' => ?_
  subst hc'
  have hgoing : Controller.Going _ (ms ++ [.stateChanged c.state b]) b :=
    ⟨h.onCourse.transition b, rfl, h.running, h.alert⟩
  exact ends_from (fun l hl => ⟨l, hl, rfl⟩) (ht _ _ hgoing)

/-- The state that the run is in already is not noted again. -/
theorem stay (ht : Advances t a b W) :
    Advances (Running.transition a >>= fun _ => t) a b W := fun c ms h =>
  (transition_self h.state).bind fun _ _ hc' => hc' ▸ ht c ms h

theorem note {e : Event} (he : e.isMark = true) (ht : Advances t a b W) :
    Advances (task (Task.emit e) >>= fun _ => t) a b (fun l => ∃ l₀, W l₀ ∧ l = e :: l₀) :=
  fun c ms h => by
    have hgoing : Controller.Going _ (ms ++ [e]) a :=
      ⟨h.onCourse.mark he, h.state, h.running, h.alert⟩
    exact ends_from (fun l hl => ⟨l, hl, rfl⟩) (ht _ _ hgoing)

end Advances

/-! ### The parts of the way -/

theorem advances_startService (p : Plan σ) (role : Role) (a : RunState) :
    Advances (startService p role) a a (Supervising.StartWay (p.config.service role).role) := by
  let spec := p.config.service role
  refine .after_print _ fun c ms h => ?_
  -- a start passes neither a change of state nor a client, so the run's own books stay
  have hstay {l : List Event} {v : Supervisor σ}
      (hl : ∃ l', Supervising.StartWay spec.role (l ++ l')) (hv : v.OnCourse (ms ++ l)) :
      ({ c with supervisor := v } : Controller σ).OnCourse (ms ++ l) := by
    obtain ⟨l', pid, hl⟩ := hl
    refine h.onCourse.withServices hv fun e he => ?_
    have hmem : e ∈ [Event.launched spec.role pid, .ready spec.role pid] :=
      hl ▸ List.mem_append_left l' he
    rcases List.mem_pair.mp hmem with rfl | rfl <;> exact ⟨rfl, rfl⟩
  have hshort {v : Supervisor σ}
      (hv : ShortOf (Supervising.StartWay spec.role) fun l => v.OnCourse (ms ++ l)) :
      ShortOf (Supervising.StartWay spec.role) fun l =>
        ({ c with supervisor := v } : Controller σ).OnCourse (ms ++ l) := by
    obtain ⟨l, l', hl, hne, hv⟩ := hv
    exact ⟨l, l', hl, hne, hstay ⟨l', hl⟩ hv⟩
  have hstart : Ends (liftM (Supervising.start p.supervision spec) : Running σ _) c
      (fun r c' => ∃ v : Supervisor σ, c' = { c with supervisor := v } ∧ v.session.Alert ∧
        Supervising.StartsOn ms spec.role r v)
      (BreaksOff ms (Supervising.StartWay spec.role)) := by
    have hends := Supervising.start_ends p.supervision spec h.onCourse.services h.running h.alert
    exact ends_services (hends.mono (fun r v hr => ⟨v, rfl, hr⟩)
      fun e v he => ⟨he.1, hshort he.2⟩)
  refine hstart.bind fun r c' hr => ?_
  obtain ⟨v, rfl, halert, hr⟩ := hr
  cases r with
  | error e => exact ⟨by simp, halert, hshort hr⟩
  | ok started =>
    obtain ⟨hrun, l, hl, hv⟩ := hr
    have hgoing : Controller.Going { c with supervisor := v } (ms ++ l) a :=
      ⟨hstay ⟨[], by simpa using hl⟩ hv, h.state, hrun, halert⟩
    have hend (l' : List Event) (hl' : l' = []) : Supervising.StartWay spec.role (l ++ l') := by
      rwa [hl', List.append_nil]
    exact ends_from hend (Advances.after_print _ .done _ _ hgoing)

theorem advances_startServices (p : Plan σ) :
    Advances (startServices p Role.startOrder) .preflightCleanup .startingDependencyB
      (fun l => ∃ pid₂ pid₁, l =
        [.stateChanged .preflightCleanup .startingDependencyA,
          .launched p.config.server2.role pid₂, .ready p.config.server2.role pid₂,
          .stateChanged .startingDependencyA .startingDependencyB,
          .launched p.config.server1.role pid₁, .ready p.config.server1.role pid₁]) := by
  -- the second service and what follows it are put after the first one
  have hsecond := Advances.transition (a := .startingDependencyA) (b := .startingDependencyB)
    nofun ((advances_startService p .server1 .startingDependencyB).seq .done rfl)
  have hfirst := Advances.transition (a := .preflightCleanup) (b := .startingDependencyA) nofun
    ((advances_startService p .server2 .startingDependencyA).seq hsecond
      ⟨_, ⟨_, [], ⟨0, rfl⟩, rfl, rfl⟩, rfl⟩)
  refine hfirst.mono ?_
  rintro _ ⟨_, ⟨_, _, ⟨pid₂, rfl⟩, ⟨_, ⟨_, _, ⟨pid₁, rfl⟩, rfl, rfl⟩, rfl⟩, rfl⟩, rfl⟩
  exact ⟨pid₂, pid₁, rfl⟩

theorem advances_awaitClient (pid : Pid) :
    Advances (awaitClient pid : Running σ _) .runningClient .runningClient
      (· = [.clientExited (.exited 0)]) := by
  refine ((Advances.mark rfl (Client.wait_marks pid)).seq (.after_print _ .done) rfl).mono ?_
  rintro _ ⟨_, _, rfl, rfl, rfl⟩
  rfl

/-- What a client that does well passes. -/
def ClientWay (l : List Event) : Prop :=
  ∃ client, l = [.clientLaunched client, .clientExited (.exited 0)]

/-- The client is launched and held, then the run waits for its end. -/
theorem advances_launchClient (p : Plan σ) :
    Advances (launchClient p) .runningClient .runningClient ClientWay := by
  intro c ms h
  let dir := p.config.workingDir
  let launch := p.config.clientLaunch
  have hstarting := h.onCourse.services.reaches (.step _ (a := .note .clientStarting) rfl)
  have hspawned := hstarting.spawn h.running dir launch
  have hspawn : Ends (task (Client.spawn dir launch)) c
      (fun r c' => ∃ s', c' = c.withSession s' ∧
        let s₀ := (Action.note .clientStarting).apply c.session
        let s₁ := (Action.spawn dir launch).apply s₀
        (∀ pid, r = .ok pid ↔ (Host.spawn dir launch s₀.host).1 = .ok pid) ∧
          match r with
          | .ok pid => s' = (Action.note (.clientLaunched pid)).apply s₁
          | .error e => e ≠ .interrupted ∧ s' = s₁) (BreaksOff ms ClientWay) :=
    ends_task ((Client.spawn_ends dir launch c.session).mono (fun _ s' h => ⟨s', rfl, h⟩)
      fun _ _ h => h.elim)
  refine hspawn.bind fun r c' ⟨s', hc', hid, hr⟩ => ?_
  subst hc'
  match r with
  | .error e =>
    obtain ⟨hne, rfl⟩ := hr
    have hcourse := h.onCourse.withServices (l := []) (by simpa using hspawned) nofun
    exact ⟨hne, h.alert, [], _, ⟨0, rfl⟩, by simp, hcourse⟩
  | .ok pid =>
    -- the client is put into its place before the run waits for it
    subst hr
    have hlaunched := hspawned.note (e := .clientLaunched pid) rfl rfl
      fun pid' h => Option.some.inj h ▸ ⟨_, dir, launch, (hid pid).mp rfl, .refl _⟩
    have hgoing : Controller.Going _ (ms ++ [.clientLaunched pid]) .runningClient :=
      ⟨h.onCourse.withClient hlaunched, h.state, h.running, h.alert⟩
    exact ends_from (fun l hl => ⟨pid, by rw [hl]; rfl⟩) (advances_awaitClient pid _ _ hgoing)

theorem advances_runClient (p : Plan σ) :
    Advances (runClient p) .startingDependencyB .runningClient
      (fun l => ∃ l₀, ClientWay l₀ ∧ l = .stateChanged .startingDependencyB .runningClient :: l₀) :=
  .transition nofun (.after_print _ (advances_launchClient p))

/-- The words of the whole way. -/
def DriveWay (p : Plan σ) (l : List Event) : Prop :=
  ∃ version pid₂ pid₁ client, l = way p.config version pid₂ pid₁ client

/-- The whole way forward, from the checks to the end of the client. -/
theorem advances_drive (p : Plan σ) (hr : p.reclaimer.IsOrderly) :
    Advances (drive p) .preflightCleanup .runningClient (DriveWay p) := by
  have hlaunches := (advances_startServices p).seq (advances_runClient p) ⟨_, ⟨0, rfl⟩, rfl⟩
  have hports := (Advances.mark (a := .preflightCleanup) rfl (preflight_marks p hr)).seq hlaunches
    ⟨_, _, ⟨0, 0, rfl⟩, ⟨_, ⟨0, rfl⟩, rfl⟩, rfl⟩
  -- the first change of state is none, since a run begins in that state
  refine .stay (.after (Preconditions.check_ends p.config) fun r hcheck => ?_)
  match r with
  | .error e => exact .fail hcheck ⟨"", 0, 0, 0, rfl⟩ nofun
  | .ok version =>
    refine (Advances.note (e := .runnerFound version) rfl hports).mono ?_
    rintro _ ⟨_, ⟨_, _, rfl, ⟨_, _, ⟨pid₂, pid₁, rfl⟩, ⟨_, ⟨client, rfl⟩, rfl⟩, rfl⟩, rfl⟩, rfl⟩
    exact ⟨version, pid₂, pid₁, client, rfl⟩

/-! ### Until shutdown is requested -/

/-- How the way forward of a run has ended. -/
structure Driven (p : Plan σ) (outcome : Except HarnessError Unit) (m : Controller σ)
    (ms : List Event) : Prop where
  onCourse : m.OnCourse ms
  onWay : ∃ version pid₂ pid₁ client, ms <+: way p.config version pid₂ pid₁ client
  complete : outcome = .ok () ↔ .clientExited (.exited 0) ∈ ms
  interrupted : outcome = .error .interrupted ↔ m.session.cancelled = true

/-- Whether shutdown has been requested is asked of the token, after listening. -/
theorem isCancelled_ends (c : Controller σ) {E : Halt → Controller σ → Prop} :
    Ends isCancelled c (fun b c' => ∃ s', c' = c.withSession s' ∧
      c.session.Reaches (Action.isBackground ·) s' ∧ b = s'.cancelled) E := by
  refine ends_task ?_
  refine (Task.listen_ends c.session).of_total.bind fun _ s' hs' => ?_
  exact ⟨s', rfl, hs', rfl⟩

theorem isCancelled_hears (c : Controller σ) :
    Ends isCancelled c (fun b c' => b = c'.session.cancelled ∧ (b = true ↔ c.session.IsRequested) ∧
      (¬ c.session.IsRequested → c' = c.withSession (Action.news.apply c.session)))
      (fun _ _ => False) := by
  refine ends_task ?_
  refine (Task.listen_hears c.session).bind fun _ s' ⟨hheard, hquiet⟩ => ?_
  exact ⟨rfl, hheard, fun hnot => by rw [hquiet hnot]⟩

theorem OnCourse.withInterrupts {c : Controller σ} {ms : List Event} (h : c.OnCourse ms)
    (allowed : Bool) : (c.withInterrupts allowed).OnCourse ms :=
  h.later (.step _ (a := .interrupts allowed) rfl) rfl

omit [Host σ] in
theorem not_mem_of_shortOf {p : Plan σ} {P : List Event → Prop} (h : ShortOf (DriveWay p) P) :
    ∃ l, P l ∧ (∃ version pid₂ pid₁ client, l <+: way p.config version pid₂ pid₁ client) ∧
      .clientExited (.exited 0) ∉ l := by
  obtain ⟨l, l', ⟨version, pid₂, pid₁, client, hway⟩, hne, hP⟩ := h
  have hp : l <+: way p.config version pid₂ pid₁ client := ⟨l', hway⟩
  refine ⟨l, hP, ⟨version, pid₂, pid₁, client, hp⟩, fun hmem => hne ?_⟩
  have hall := eq_way_of_mem hp hmem
  exact List.append_cancel_left (hway.trans (hall.symm.trans (List.append_nil l).symm))

theorem driven_of_goesOn {p : Plan σ} {outcome : Except HarnessError Unit} {m : Controller σ}
    (h : GoesOn [] .runningClient (DriveWay p) outcome m) : ∃ ms, Driven p outcome m ms := by
  cases outcome with
  | ok u =>
    obtain ⟨_, ⟨version, pid₂, pid₁, client, rfl⟩, hm⟩ := h
    refine ⟨_, hm.onCourse, ⟨version, pid₂, pid₁, client, List.prefix_rfl⟩, ?_, ?_⟩
    · exact iff_of_true rfl (by simp [way])
    · exact iff_of_false (by simp) (by simp [hm.alert.2])
  | error e =>
    obtain ⟨hne, halert, hshort⟩ := h
    obtain ⟨l, hl, hway, hnot⟩ := not_mem_of_shortOf hshort
    refine ⟨l, by simpa using hl, hway, iff_of_false (by simp) hnot, ?_⟩
    exact iff_of_false (fun h => hne (Except.error.inj h)) (by simp [halert.2])

theorem driven_of_breaksOff {p : Plan σ} {m : Controller σ}
    (h : BreaksOff [] (DriveWay p) .interrupted m) : ∃ ms, Driven p (.error .interrupted) m ms := by
  obtain ⟨hint, hshort⟩ := h
  obtain ⟨l, hl, hway, hnot⟩ := not_mem_of_shortOf hshort
  exact ⟨l, by simpa using hl, hway, iff_of_false nofun hnot, iff_of_true rfl (hint.mp rfl)⟩

theorem Driven.withInterrupts {p : Plan σ} {outcome : Except HarnessError Unit}
    {m : Controller σ} {ms : List Event} (h : Driven p outcome m ms) (allowed : Bool) :
    Driven p outcome (m.withInterrupts allowed) ms :=
  { h with onCourse := OnCourse.withInterrupts h.onCourse allowed }

/-- The way forward ends on its way, at the end of it or short of that, and interrupted exactly
if a request for shutdown has been heard by then. -/
theorem driveUntilShutdown_ends (p : Plan σ) (hr : p.reclaimer.IsOrderly) (host : σ)
    (pids : Folder) :
    Ends (driveUntilShutdown p) (Controller.start (Session.start host pids))
      (fun outcome m => ∃ ms, Driven p outcome m ms) (fun _ _ => True) := by
  let c := Controller.start (Session.start host pids)
  have hc : c.OnCourse [] := Controller.start_onCourse host pids
  refine (isCancelled_ends c).bind fun b c' hb => ?_
  obtain ⟨s', rfl, hs', rfl⟩ := hb
  split
  · -- the token was cancelled before anything was done
    next hcancelled =>
    exact ⟨[], hc.reaches hs', ⟨"", 0, 0, 0, _, rfl⟩, by simp, iff_of_true rfl hcancelled⟩
  · next hcancelled =>
    let c₁ := (c.withSession s').withInterrupts true
    have hgoing : c₁.Going [] .preflightCleanup :=
      ⟨OnCourse.withInterrupts (hc.reaches hs') true, rfl, nofun, rfl,
        (Bool.not_eq_true _).mp hcancelled⟩
    have hdrive := advances_drive p hr c₁ [] hgoing
    have hcaught : Ends (tryCatch (drive p) afterHalt) c₁
        (fun outcome m => ∃ ms, Driven p outcome m ms) (fun _ _ => True) := by
      refine (hdrive.mono (fun r m hm => driven_of_goesOn hm) fun _ _ h => h).tryCatch
        fun e m he => ?_
      -- an interruption is turned into an outcome; the other halts end the run without one
      cases e with
      | interrupted => exact driven_of_breaksOff he
      | crashed text => trivial
      | exhausted => trivial
    exact hcaught.bind fun outcome m hm => hm.imp fun _ h => h.withInterrupts false

/-- Where a run has not been interrupted, its outcome is that of its way forward, begun as soon as
the token had been found not to be cancelled. -/
theorem driveUntilShutdown_drives (p : Plan σ) (c : Controller σ) :
    Ends (driveUntilShutdown p) c (fun outcome m => outcome ≠ .error .interrupted →
      ∃ c₁ c₂, isCancelled c = .ok false c₁ ∧ drive p (c₁.withInterrupts true) = .ok outcome c₂ ∧
        m = c₂.withInterrupts false) (fun _ _ => True) := by
  refine (Ends.ok_self isCancelled c).bind fun b c₁ hb => ?_
  split
  · exact fun hne => absurd rfl hne
  · next hb' =>
    rw [Bool.not_eq_true _ |>.mp hb'] at hb
    have hdrive : Ends (tryCatch (drive p) afterHalt) (c₁.withInterrupts true)
        (fun outcome m => outcome ≠ .error .interrupted →
          drive p (c₁.withInterrupts true) = .ok outcome m) (fun _ _ => True) := by
      have hdrive := (Ends.ok_self (drive p) (c₁.withInterrupts true)).weaken
        fun outcome m h (_ : outcome ≠ .error .interrupted) => h
      refine hdrive.tryCatch fun e m _ => ?_
      cases e with
      | interrupted => exact fun hne => absurd rfl hne
      | crashed text => trivial
      | exhausted => trivial
    exact hdrive.bind fun outcome c₂ h hne => ⟨c₁, c₂, hb, h hne, rfl⟩

/-- After its way forward nothing interrupts a run any more. -/
theorem driveUntilShutdown_calm (p : Plan σ) (host : σ) (pids : Folder) :
    Ends (driveUntilShutdown p) (Controller.start (Session.start host pids))
      (fun _ m => m.session.interruptible = false) (fun _ _ => True) := by
  refine (isCancelled_ends _).bind fun b c ⟨s, hc, hs, _⟩ => ?_
  subst hc
  split
  · exact hs.interruptible_eq
  · -- however the way forward has ended, the token is let go of
    exact (Ends.ok_self (setInterruptible true) _).bind fun _ c' _ =>
      (Ends.ok_self (tryCatch (drive p) afterHalt) c').bind fun _ _ _ => rfl

end Running

end LatencyHarness
