import LatencyHarness.Proofs.Orderly

/-! What a task does on its way, told by the kinds of its actions.

`Task.Within A` says of a task that it does nothing but actions of the kind `A`, whether it ends with
a value or is halted. Each task of a run is within a kind that is little more than what it needs;
what a larger kind leaves alone is left alone by all of them. -/
namespace LatencyHarness

variable {σ : Type} [Host σ] {α β : Type}

/-! ### Kinds of actions -/

/-- The events of a wait: what is echoed, and a request for shutdown. -/
def Event.isEcho : Event → Bool
  | line _ | shutdownRequested => true
  | _ => false

namespace Action

/-- What goes on besides a wait, while the output of some children is echoed. -/
def isEcho (ps : List Pid) : Action → Bool
  | note e => e.isEcho
  | news | cancel | firstStream => true
  | look pid _ => pid ∈ ps
  | forwarders fs => fs.map (·.pid) = ps
  | _ => false

/-- What goes on while a task waits or reads. -/
def isWaiting : Action → Bool
  | note e => e.isEcho
  | await _ _ _ | news | cancel | firstStream | look _ _ | forwarders _ => true
  | _ => false

/-- What the wait for a marker does. -/
def isWatching : Action → Bool
  | note .undecodableLine | note .statusUnknown => true
  | a => a.isWaiting

/-- What is done to end a child. -/
def isEnding : Action → Bool
  | signal _ _ | note (.sent _ _) | note .groupUnreachable | note (.signalFailed _) => true
  | note (.graceElapsed _) | note (.foundEnded _) | note (.stopFailed _) => true
  | a => a.isWaiting

/-- What is done to ask about processes. -/
def isAsking : Action → Bool
  | capture _ _ | note (.listenerFound _ _ _) | note (.asked _ _) => true
  | a => a.isWaiting

/-- What is done to find processes. -/
def isSearching : Action → Bool
  | capture _ _ | folder _ | note (.listenerFound _ _ _) | note (.recordStale _) => true
  | note (.recordRecycled _) | note (.recordRemains _) | note (.asked _ _) => true
  | a => a.isWaiting

/-- What is done to kill the processes that have been found. -/
def isKilling : Action → Bool
  | signal _ _ | note (.sent _ _) | note (.killed _ _) | note (.alreadyGone _) => true
  | note (.killFailed _) | note (.probeUnavailable _) | note (.settling _) => true
  | a => a.isWaiting

/-- The actions by which no signal is sent. -/
def sendsNothing : Action → Bool
  | signal _ _ | note (.sent _ _) => false
  | _ => true

/-- The actions by which the output of a child is left to its reader. -/
def leavesOutput (pid : Pid) : Action → Prop
  | look p _ => p ≠ pid
  | forwarders fs => ∀ f ∈ fs, f.pid ≠ pid
  | _ => True

theorem isWaiting_of_isEcho {ps : List Pid} {a : Action} (h : a.isEcho ps = true) :
    a.isWaiting = true := by
  cases a with
  | note e => exact h
  | await _ _ _ | news | cancel | firstStream | look _ _ | forwarders _ => rfl
  | spawn _ _ | signal _ _ | capture _ _ | folder _ | interrupts _ => exact absurd h nofun

theorem leavesOutput_of_isEcho {ps : List Pid} {pid : Pid} (hpid : pid ∉ ps) {a : Action}
    (h : a.isEcho ps = true) : a.leavesOutput pid := by
  cases a with
  | look p stream =>
    have hp : p ∈ ps := of_decide_eq_true h
    exact fun heq => hpid (heq ▸ hp)
  | forwarders fs =>
    have hfs : fs.map (·.pid) = ps := of_decide_eq_true h
    exact fun f hf heq => hpid (hfs ▸ heq ▸ List.mem_map_of_mem hf)
  | _ => trivial

theorem isWatching_of_isWaiting {a : Action} (h : a.isWaiting = true) : a.isWatching = true := by
  unfold isWatching
  split
  · rfl
  · rfl
  · exact h

theorem isEnding_of_isOfEnding {e : Event} (h : e.isOfEnding = true) :
    (note e).isEnding = true := by
  cases e <;> first | rfl | exact absurd h nofun

theorem isEnding_of_isWaiting {a : Action} (h : a.isWaiting = true) : a.isEnding = true := by
  unfold isEnding
  split <;> first | rfl | exact h

theorem isAsking_of_isWaiting {a : Action} (h : a.isWaiting = true) : a.isAsking = true := by
  unfold isAsking
  split <;> first | rfl | exact h

theorem isSearching_of_isWaiting {a : Action} (h : a.isWaiting = true) : a.isSearching = true := by
  unfold isSearching
  split <;> first | rfl | exact h

theorem isSearching_of_isAsking {a : Action} (h : a.isAsking = true) : a.isSearching = true := by
  unfold isAsking at h
  split at h
  · rfl
  · rfl
  · rfl
  · exact isSearching_of_isWaiting h

theorem isSearching_of_isOfRecords {e : Event} (h : e.isOfRecords = true) :
    (note e).isSearching = true := by
  cases e <;> first | rfl | exact absurd h nofun

theorem isKilling_of_isWaiting {a : Action} (h : a.isWaiting = true) : a.isKilling = true := by
  unfold isKilling
  split <;> first | rfl | exact h

theorem isKilling_of_isOfKilling {e : Event} (h : e.isOfKilling = true) :
    (note e).isKilling = true := by
  cases e <;> first | rfl | exact absurd h nofun

theorem sendsNothing_of_isSearching {a : Action} (h : a.isSearching = true) :
    a.sendsNothing = true := by
  cases a with
  | signal s r => exact absurd h nofun
  | note e =>
    cases e with
    | sent s r => exact absurd h nofun
    | _ => rfl
  | _ => rfl

end Action

namespace Session

variable {s s' : Session σ} {ps : List Pid} {pid : Pid}

/-- The one session comes after the other. -/
abbrev Precedes (s s' : Session σ) : Prop := s.Reaches (fun _ => True) s'

theorem Reaches.precedes {A : Action → Prop} (h : s.Reaches A s') : s.Precedes s' :=
  h.mono fun _ _ => trivial

/-- From one session to the other there is nothing but the echoing of the output of some
children. -/
abbrev Echoes (ps : List Pid) (s s' : Session σ) : Prop := s.Reaches (Action.isEcho ps ·) s'

theorem Reaches.echo_pids (h : s.Echoes ps s')
    (hs : s.forwarders.map (·.pid) = ps) : s'.forwarders.map (·.pid) = ps := by
  refine h.keeps (P := fun t => t.forwarders.map (·.pid) = ps) (fun t a ha ht => ?_) hs
  cases a with
  | forwarders fs => exact of_decide_eq_true ha
  | _ => exact ht

/-- A session in which the output of a child is not echoed in the background. -/
def Leaves (s : Session σ) (pid : Pid) : Prop := ∀ f ∈ s.forwarders, f.pid ≠ pid

omit [Host σ] in
theorem Leaves.notMem (h : s.Leaves pid) : pid ∉ s.forwarders.map (·.pid) := by
  intro hmem
  obtain ⟨f, hf, heq⟩ := List.mem_map.mp hmem
  exact h f hf heq

theorem Leaves.reaches (h : s.Leaves pid) (hs : s.Reaches (Action.leavesOutput pid) s') :
    s'.Leaves pid := by
  refine hs.keeps (P := fun t => t.Leaves pid) (fun t a ha ht => ?_) h
  cases a with
  | forwarders fs => exact ha
  | _ => exact ht

end Session

/-! ### Tasks within a kind of actions -/

namespace Task

variable {A B : Action → Prop} {t : Task σ α} {f : α → Task σ β}

/-- Whatever becomes of the task, it does nothing but actions of a kind. -/
def Within (A : Action → Prop) (t : Task σ α) : Prop :=
  ∀ s, Ends t s (fun _ s' => s.Reaches A s') (fun _ s' => s.Reaches A s')

namespace Within

theorem mono (h : t.Within A) (hAB : ∀ a, A a → B a) : t.Within B := fun s =>
  (h s).mono (fun _ _ hr => hr.mono hAB) fun _ _ hr => hr.mono hAB

theorem pure (a : α) : (Pure.pure a : Task σ α).Within A := fun s => .refl s

theorem throw (e : Halt) : (throw e : Task σ α).Within A := fun s => .refl s

theorem bind (ht : t.Within A) (hf : ∀ a, (f a).Within A) : (t >>= f).Within A := by
  intro s
  refine (ht s).bind fun a s' h => ?_
  exact (hf a s').mono (fun _ _ h' => h.trans h') fun _ _ h' => h.trans h'

theorem ite {c : Prop} [Decidable c] {t u : Task σ α} (ht : t.Within A) (hu : u.Within A) :
    (if c then t else u).Within A := by
  split
  · exact ht
  · exact hu

theorem isClosed : IsClosed fun α (t : Task σ α) => t.Within A where
  pure := pure
  bind := bind

end Within

theorem within_ask (g : σ → α) : (ask g : Task σ α).Within A := fun s => .refl s

theorem within_emit {e : Event} (he : A (.note e)) : (emit e : Task σ Unit).Within A := fun s =>
  .step s he

/-- Having the host do something is one action, if it is one of its operations. -/
theorem within_perform {g : σ → α × σ} (a : Action) (ha : A a)
    (hg : ∀ s : Session σ, { s with host := (g s.host).2 } = a.apply s) :
    (perform g : Task σ α).Within A := by
  intro s
  have hs : s.Reaches A { s with host := (g s.host).2 } := hg s ▸ Session.Reaches.step s ha
  exact hs

theorem within_inFolder (hA : ∀ f, A (.folder f)) (t : FolderTask α) :
    (inFolder t : Task σ _).Within A := fun s =>
  .step s (a := .folder (t.on s.pids).2) (hA _)

theorem within_send {signal : Signal} {recipient : Recipient} (hn : A (.note (.sent signal recipient)))
    (hs : A (.signal signal recipient)) : (send signal recipient : Task σ _).Within A :=
  (within_emit hn).bind fun _ => within_perform (.signal signal recipient) hs fun _ => rfl

/-! ### Waiting -/

section Echo

variable {ps : List Pid}

/-- Listening notes nothing but a request for shutdown and its announcement. -/
theorem within_listen (hnews : A .news) (hcancel : A .cancel)
    (hrequest : A (.note .shutdownRequested))
    (hline : ∀ text ∈ ["", "⚠️  Interrupted, cleaning up..."], A (.note (.line text))) :
    (listen : Task σ Unit).Within A := by
  have hcancelled : (modify fun s => { s with cancelled := true } : Task σ Unit).Within A :=
    fun s => .step s (a := .cancel) hcancel
  have hheard : (perform Host.news? : Task σ _).Within A := within_perform .news hnews fun _ => rfl
  refine hheard.bind fun n => ?_
  match n with
  | none => exact .pure ()
  | some .cancelled => exact hcancelled
  | some .signalled =>
    -- the signal is noted and announced before it cancels the token
    have hannounce : (do emit .shutdownRequested
                         print ""
                         print "⚠️  Interrupted, cleaning up..."
                         modify fun s => { s with cancelled := true } : Task σ Unit).Within A :=
      (within_emit hrequest).bind fun _ => (within_emit (hline _ (by simp))).bind fun _ =>
        (within_emit (hline _ (by simp))).bind fun _ => hcancelled
    intro s
    change Ends (do if s.cancelled then return
                    emit .shutdownRequested
                    print ""
                    print "⚠️  Interrupted, cleaning up..."
                    modify fun s => { s with cancelled := true } : Task σ Unit) s _ _
    split
    · exact .refl s
    · exact hannounce s

theorem listen_echoes : (listen : Task σ Unit).Within (Action.isEcho ps ·) :=
  within_listen (A := (Action.isEcho ps ·)) rfl rfl rfl fun _ _ => rfl

theorem within_lookAt {pid : Pid} (hA : ∀ stream, A (.look pid stream)) (stream : Stream)
    (r : LineReader) : (lookAt pid stream r : Task σ _).Within A :=
  .ite ((within_perform (.look pid stream) (hA stream) fun _ => rfl).bind fun _ => .pure _)
    (.pure _)

theorem within_lookOnce {pid : Pid} (hfirst : A .firstStream)
    (hA : ∀ stream, A (.look pid stream)) (r : LineReader) :
    (lookOnce pid r : Task σ _).Within A :=
  (within_perform .firstStream hfirst fun _ => rfl).bind fun stream =>
    (within_lookAt hA stream r).bind fun (r, _) => .ite (.pure _) (within_lookAt hA stream.other r)

/-- Echoing looks at the output of its own child only. -/
theorem forward_echoes (fuel : Nat) {f : Forwarder} (hf : f.pid ∈ ps) (s : Session σ) :
    Ends (forward fuel f : Task σ _) s (fun f' s' => f'.pid = f.pid ∧ s.Echoes ps s')
      (fun _ s' => s.Echoes ps s') := by
  -- the reader of the forwarder changes, its child does not
  induction fuel generalizing f s with
  | zero => exact ⟨rfl, .refl s⟩
  | succ fuel ih =>
    have hlook : (lookOnce f.pid f.reader.renew : Task σ _).Within (Action.isEcho ps ·) :=
      within_lookOnce (A := (Action.isEcho ps ·)) rfl (fun _ => decide_eq_true hf) _
    have hnext {s₁ : Session σ} (h₁ : s.Echoes ps s₁) (r : LineReader) :
        Ends (forward fuel { f with reader := r } : Task σ _) s₁
          (fun f' s' => f'.pid = f.pid ∧ s.Echoes ps s') (fun _ s' => s.Echoes ps s') :=
      (ih (f := { f with reader := r }) hf s₁).mono (fun _ _ h => ⟨h.1, h₁.trans h.2⟩)
        fun _ _ h => h₁.trans h
    change Ends (if f.reader.isClosed then _ else _) s _ _
    split
    · exact ⟨rfl, .refl s⟩
    · refine (hlook s).bind fun (r, e) s₁ h₁ => ?_
      match e with
      | none | some .allClosed => exact ⟨rfl, h₁⟩
      | some (.line bytes) => exact ends_emit_bind (hnext (h₁.tail (a := .note (.line _)) rfl) r)
      | some .streamClosed => exact hnext h₁ r

/-- One child after the other is echoed, and all of them stay. -/
theorem forwardEach_echoes (fuel : Nat) {fs : List Forwarder} (hfs : ∀ f ∈ fs, f.pid ∈ ps)
    (s : Session σ) :
    Ends (fs.mapM (forward fuel) : Task σ _) s
      (fun fs' s' => fs'.map (·.pid) = fs.map (·.pid) ∧ s.Echoes ps s')
      (fun _ s' => s.Echoes ps s') := by
  induction fs generalizing s with
  | nil => exact ⟨rfl, .refl s⟩
  | cons f fs ih =>
    rw [List.mapM_cons]
    refine (forward_echoes fuel (hfs f List.mem_cons_self) s).bind fun f' s₁ ⟨hpid, h₁⟩ => ?_
    have hrest : Ends (fs.mapM (forward fuel) : Task σ _) s₁
        (fun fs' s' => fs'.map (·.pid) = fs.map (·.pid) ∧ s.Echoes ps s')
        (fun _ s' => s.Echoes ps s') :=
      (ih (fun g hg => hfs g (List.mem_cons_of_mem f hg)) s₁).mono
        (fun _ _ h => ⟨h.1, h₁.trans h.2⟩) fun _ _ h => h₁.trans h
    refine hrest.bind fun fs' s₂ ⟨hpids, h₂⟩ => ?_
    have hall : (f' :: fs').map (·.pid) = (f :: fs).map (·.pid) := by
      rw [List.map_cons, List.map_cons, hpid, hpids]
    exact And.intro hall h₂

theorem forwardAll_echoes {s : Session σ} (hs : s.forwarders.map (·.pid) = ps) :
    Ends (forwardAll : Task σ Unit) s (fun _ s' => s.Echoes ps s') (fun _ s' => s.Echoes ps s') := by
  have hmem : ∀ f ∈ s.forwarders, f.pid ∈ ps := fun f hf => hs ▸ List.mem_map_of_mem hf
  refine ends_ask_bind (Ends.get_bind ?_)
  refine (forwardEach_echoes _ hmem s).bind fun fs s' ⟨hpids, h⟩ => ?_
  exact h.tail (a := .forwarders fs) (decide_eq_true (hpids.trans hs))

theorem within_checkpoint : (checkpoint : Task σ Unit).Within A := by
  intro s
  change Ends (if s.interruptible && s.cancelled then throw Halt.interrupted else pure ()) s _ _
  split <;> exact .refl s

theorem catchUp_echoes {s : Session σ} (hs : s.forwarders.map (·.pid) = ps) (a : α) :
    Ends (do listen; forwardAll; checkpoint; return a : Task σ α) s (fun _ s' => s.Echoes ps s')
      (fun _ s' => s.Echoes ps s') := by
  refine (listen_echoes s).bind fun _ s₁ h₁ => ?_
  have hforward : Ends (forwardAll : Task σ Unit) s₁ (fun _ s' => s.Echoes ps s')
      (fun _ s' => s.Echoes ps s') :=
    (forwardAll_echoes (h₁.echo_pids hs)).mono (fun _ _ h => h₁.trans h) fun _ _ h => h₁.trans h
  refine hforward.bind fun _ s₂ h₂ => ?_
  have hcheck : Ends (checkpoint : Task σ Unit) s₂ (fun _ s' => s.Echoes ps s')
      (fun _ s' => s.Echoes ps s') :=
    (within_checkpoint s₂).mono (fun _ _ h => h₂.trans h) fun _ _ h => h₂.trans h
  exact hcheck.bind fun _ _ h₃ => h₃

/-- After the host's own wait there is nothing but echoing. -/
theorem await_echoes (w : Wait) (limit : Option Instant) (s : Session σ) :
    let waited := (Action.await w limit s.interruptible).apply s
    let ps := s.forwarders.map (·.pid)
    Ends (await w limit : Task σ Unit) s (fun _ s' => waited.Echoes ps s')
      (fun _ s' => waited.Echoes ps s') := by
  have h := catchUp_echoes (s := (Action.await w limit s.interruptible).apply s) rfl ()
  rw [bind_pure_unit] at h
  exact h

end Echo

section Waiting

variable (hA : ∀ a : Action, a.isWaiting = true → A a)

include hA

theorem within_await (w : Wait) (limit : Option Instant) :
    (await w limit : Task σ Unit).Within A := by
  intro s
  have hwaited : s.Reaches A ((Action.await w limit s.interruptible).apply s) :=
    .step s (hA _ rfl)
  refine (await_echoes w limit s).mono (fun _ _ h => ?_) fun _ _ h => ?_
  all_goals exact hwaited.trans (h.mono fun a ha => hA a (Action.isWaiting_of_isEcho ha))

theorem within_sleep (d : Millis) : (sleep d : Task σ Unit).Within A :=
  (within_ask _).bind fun _ => within_await hA _ _

theorem within_capture (hcapture : ∀ l limit, A (.capture l limit)) (launch : Launch)
    (limit : Millis) : (capture launch limit : Task σ _).Within A := by
  refine (within_perform (.capture launch (some limit)) (hcapture _ _) fun _ => rfl).bind fun r => ?_
  intro s
  refine (catchUp_echoes rfl r).mono (fun _ _ h => ?_) fun _ _ h => ?_
  all_goals exact h.mono fun a ha => hA a (Action.isWaiting_of_isEcho ha)

end Waiting

end Task

/-! ### Reading, and the wait for a marker -/

section Reading

variable {A : Action → Prop} (hA : ∀ a : Action, a.isWaiting = true → A a)

include hA

theorem Reading.within_covers (pid : Pid) : Covers pid fun α (t : Task σ α) => t.Within A where
  toIsClosed := Task.Within.isClosed
  now := Task.within_ask _
  patience := Task.within_ask _
  look r := Task.within_lookOnce (hA _ rfl) (fun _ => hA _ rfl) r
  await _ := Task.within_await hA _ _
  exhausted := .throw _

end Reading

namespace Watch

variable {A : Action → Prop} (hA : ∀ a : Action, a.isWatching = true → A a)

include hA

theorem within_covers (pid : Pid) : Covers pid fun α (t : Task σ α) => t.Within A where
  toCovers := Reading.within_covers (fun a ha => hA a (Action.isWatching_of_isWaiting ha)) pid
  print _ := Task.within_emit (hA _ rfl)
  undecodable := Task.within_emit (hA _ rfl)
  exitStatus? := Task.within_ask _
  statusUnknown := Task.within_emit (hA _ rfl)
  sleep d := Task.within_sleep (fun a ha => hA a (Action.isWatching_of_isWaiting ha)) d

theorem within_run (w : Watch) (pid : Pid) (r : LineReader) : (w.run pid r : Task σ _).Within A := by
  have hdeadline : (w.deadline : Task σ _).Within A :=
    (Task.within_ask _).bind fun _ => .ite (.pure _) (.throw _)
  exact (within_covers hA pid).run w hdeadline r

end Watch

/-! ### Ending processes -/

namespace Task

section Ending

variable {A : Action → Prop} (hA : ∀ a : Action, a.isEnding = true → A a)

include hA

theorem within_coversEnding (pid : Pid) : CoversEnding pid fun α (t : Task σ α) => t.Within A where
  toIsClosed := Within.isClosed
  ownGroup := within_ask _
  send _ _ := within_send (hA _ rfl) (hA _ rfl)
  note he := within_emit (hA _ (Action.isEnding_of_isOfEnding he))
  exitStatus? := within_ask _
  now := within_ask _
  await _ := within_await (fun a ha => hA a (Action.isEnding_of_isWaiting ha)) _ _

end Ending

end Task

/-! ### Finding processes -/

section Searching

namespace Probe

/-- A probe that looks for processes and does nothing else of the kind that counts. -/
def Within (A : Action → Prop) (p : Probe σ) : Prop := ∀ q, (p.discover q).Within A

theorem Within.mono {A B : Action → Prop} {p : Probe σ} (h : p.Within A) (hAB : ∀ a, A a → B a) :
    p.Within B := fun q => (h q).mono hAB

theorem within_coversTools : CoversTools fun α (t : Task σ α) => t.Within (Action.isAsking ·) where
  toIsClosed := Task.Within.isClosed
  capture _ :=
    Task.within_capture (fun _ ha => Action.isAsking_of_isWaiting ha) (fun _ _ => rfl) _ _
  note _ _ _ := Task.within_emit (A := (Action.isAsking ·)) rfl

theorem within_lsof (program : String) : (lsof program : Probe σ).Within (Action.isAsking ·) :=
  within_coversTools.lsof program

theorem within_netstat (program : String) :
    (netstat program : Probe σ).Within (Action.isAsking ·) :=
  within_coversTools.netstat program

theorem within_pattern : (pattern : Probe σ).Within (Action.isAsking ·) := fun _ =>
  (Task.within_ask _).bind fun _ => (Task.within_ask _).bind fun _ => .pure _

theorem within_coversRecords :
    CoversRecords fun α (t : Task σ α) => t.Within (Action.isSearching ·) where
  toIsClosed := Task.Within.isClosed
  ask := Task.within_ask
  list := Task.within_inFolder (A := (Action.isSearching ·)) (fun _ => rfl) _
  delete _ := Task.within_inFolder (A := (Action.isSearching ·)) (fun _ => rfl) _
  note he := Task.within_emit (Action.isSearching_of_isOfRecords he)

theorem within_pidfile : (pidfile : Probe σ).Within (Action.isSearching ·) :=
  within_coversRecords.pidfile

end Probe

/-- All that the probes of a reclaimer do is of a kind. -/
structure Reclaimer.Searches (A : Action → Prop) (r : Reclaimer σ) : Prop where
  probes : ∀ p ∈ r.probes, p.Within A
  sweeper : r.sweeper.Within A

theorem Reclaimer.Searches.mono {A B : Action → Prop} {r : Reclaimer σ} (h : r.Searches A)
    (hAB : ∀ a, A a → B a) : r.Searches B :=
  ⟨fun p hp => (h.probes p hp).mono hAB, h.sweeper.mono hAB⟩

theorem Reclaimer.standard_searches (pacing : ReclaimPacing) :
    (standard pacing : Reclaimer σ).Searches (Action.isSearching ·) where
  probes p hp := by
    simp only [standard, List.mem_cons, List.not_mem_nil, or_false] at hp
    rcases hp with rfl | rfl | rfl | rfl
    · exact (Probe.within_lsof _).mono fun _ => Action.isSearching_of_isAsking
    · exact (Probe.within_netstat _).mono fun _ => Action.isSearching_of_isAsking
    · exact Probe.within_pattern.mono fun _ => Action.isSearching_of_isAsking
    · exact Probe.within_pidfile
  sweeper := Probe.within_pattern.mono fun _ => Action.isSearching_of_isAsking

end Searching

/-! ### Killing what has been found -/

section Killing

variable {A : Action → Prop} (hA : ∀ a : Action, a.isKilling = true → A a)

include hA

theorem Task.within_forceKill (pid : Pid) : (forceKill pid : Task σ _).Within A := by
  have hprotected : (isProtected pid : Task σ Bool).Within A := (within_ask _).bind fun _ => .pure _
  refine hprotected.bind fun _ => .ite (.pure _) (.ite (.pure _) ?_)
  refine (within_send (hA _ rfl) (hA _ rfl)).bind fun r => ?_
  split
  · exact .pure _
  · exact .pure _
  · exact .pure _

namespace Reclaimer

theorem within_covers : Covers fun α (t : Task σ α) => t.Within A where
  toIsClosed := Task.Within.isClosed
  isProtected _ := (Task.within_ask _).bind fun _ => .pure _
  forceKill pid := Task.within_forceKill hA pid
  sleep d := Task.within_sleep (fun a ha => hA a (Action.isKilling_of_isWaiting ha)) d
  note he := Task.within_emit (hA _ (Action.isKilling_of_isOfKilling he))

theorem within_reclaim {r : Reclaimer σ} (hr : r.Searches A) (ports : List Port)
    (patterns : List Pattern) : (r.reclaim ports patterns).Within A :=
  (within_covers hA).reclaim fun p hp => hr.probes p hp _

end Reclaimer

end Killing

end LatencyHarness
