import LatencyHarness.Proofs.Kinds
import Mathlib.Logic.Relation

/-! What a task can do to a session, one step at a time.

Every task of a run is put together from a few steps: events noted, operations of the host, changes
of the pidfile directory and of the session's own books. `Session.Reaches` follows them from one
session to a later one, so what each step keeps is kept by every task. A task is `Orderly` if it
leaves the course of the run alone and is interrupted exactly when it hears of a request for
shutdown. -/
namespace LatencyHarness

section Ends

variable {ε S α β : Type}

/-- What holds of the value and of the state, or of the halt and of the state, however a
computation from `s` ends. -/
def Ends (x : EStateM ε S α) (s : S) (Q : α → S → Prop) (E : ε → S → Prop) : Prop :=
  match x s with
  | .ok a s' => Q a s'
  | .error e s' => E e s'

namespace Ends

variable {x : EStateM ε S α} {s : S} {Q Q' : α → S → Prop} {E E' : ε → S → Prop}

theorem of_ok (h : Ends x s Q E) {a : α} {s' : S} (hx : x s = .ok a s') : Q a s' := by
  simpa only [Ends, hx] using h

theorem of_error (h : Ends x s Q E) {e : ε} {s' : S} (hx : x s = .error e s') : E e s' := by
  simpa only [Ends, hx] using h

theorem self (x : EStateM ε S α) (s : S) :
    Ends x s (fun a s' => x s = .ok a s') (fun e s' => x s = .error e s') := by
  unfold Ends
  split
  · next hx => exact hx
  · next hx => exact hx

theorem and (h : Ends x s Q E) (h' : Ends x s Q' E') :
    Ends x s (fun a s' => Q a s' ∧ Q' a s') (fun e s' => E e s' ∧ E' e s') := by
  -- both are read off the same end of the computation
  unfold Ends at h h' ⊢
  split at h
  · next hx => exact ⟨h, by simpa only [hx] using h'⟩
  · next hx => exact ⟨h, by simpa only [hx] using h'⟩

theorem mono (h : Ends x s Q E) (hQ : ∀ a s', Q a s' → Q' a s') (hE : ∀ e s', E e s' → E' e s') :
    Ends x s Q' E' := by
  unfold Ends at h ⊢
  split at h
  · exact hQ _ _ h
  · exact hE _ _ h

/-- More is known of the value. -/
theorem also (h : Ends x s Q E) (h' : Ends x s Q' E') :
    Ends x s (fun a s' => Q a s' ∧ Q' a s') E :=
  (h.and h').mono (fun _ _ hq => hq) fun _ _ he => he.1

/-- Of a halt nothing is said. -/
theorem weaken (h : Ends x s Q E) (hQ : ∀ a s', Q a s' → Q' a s') :
    Ends x s Q' fun _ _ => True :=
  h.mono hQ fun _ _ _ => trivial

theorem forget (h : Ends x s Q E) : Ends x s Q fun _ _ => True := h.weaken fun _ _ hq => hq

theorem ok_self (x : EStateM ε S α) (s : S) :
    Ends x s (fun a s' => x s = .ok a s') fun _ _ => True := (self x s).forget

/-- Of a computation that cannot be halted, anything holds where it is. -/
theorem of_total (h : Ends x s Q fun _ _ => False) : Ends x s Q E :=
  h.mono (fun _ _ hq => hq) fun _ _ he => he.elim

theorem bind {f : α → EStateM ε S β} {R : β → S → Prop} (h : Ends x s Q E)
    (hf : ∀ a s', Q a s' → Ends (f a) s' R E) : Ends (x >>= f) s R E := by
  -- what comes second is run only where the first one ends with a value
  cases hx : x s with
  | ok a s' =>
    have hfa := hf a s' (h.of_ok hx)
    simpa only [Ends, Bind.bind, EStateM.bind, hx] using hfa
  | error e s' =>
    have he := h.of_error hx
    simpa only [Ends, Bind.bind, EStateM.bind, hx] using he

/-- What is caught goes on from where it was thrown. -/
theorem tryCatch {h : ε → EStateM ε S α} (hx : Ends x s Q E)
    (hh : ∀ e s', E e s' → Ends (h e) s' Q E') : Ends (tryCatch x h) s Q E' := by
  cases hend : x s with
  | ok a s' =>
    have hrun : MonadExcept.tryCatch x h s = .ok a s' := by
      change EStateM.tryCatch x h s = _
      delta EStateM.tryCatch
      rw [hend]
    simpa only [Ends, hrun] using hx.of_ok hend
  | error e s' =>
    have hrun : MonadExcept.tryCatch x h s = h e s' := by
      change EStateM.tryCatch x h s = _
      delta EStateM.tryCatch
      rw [hend]
      rfl
    simpa only [Ends, hrun] using hh e s' (hx.of_error hend)

theorem get_bind {f : S → EStateM ε S α} (h : Ends (f s) s Q E) :
    Ends (get >>= f) s Q E := h

theorem exists_ok (h : Ends x s Q fun _ _ => False) : ∃ a s', x s = .ok a s' ∧ Q a s' := by
  cases hx : x s with
  | ok a s' => exact ⟨a, s', rfl, h.of_ok hx⟩
  | error _ _ => exact (h.of_error hx).elim

instance [∀ a s', Decidable (Q a s')] [∀ e s', Decidable (E e s')] : Decidable (Ends x s Q E) :=
  match hx : x s with
  | .ok a s' => decidable_of_iff (Q a s') (by simp only [Ends, hx])
  | .error e s' => decidable_of_iff (E e s') (by simp only [Ends, hx])

end Ends

end Ends

namespace Event

/-- The events that mark how far a run has come. -/
def isMilestone : Event → Bool
  | runnerFound _ | portsFree | stateChanged _ _ | launched _ _ | ready _ _ => true
  | clientLaunched _ | teardownBegun => true
  | clientExited status => status.isSuccess
  | _ => false

theorem isMilestone_of_isOfKilling {e : Event} (h : e.isOfKilling = true) :
    e.isMilestone = false := by
  cases e <;> first | rfl | exact absurd h nofun

theorem isMilestone_of_isOfRecords {e : Event} (h : e.isOfRecords = true) :
    e.isMilestone = false := by
  cases e <;> first | rfl | exact absurd h nofun

theorem isMilestone_of_isOfPorts {e : Event} (h : e.isOfPorts = true) :
    e.isMilestone = false := by
  cases e <;> first | rfl | exact absurd h nofun

theorem isMilestone_of_isOfEnding {e : Event} (h : e.isOfEnding = true) :
    e.isMilestone = false := by
  cases e <;> first | rfl | exact absurd h nofun

theorem isMilestone_of_isOfTeardown {e : Event} (h : e.isOfTeardown = true) :
    e.isMilestone = false := by
  cases e <;> first | rfl | exact absurd h nofun

end Event

/-- The milestones of a run, the oldest first. -/
def Journal.milestones (j : Journal) : List Event := (j.filter Event.isMilestone).reverse

theorem Journal.milestones_cons (e : Event) (j : Journal) :
    milestones (e :: j) = milestones j ++ if e.isMilestone then [e] else [] := by
  by_cases h : e.isMilestone <;> simp [milestones, h]

theorem Journal.milestones_cons_of {e : Event} (he : e.isMilestone = true) (j : Journal) :
    milestones (e :: j) = milestones j ++ [e] := by
  rw [milestones_cons, if_pos he]

theorem Journal.mem_milestones {e : Event} {j : Journal} (he : e.isMilestone = true) :
    e ∈ milestones j ↔ e ∈ j := by
  simp [milestones, he]

/-! ### Steps -/

/-- One thing that a task does to a session. -/
inductive Action where
  | note (e : Event)
  | await (w : Wait) (limit : Option Instant) (cut : Bool)
  | news
  | spawn (dir : Path) (launch : Launch)
  | signal (signal : Signal) (recipient : Recipient)
  | firstStream
  | look (pid : Pid) (stream : Stream)
  | capture (launch : Launch) (limit : Option Millis)
  | folder (f : Folder)
  | cancel
  | interrupts (allowed : Bool)
  | forwarders (fs : List Forwarder)

namespace Action

variable {σ : Type} [Host σ]

/-- What an action does to the host. -/
def onHost (h : σ) : Action → σ
  | note e => Host.observe e h
  | await w limit cut => Host.await w limit cut h
  | news => (Host.news? h).2
  | spawn dir l => (Host.spawn dir l h).2
  | signal s r => (Host.signal s r h).2
  | firstStream => (Host.firstStream h).2
  | look pid s => (Host.look pid s h).2
  | capture l limit => (Host.capture l limit h).2
  | folder _ | cancel | interrupts _ | forwarders _ => h

/-- The session after an action. -/
def apply (s : Session σ) (a : Action) : Session σ :=
  let s := { s with host := a.onHost s.host }
  match a with
  | note e => { s with journal := e :: s.journal }
  | folder f => { s with pids := f }
  | cancel => { s with cancelled := true }
  | interrupts allowed => { s with interruptible := allowed }
  | forwarders fs => { s with forwarders := fs }
  | _ => s

/-- The actions that launch no program. -/
def startsNothing : Action → Bool
  | spawn _ _ => false
  | _ => true

/-- The actions that are not steps of the run itself: no milestone is passed, nothing is launched,
and whether the run can be interrupted stays as it is. -/
def isBackground : Action → Bool
  | note e => !e.isMilestone
  | spawn _ _ | interrupts _ => false
  | _ => true

end Action

namespace Session

variable {σ : Type} [Host σ] {A B : Action → Prop} {s s' s'' : Session σ}

/-- Some actions of a kind lead from one session to the other. -/
def Reaches (A : Action → Prop) : Session σ → Session σ → Prop :=
  Relation.ReflTransGen fun s s' => ∃ a, A a ∧ s' = a.apply s

namespace Reaches

theorem refl (s : Session σ) : s.Reaches A s := Relation.ReflTransGen.refl

theorem step (s : Session σ) {a : Action} (h : A a) : s.Reaches A (a.apply s) :=
  Relation.ReflTransGen.single ⟨a, h, rfl⟩

theorem trans (h : s.Reaches A s') (h' : s'.Reaches A s'') : s.Reaches A s'' :=
  Relation.ReflTransGen.trans h h'

theorem mono (hAB : ∀ a, A a → B a) (h : s.Reaches A s') : s.Reaches B s' := by
  -- the induction goes back from the last action
  induction h with
  | refl => exact refl s
  | tail _ hstep ih =>
    obtain ⟨a, ha, rfl⟩ := hstep
    exact ih.trans (step _ (hAB a ha))

theorem tail (h : s.Reaches A s') {a : Action} (ha : A a) : s.Reaches A (a.apply s') :=
  h.trans (step s' ha)

/-- What every action of a kind keeps is kept from one session to the other. -/
theorem keeps {P : Session σ → Prop} (hP : ∀ s a, A a → P s → P (a.apply s))
    (h : s.Reaches A s') (hs : P s) : P s' := by
  -- along the actions, from the first one to the last
  induction h with
  | refl => exact hs
  | tail _ hstep ih =>
    obtain ⟨a, ha, rfl⟩ := hstep
    exact hP _ a ha ih

theorem journal_suffix (h : s.Reaches A s') : s.journal <:+ s'.journal := by
  refine keeps (P := fun t => s.journal <:+ t.journal) (fun t a _ ht => ?_) h List.suffix_rfl
  -- a note is put in front; nothing else touches the journal
  cases a with
  | note e => exact ht.trans (List.suffix_cons e t.journal)
  | _ => exact ht

theorem milestones_eq (h : s.Reaches (Action.isBackground ·) s') :
    s'.journal.milestones = s.journal.milestones := by
  refine keeps (P := fun t => t.journal.milestones = s.journal.milestones)
    (fun t a ha ht => ?_) h rfl
  -- what is noted in the background is no milestone
  cases a with
  | note e =>
    have he : e.isMilestone = false := by simpa [Action.isBackground] using ha
    simpa [Action.apply, Journal.milestones_cons, he] using ht
  | _ => exact ht

theorem interruptible_eq (h : s.Reaches (Action.isBackground ·) s') :
    s'.interruptible = s.interruptible := by
  refine keeps (P := fun t => t.interruptible = s.interruptible) (fun t a ha ht => ?_) h rfl
  -- the one action that changes it is not of the background
  cases a with
  | interrupts allowed => exact absurd ha (by simp [Action.isBackground])
  | _ => exact ht

end Reaches

/-- No program has been launched from one session to the other. -/
def Later (s s' : Session σ) : Prop := s.Reaches (Action.startsNothing ·) s'

theorem Reaches.later (h : s.Reaches (Action.isBackground ·) s') : s.Later s' := by
  refine h.mono fun a ha => ?_
  cases a with
  | spawn dir l => exact ha
  | _ => rfl

/-- The host has given a status for the process, and no program has been launched since. -/
def HasLearnt (s' : Session σ) (pid : Pid) (status : WaitStatus) : Prop :=
  ∃ s : Session σ, Host.exitStatus? pid s.host = .ok (some status) ∧ s.Later s'

theorem HasLearnt.later {pid : Pid} {status : WaitStatus} (h : s.HasLearnt pid status)
    (hs : s.Later s') : s'.HasLearnt pid status := by
  obtain ⟨t, hstatus, ht⟩ := h
  exact ⟨t, hstatus, ht.trans hs⟩

/-- A child has been launched under this id on the way to the session. -/
def HasSpawned (s' : Session σ) (pid : Pid) : Prop :=
  ∃ (s : Session σ) (dir : Path) (l : Launch), (Host.spawn dir l s.host).1 = .ok pid ∧
    ((Action.spawn dir l).apply s).Reaches (fun _ => True) s'

theorem HasSpawned.le {pid : Pid} (h : s.HasSpawned pid) : pid.toNat ≤ maxOsPid := by
  obtain ⟨t, dir, l, hpid, -⟩ := h
  exact Host.spawn_le hpid

theorem HasSpawned.reaches {pid : Pid} (h : s.HasSpawned pid) (hs : s.Reaches A s') :
    s'.HasSpawned pid := by
  obtain ⟨t, dir, l, hpid, ht⟩ := h
  exact ⟨t, dir, l, hpid, ht.trans (hs.mono fun _ _ => trivial)⟩

end Session

/-! ### Orderly tasks -/

namespace Session

variable {σ : Type} [Host σ] {s s' s'' : Session σ}

/-- A request for shutdown would be news, and would end a task that waits. -/
def Alert (s : Session σ) : Prop := s.interruptible = true ∧ s.cancelled = false

/-- A task has gone from one session to the other in the background of the run. -/
structure Passes (s s' : Session σ) : Prop where
  reaches : s.Reaches (Action.isBackground ·) s'
  alert : s.Alert → s'.Alert

/-- A task that began in `s` has been halted in `s'`, by a request for shutdown if it heard of
one. -/
structure HaltsAt (s : Session σ) (e : Halt) (s' : Session σ) : Prop where
  reaches : s.Reaches (Action.isBackground ·) s'
  prompt : s.Alert → (e = .interrupted ↔ s'.cancelled = true)

theorem Passes.refl (s : Session σ) : s.Passes s := ⟨.refl s, id⟩

theorem Passes.trans (h : s.Passes s') (h' : s'.Passes s'') : s.Passes s'' :=
  ⟨h.reaches.trans h'.reaches, fun hs => h'.alert (h.alert hs)⟩

theorem Passes.haltsAt {e : Halt} (h : s.Passes s') (h' : s'.HaltsAt e s'') : s.HaltsAt e s'' :=
  ⟨h.reaches.trans h'.reaches, fun hs => h'.prompt (h.alert hs)⟩

/-- Background actions that leave the token alone leave the session as alert as it was. -/
theorem Passes.of_cancelled_eq (h : s.Reaches (Action.isBackground ·) s')
    (hc : s'.cancelled = s.cancelled) : s.Passes s' :=
  ⟨h, fun hs => ⟨h.interruptible_eq.trans hs.1, hc.trans hs.2⟩⟩

end Session

namespace Task

variable {σ : Type} [Host σ] {α β : Type} {t : Task σ α} {f : α → Task σ β}

/-- A task that stays in the background of the run, and that a request for shutdown, once heard
of, and nothing else interrupts. -/
def Orderly (t : Task σ α) : Prop := ∀ s, Ends t s (fun _ s' => s.Passes s') (s.HaltsAt · ·)

/-- A task that stays in the background of the run, takes no notice of requests for shutdown and
ends with a value. -/
def Smooth (t : Task σ α) : Prop :=
  ∀ s, Ends t s (fun _ s' => s.Reaches (Action.isBackground ·) s' ∧ s'.cancelled = s.cancelled)
    (fun _ _ => False)

theorem Smooth.orderly (h : t.Smooth) : t.Orderly := fun s =>
  (h s).mono (fun _ _ ⟨hr, hc⟩ => .of_cancelled_eq hr hc) (fun _ _ h => h.elim)

namespace Smooth

theorem pure (a : α) : (Pure.pure a : Task σ α).Smooth := fun s => ⟨.refl s, rfl⟩

theorem bind (ht : t.Smooth) (hf : ∀ a, (f a).Smooth) : (t >>= f).Smooth := fun s =>
  (ht s).bind fun a s' ⟨hr, hc⟩ =>
    (hf a s').mono (fun _ _ ⟨hr', hc'⟩ => ⟨hr.trans hr', hc'.trans hc⟩) (fun _ _ h => h)

theorem ite {c : Prop} [Decidable c] {t u : Task σ α} (ht : t.Smooth) (hu : u.Smooth) :
    (if c then t else u).Smooth := by
  split
  · exact ht
  · exact hu

theorem isClosed : IsClosed fun α (t : Task σ α) => t.Smooth where
  pure := pure
  bind := bind

theorem mapM {γ : Type} {g : γ → Task σ α} (hg : ∀ c, (g c).Smooth) (l : List γ) :
    (l.mapM g).Smooth :=
  isClosed.mapM hg l

end Smooth

namespace Orderly

theorem ends (h : t.Orderly) (s : Session σ) :
    Ends t s (fun _ s' => s.Passes s') (fun _ _ => True) :=
  (h s).forget

theorem pure (a : α) : (Pure.pure a : Task σ α).Orderly := (Smooth.pure a).orderly

theorem bind (ht : t.Orderly) (hf : ∀ a, (f a).Orderly) : (t >>= f).Orderly := fun s =>
  (ht s).bind fun a s' h =>
    (hf a s').mono (fun _ _ h' => h.trans h') (fun _ _ h' => h.haltsAt h')

theorem ite {c : Prop} [Decidable c] {t u : Task σ α} (ht : t.Orderly) (hu : u.Orderly) :
    (if c then t else u).Orderly := by
  split
  · exact ht
  · exact hu

theorem throw {e : Halt} (he : e ≠ .interrupted) : (throw e : Task σ α).Orderly := fun s =>
  ⟨.refl s, fun hs => by simp [he, hs.2]⟩

theorem isClosed : IsClosed fun α (t : Task σ α) => t.Orderly where
  pure := pure
  bind := bind

theorem forIn {γ : Type} {g : γ → β → Task σ (ForInStep β)} (hg : ∀ c b, (g c b).Orderly)
    (l : List γ) (b : β) : (forIn l b g).Orderly :=
  isClosed.forIn hg l b

end Orderly

/-! ### The basic tasks -/

omit [Host σ] in
theorem ends_ask_bind {g : σ → α} {s : Session σ} {Q : β → Session σ → Prop}
    {E : Halt → Session σ → Prop} (h : Ends (f (g s.host)) s Q E) : Ends (ask g >>= f) s Q E := h

theorem smooth_emit {e : Event} (he : e.isMilestone = false) : (emit e : Task σ Unit).Smooth :=
  fun s => ⟨.step s (a := .note e) (by simp [Action.isBackground, he]), rfl⟩

theorem ends_emit_bind {e : Event} {f : Unit → Task σ β} {s : Session σ}
    {Q : β → Session σ → Prop} {E : Halt → Session σ → Prop}
    (h : Ends (f ()) ((Action.note e).apply s) Q E) : Ends (emit e >>= f) s Q E := h

theorem smooth_print (text : String) : (print text : Task σ Unit).Smooth := smooth_emit rfl

theorem smooth_ask (g : σ → α) : (ask g : Task σ α).Smooth := fun s => ⟨.refl s, rfl⟩

theorem smooth_get : (get : Task σ (Session σ)).Smooth := fun s => ⟨.refl s, rfl⟩

/-- Having the host do something is one step, if it is one of its operations. -/
theorem smooth_perform {g : σ → α × σ} (a : Action) (ha : a.isBackground = true)
    (hg : ∀ s : Session σ, { s with host := (g s.host).2 } = a.apply s) :
    (perform g : Task σ α).Smooth := fun s => by
  have hs : s.Reaches (Action.isBackground ·) { s with host := (g s.host).2 } :=
    hg s ▸ Session.Reaches.step s ha
  exact ⟨hs, rfl⟩

theorem smooth_inFolder (t : FolderTask α) : (inFolder t : Task σ _).Smooth := fun s =>
  ⟨.step s (a := .folder (t.on s.pids).2) rfl, rfl⟩

theorem smooth_send (signal : Signal) (recipient : Recipient) :
    (send signal recipient : Task σ _).Smooth :=
  (smooth_emit rfl).bind fun _ => smooth_perform (.signal signal recipient) rfl fun _ => rfl

theorem smooth_stopForwarder (pid : Pid) : (stopForwarder pid : Task σ Unit).Smooth := fun s =>
  ⟨.step s (a := .forwarders (s.forwarders.filter (·.pid ≠ pid))) rfl, rfl⟩

theorem smooth_lookAt (pid : Pid) (stream : Stream) (r : LineReader) :
    (lookAt pid stream r : Task σ _).Smooth :=
  .ite ((smooth_perform (.look pid stream) rfl fun _ => rfl).bind fun _ => .pure _) (.pure _)

theorem smooth_lookOnce (pid : Pid) (r : LineReader) : (lookOnce pid r : Task σ _).Smooth :=
  (smooth_perform .firstStream rfl fun _ => rfl).bind fun stream =>
    (smooth_lookAt pid stream r).bind fun (r, _) =>
      .ite (.pure _) (smooth_lookAt pid stream.other r)

theorem smooth_forward (fuel : Nat) (f : Forwarder) : (forward fuel f : Task σ _).Smooth := by
  -- each line that is echoed takes one from the fuel
  induction fuel generalizing f with
  | zero => exact .pure f
  | succ fuel ih =>
    refine .ite (.pure f) ((smooth_lookOnce f.pid f.reader.renew).bind fun (r, e) => ?_)
    match e with
    | none | some .allClosed => exact .pure _
    | some (.line bytes) => exact (smooth_print _).bind fun _ => ih _
    | some .streamClosed => exact ih _

theorem smooth_forwardAll : (forwardAll : Task σ Unit).Smooth :=
  (smooth_ask _).bind fun fuel => smooth_get.bind fun _ =>
    (Smooth.mapM (smooth_forward fuel) _).bind fun fs s => ⟨.step s (a := .forwarders fs) rfl, rfl⟩

/-- Listening never halts; it may cancel the token. -/
theorem listen_ends (s : Session σ) :
    Ends (listen : Task σ Unit) s (fun _ s' => s.Reaches (Action.isBackground ·) s')
      (fun _ _ => False) := by
  have hcancel (t : Session σ) :
      t.Reaches (Action.isBackground ·) { t with cancelled := true } := .step t (a := .cancel) rfl
  have hemit {e : Event} (he : e.isMilestone = false) (t : Session σ) :
      t.Reaches (Action.isBackground ·) ((Action.note e).apply t) :=
    .step t (by simp [Action.isBackground, he])
  refine ((smooth_perform .news rfl fun _ => rfl) s).bind fun n s₁ ⟨h₁, _⟩ => ?_
  match n with
  | none => exact h₁
  | some .cancelled => exact h₁.trans (hcancel s₁)
  | some .signalled =>
    change Ends (do if s₁.cancelled then return
                    emit .shutdownRequested
                    print ""
                    print "⚠️  Interrupted, cleaning up..."
                    modify fun s => { s with cancelled := true } : Task σ Unit) s₁ _ _
    split
    · exact h₁
    · -- the signal is noted and announced, then it cancels the token
      exact h₁.trans <| ((hemit rfl s₁).trans ((hemit rfl _).trans (hemit rfl _))).trans (hcancel _)

/-- A session that is alert when a task begins is alert where the token is checked, or else the
task ends there. -/
theorem checkpoint_ends {s₀ s : Session σ} (h : s₀.Reaches (Action.isBackground ·) s) :
    Ends (checkpoint : Task σ Unit) s (fun _ s' => s₀.Passes s') (s₀.HaltsAt · ·) := by
  change Ends (if s.interruptible && s.cancelled then throw Halt.interrupted else pure ()) s _ _
  split
  · -- the token has been cancelled since the task began
    next hc =>
    have hcancelled : s.cancelled = true := (Bool.and_eq_true _ _ ▸ hc).2
    exact ⟨h, fun _ => by simp [hcancelled]⟩
  · -- if the session was alert, it may still be interrupted, so the token is not cancelled
    next hc =>
    refine ⟨h, fun ha => ?_⟩
    have hi : s.interruptible = true := h.interruptible_eq.trans ha.1
    exact ⟨hi, by simpa [hi] using hc⟩

/-- What follows a wait: listening, the echoing of what has come, the check of the token. -/
theorem catchUp_ends {s₀ s : Session σ} (h : s₀.Reaches (Action.isBackground ·) s) (a : α) :
    Ends (do listen; forwardAll; checkpoint; return a : Task σ α) s (fun _ s' => s₀.Passes s')
      (s₀.HaltsAt · ·) := by
  -- only the last of the three can halt
  refine (listen_ends s).of_total.bind fun _ s₁ h₁ => ?_
  refine (smooth_forwardAll s₁).of_total.bind fun _ s₂ h₂ => ?_
  exact (checkpoint_ends ((h.trans h₁).trans h₂.1)).bind fun _ _ h₃ => h₃

theorem orderly_await (w : Wait) (limit : Option Instant) :
    (await w limit : Task σ Unit).Orderly := by
  intro s
  -- the wait itself is one action of the host
  have h := catchUp_ends (.step s (a := .await w limit s.interruptible) rfl) ()
  rw [bind_pure_unit] at h
  exact h

theorem orderly_sleep (d : Millis) : (sleep d : Task σ Unit).Orderly :=
  (smooth_ask _).orderly.bind fun _ => orderly_await _ _

theorem orderly_capture (launch : Launch) (limit : Millis) :
    (capture launch limit : Task σ _).Orderly := fun s =>
  catchUp_ends (.step s (a := .capture launch (some limit)) rfl) _

end Task

end LatencyHarness
