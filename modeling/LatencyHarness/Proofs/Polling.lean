import LatencyHarness.Proofs.Handover
import LatencyHarness.Proofs.Readiness

/-! What decides a wait for a marker.

A round comes upon the clock, upon the answer to the question whether the child has ended, and upon
a line; the first of the three that decides gives the outcome, and none of the later ones is looked
at. Rounds that decide nothing follow each other until one does. So the outcome is that of the first
round that decides, and a wait whose clock comes to the deadline has one. -/
namespace LatencyHarness

open Text (splitLines)
open Text.Utf8 (Bytes decode)

variable {σ : Type} [Host σ]

/-! ### Polls -/

/-- What a round comes upon: the clock as it begins, the answer to the question whether the child has
ended, and the line that is read. -/
structure Poll where
  clock : Instant
  ended : Except SystemError (Option WaitStatus)
  line : Option Bytes

/-- The outcome that a poll decides, if it decides any: that the time is up, else that the child has
ended, else that it is ready. -/
def Poll.verdict (marker : String) (deadline : Instant) (x : Poll) : Option ReadinessOutcome :=
  if deadline ≤ x.clock then some .timedOut
  else match x.ended, x.line.map decode with
    | .ok (some status), _ => some (.processExited status)
    | _, some (.ok text) => if marker.toList <:+: text then some .ready else none
    | _, _ => none

/-- What the round has found out then. -/
def Poll.observation (deadline : Instant) (x : Poll) : Observation :=
  if deadline ≤ x.clock then .late
  else match x.ended with
    | .ok (some status) => .dead status
    | _ => .read x.line

namespace Poll

variable {marker : String} {deadline : Instant} {x : Poll}

theorem observation_late (h : deadline ≤ x.clock) : x.observation deadline = .late := if_pos h

theorem observation_ended (hearly : x.clock < deadline) {status : WaitStatus}
    (h : x.ended = .ok (some status)) : x.observation deadline = .dead status := by
  unfold observation
  rw [if_neg (Nat.not_le_of_lt hearly), h]

theorem observation_read (hearly : x.clock < deadline)
    (halive : ∀ status, x.ended ≠ .ok (some status)) : x.observation deadline = .read x.line := by
  unfold observation
  rw [if_neg (Nat.not_le_of_lt hearly)]
  split
  · next status hended => exact absurd hended (halive status)
  · rfl

theorem verdict_observation (marker : String) (deadline : Instant) (x : Poll) :
    (x.observation deadline).verdict marker.toList = x.verdict marker deadline := by
  obtain ⟨clock, ended, line⟩ := x
  unfold observation verdict
  split
  · rfl
  · -- of what has been read only a line that can be decoded decides
    match ended, line with
    | .ok (some status), _ | .ok none, none | .error _, none => rfl
    | .ok none, some bytes | .error _, some bytes =>
      cases hdecode : decode bytes with
      | error _ => simp [Observation.verdict, hdecode]
      | ok text => simp [Observation.verdict, hdecode, Text.occursIn_iff]

/-- Before the deadline, of a child that is not known to have ended, a line is read. -/
theorem reads_of_observation (hlate : x.observation deadline ≠ .late)
    (hdead : ∀ status, x.observation deadline ≠ .dead status) :
    x.clock < deadline ∧ (∀ status, x.ended ≠ .ok (some status)) ∧
      x.observation deadline = .read x.line := by
  have hearly : x.clock < deadline := Nat.lt_of_not_le fun h => hlate (observation_late h)
  have halive : ∀ status, x.ended ≠ .ok (some status) := fun status h =>
    hdead status (observation_ended hearly h)
  exact ⟨hearly, halive, observation_read hearly halive⟩

/-- A poll tells that a child is ready only before the deadline, of a child that is not known to
have ended, and by a line that holds the marker. -/
theorem verdict_ready (h : x.verdict marker deadline = some .ready) :
    x.clock < deadline ∧ (∀ status, x.ended ≠ .ok (some status)) ∧
      ∃ line, x.line = some line ∧ HoldsMarker marker line := by
  rw [← verdict_observation] at h
  obtain ⟨line, hline, hholds⟩ := Observation.exists_line_of_ready h
  have hlate : x.observation deadline ≠ .late := fun heq => by
    rw [heq] at hline
    exact absurd hline nofun
  have hdead : ∀ status, x.observation deadline ≠ .dead status := fun status heq => by
    rw [heq] at hline
    exact absurd hline nofun
  obtain ⟨hearly, halive, hread⟩ := reads_of_observation hlate hdead
  rw [hread] at hline
  exact ⟨hearly, halive, line, hline, hholds⟩

end Poll

/-- From here on every attempt to read comes to its end, limited as it is. -/
def Session.ReadsEnd (pid : Pid) (s : Session σ) : Prop :=
  ∀ t, s.Precedes t → ∀ wait ≤ readWindow, ∀ r s', Reading.line pid wait r t ≠ .error .exhausted s'

/-- A host whose clock does not go back, and on which a wait for the output of a child takes time
unless its limit has passed. -/
structure Host.Ticks (σ : Type) [Host σ] (pid : Pid) : Prop where
  clock : ∀ (a : Action) (h : σ), Host.now h ≤ Host.now (a.onHost h)
  patience : ∀ (a : Action) (h : σ), Host.patience (a.onHost h) = Host.patience h
  waits : ∀ (limit : Instant) (cut : Bool) (h : σ), Host.now h < limit →
    Host.now h < Host.now (Host.await (.output pid) (some limit) cut h)

namespace Host.Ticks

variable {pid : Pid} {s s' : Session σ}

theorem clock_le (ht : Host.Ticks σ pid) (h : s.Precedes s') : s.clock ≤ s'.clock := by
  refine h.keeps (P := fun t => s.clock ≤ t.clock) (fun t a _ hle => hle.trans ?_) (Nat.le_refl _)
  unfold Session.clock
  rw [Action.apply_host]
  exact ht.clock a t.host

theorem patience_eq (ht : Host.Ticks σ pid) (h : s.Precedes s') :
    Host.patience s'.host = Host.patience s.host := by
  refine h.keeps (P := fun t => Host.patience t.host = Host.patience s.host) (fun t a _ heq => ?_) rfl
  rw [Action.apply_host, ht.patience, heq]

theorem await_ends (ht : Host.Ticks σ pid) {limit : Instant} (hlimit : s.clock < limit) :
    Ends (Task.await (.output pid) (some limit) : Task σ Unit) s (fun _ s' => s.clock < s'.clock)
      (fun e _ => e ≠ .exhausted) := by
  refine ((Task.steady_await _ _).halts (Task.await_echoes _ _ s)).mono (fun _ s' h => ?_) ?_
  · let waited := (Action.await (.output pid) (some limit) s.interruptible).apply s
    calc s.clock < waited.clock := ht.waits limit s.interruptible s.host hlimit
      _ ≤ s'.clock := ht.clock_le h.precedes
  · rintro _ _ ⟨rfl, -⟩
    exact nofun

/-- A look and a wait take time, so there are no more of them than the limit is away. -/
theorem eventWithin_ends (ht : Host.Ticks σ pid) {limit fuel : Nat} (r : LineReader)
    (hfuel : limit - s.clock < fuel) :
    Ends (Reading.eventWithin pid (some limit) fuel r : Task σ _) s (fun _ _ => True)
      (fun e _ => e ≠ .exhausted) := by
  -- the clock has moved on before the next look
  induction fuel generalizing r s with
  | zero => exact absurd hfuel (Nat.not_lt_zero _)
  | succ fuel ih =>
    unfold Reading.eventWithin
    split
    · trivial
    · refine (Task.smooth_lookOnce pid r s).of_total.bind ?_
      rintro ⟨r₁, e⟩ s₁ ⟨hlook, -⟩
      have hle := ht.clock_le hlook.precedes
      dsimp only
      split
      · trivial
      · refine Task.ends_ask_bind ?_
        split
        · trivial
        · next hbefore =>
          have hbefore : s₁.clock < limit := by simpa [Session.clock] using hbefore
          refine (ht.await_ends hbefore).bind fun _ s₂ hlt => ih r₁ ?_
          omega

theorem readsEnd (ht : Host.Ticks σ pid) (hpatience : readWindow < Host.patience s.host) :
    s.ReadsEnd pid := by
  intro t hst wait hwait r s' hline
  have hends : Ends (Reading.line pid wait r : Task σ _) t (fun _ _ => True)
      (fun e _ => e ≠ .exhausted) := by
    unfold Reading.line
    split
    · trivial
    · refine Task.ends_ask_bind ?_
      have hfuel : t.clock + wait - t.clock < Host.patience t.host := by
        rw [ht.patience_eq hst, Nat.add_sub_cancel_left]
        exact Nat.lt_of_le_of_lt hwait hpatience
      have hevent : Ends (Reading.event pid (some (t.clock + wait)) r : Task σ _) t
          (fun _ _ => True) (fun e _ => e ≠ .exhausted) :=
        Task.ends_ask_bind (ht.eventWithin_ends r.renew hfuel)
      refine hevent.bind fun (r₁, e) s₁ _ => ?_
      match e with
      | some (.line _) | some .streamClosed | some .allClosed | none => trivial
  exact hends.of_error hline rfl

end Host.Ticks

namespace Watch

variable {w : Watch} {pid : Pid} {deadline : Instant} {r r' r₁ : LineReader}
  {s s' s₁ t : Session σ} {x : Poll} {xs : List Poll}

/-- The session in which a round reads: a question that has not been answered is complained
about. -/
def asked (pid : Pid) (s : Session σ) : Session σ :=
  match Host.exitStatus? pid s.host with
  | .ok _ => s
  | .error _ => (Action.note .statusUnknown).apply s

/-- What a round comes upon, from one reader and session to another. Where the clock or the answer
decides, nothing is read and nothing happens at all. -/
inductive Polls (pid : Pid) (deadline : Instant) (r : LineReader) (s : Session σ) :
    Poll → LineReader → Session σ → Prop
  | unread (h : deadline ≤ s.clock ∨ ∃ status, Host.exitStatus? pid s.host = .ok (some status)) :
    Polls pid deadline r s ⟨s.clock, Host.exitStatus? pid s.host, none⟩ r s
  | read {line : Option Bytes} {r' : LineReader} {s' : Session σ} (hearly : s.clock < deadline)
    (halive : ∀ status, Host.exitStatus? pid s.host ≠ .ok (some status))
    (hline : Reading.line pid (min readWindow (deadline - s.clock)) r (asked pid s) =
      .ok (r', line) s') :
    Polls pid deadline r s ⟨s.clock, Host.exitStatus? pid s.host, line⟩ r' s'

/-- What follows a poll that decides nothing: the line is echoed, and unless it could be read there
is a pause. -/
inductive Rests (w : Watch) (deadline : Instant) (x : Poll) (s : Session σ) : Session σ → Prop
  | goesOn {s' : Session σ} (hecho : w.echo (x.observation deadline) s = .ok () s')
    (hline : pauses (x.observation deadline) = false) : Rests w deadline x s s'
  | pauses {t s' : Session σ} (hecho : w.echo (x.observation deadline) s = .ok () t)
    (hline : pauses (x.observation deadline) = true)
    (hsleep : Task.sleep (min w.pollInterval (deadline - t.clock)) t = .ok () s') :
    Rests w deadline x s s'

/-- Some rounds that decide nothing follow each other, from one reader and session to another. -/
inductive Waits (w : Watch) (pid : Pid) (deadline : Instant) :
    LineReader → Session σ → List Poll → LineReader → Session σ → Prop
  | none (r : LineReader) (s : Session σ) : Waits w pid deadline r s [] r s
  | round {r r₁ r' : LineReader} {s s₁ s₂ s' : Session σ} {x : Poll} {xs : List Poll}
    (hpoll : Polls pid deadline r s x r₁ s₁) (hundecided : x.verdict w.marker deadline = .none)
    (hrest : w.Rests deadline x s₁ s₂) (h : Waits w pid deadline r₁ s₂ xs r' s') :
    Waits w pid deadline r s (x :: xs) r' s'

/-- A wait is decided: some rounds decide nothing, and the next one decides the outcome. After that
a line that it has read is echoed, and nothing else is done. -/
structure DecidedBy (w : Watch) (pid : Pid) (deadline : Instant) (r : LineReader) (s : Session σ)
    (xs : List Poll) (x : Poll) (outcome : ReadinessOutcome) (r' : LineReader) (s' : Session σ) :
    Prop where
  decided : x.verdict w.marker deadline = some outcome
  rounds : ∃ r₁ s₁ s₂, w.Waits pid deadline r s xs r₁ s₁ ∧ Polls pid deadline r₁ s₁ x r' s₂ ∧
    w.echo (x.observation deadline) s₂ = .ok () s'

theorem observe_polls (pid : Pid) (deadline : Instant) (r : LineReader) (s : Session σ) :
    Ends (observe pid deadline r : Task σ _) s
      (fun y s' => ∃ x, Polls pid deadline r s x y.1 s' ∧ y.2 = x.observation deadline)
      (fun _ _ => True) := by
  refine Task.ends_ask_bind ?_
  change Ends (if deadline ≤ s.clock then _ else _) s _ _
  split
  · next hlate => exact ⟨_, .unread (.inl hlate), (Poll.observation_late hlate).symm⟩
  · next hearly =>
    have hearly : s.clock < deadline := Nat.lt_of_not_le hearly
    have hread (halive : ∀ status, Host.exitStatus? pid s.host ≠ .ok (some status)) :
        Ends (readLine pid (min readWindow (deadline - s.clock)) r : Task σ _) (asked pid s)
          (fun y s' => ∃ x, Polls pid deadline r s x y.1 s' ∧ y.2 = x.observation deadline)
          (fun _ _ => True) := by
      refine (Ends.ok_self (Reading.line pid _ r : Task σ _) (asked pid s)).bind ?_
      rintro ⟨r', line⟩ s' hline
      let x : Poll := ⟨s.clock, Host.exitStatus? pid s.host, line⟩
      have hread : x.observation deadline = .read line := Poll.observation_read hearly halive
      exact ⟨x, .read hearly halive hline, hread.symm⟩
    refine Task.ends_ask_bind ?_
    unfold asked at hread
    split
    · next status hstatus =>
      exact ⟨_, .unread (.inr ⟨status, hstatus⟩), (Poll.observation_ended hearly hstatus).symm⟩
    · next hstatus =>
      rw [hstatus] at hread
      exact hread nofun
    · next hstatus =>
      rw [hstatus] at hread
      exact Task.ends_emit_bind (hread nofun)

/-- A round decides the outcome, or it is followed by the next one. -/
theorem rounds_polls {Q : LineReader × ReadinessOutcome → Session σ → Prop}
    {E : Halt → Session σ → Prop} {fuel : Nat}
    (hobserve : Ends (observe pid deadline r : Task σ _) s (fun _ _ => True) E)
    (hsleep : ∀ d (t : Session σ), Ends (Task.sleep d : Task σ Unit) t (fun _ _ => True) E)
    (hdecided : ∀ x outcome r' s₁ s', Polls pid deadline r s x r' s₁ →
      x.verdict w.marker deadline = some outcome →
      w.echo (x.observation deadline) s₁ = .ok () s' → Q (r', outcome) s')
    (hnext : ∀ x r₁ s₁ t, Polls pid deadline r s x r₁ s₁ → x.verdict w.marker deadline = none →
      w.Rests deadline x s₁ t → Ends (w.rounds pid deadline fuel r₁ : Task σ _) t Q E) :
    Ends (w.rounds pid deadline (fuel + 1) r : Task σ _) s Q E := by
  refine (hobserve.also (observe_polls pid deadline r s)).bind ?_
  rintro ⟨r₁, o⟩ s₁ ⟨-, x, hpoll, ho⟩
  obtain rfl : o = x.observation deadline := ho
  -- an echo cannot be halted, a pause can
  have hechoed := (smooth_echo w (x.observation deadline) s₁).also (Ends.self _ s₁)
  refine hechoed.of_total.bind fun _ s₂ ⟨_, hecho⟩ => ?_
  have hverdict := Poll.verdict_observation w.marker deadline x
  cases hdecides : x.verdict w.marker deadline with
  | some outcome =>
    simp only [hverdict, hdecides]
    exact hdecided x outcome r₁ s₁ s₂ hpoll hdecides hecho
  | none =>
    simp only [hverdict, hdecides]
    split
    · next hpauses =>
      refine Task.ends_ask_bind ?_
      have hslept := (hsleep (min w.pollInterval (deadline - s₂.clock)) s₂).also (Ends.self _ s₂)
      refine hslept.bind fun _ t ⟨_, hpause⟩ => ?_
      exact hnext x r₁ s₁ t hpoll hdecides (.pauses hecho hpauses hpause)
    · next hpauses =>
      exact hnext x r₁ s₁ s₂ hpoll hdecides (.goesOn hecho (Bool.eq_false_iff.mpr hpauses))

/-- Rounds end with the first that decides. -/
theorem rounds_decided (w : Watch) (pid : Pid) (deadline : Instant) (fuel : Nat) (r : LineReader)
    (s : Session σ) :
    Ends (w.rounds pid deadline fuel r : Task σ _) s
      (fun y s' => ∃ xs x, w.DecidedBy pid deadline r s xs x y.2 y.1 s') (fun _ _ => True) := by
  -- on the rounds that are left; where there is none the host's patience is at its end
  induction fuel generalizing r s with
  | zero => trivial
  | succ fuel ih =>
    have hany {α : Type} (t : Task σ α) (s : Session σ) : Ends t s (fun _ _ => True)
        (fun _ _ => True) := (Ends.ok_self t s).weaken fun _ _ _ => trivial
    refine rounds_polls (hany _ s) (fun _ => hany _) ?_ ?_
    · intro x outcome r' s₁ s' hpoll hdecides hecho
      exact ⟨[], x, hdecides, r, s, s₁, .none r s, hpoll, hecho⟩
    · intro x r₁ s₁ t hpoll hundecided hrest
      refine (ih r₁ t).weaken ?_
      rintro y s' ⟨xs, x', hdecides, r₂, s₂, s₃, hwaits, hlast, hecho⟩
      exact ⟨x :: xs, x', hdecides, r₂, s₂, s₃, .round hpoll hundecided hrest hwaits, hlast, hecho⟩

/-! ### One outcome -/

/-- A round comes upon one thing. -/
theorem Polls.unique {y : Poll} (h : Polls pid deadline r s x r' s') {r'' : LineReader}
    {s'' : Session σ} (h' : Polls pid deadline r s y r'' s'') : x = y ∧ r' = r'' ∧ s' = s'' := by
  cases h with
  | unread hdecided =>
    cases h' with
    | unread _ => exact ⟨rfl, rfl, rfl⟩
    | read hearly halive _ =>
      rcases hdecided with hlate | ⟨status, hstatus⟩
      · exact absurd hearly (Nat.not_lt_of_le hlate)
      · exact absurd hstatus (halive status)
  | read hearly halive hline =>
    cases h' with
    | unread hdecided =>
      rcases hdecided with hlate | ⟨status, hstatus⟩
      · exact absurd hearly (Nat.not_lt_of_le hlate)
      · exact absurd hstatus (halive status)
    | read _ _ hline' =>
      obtain ⟨hread, rfl⟩ := EStateM.Result.ok.inj (hline.symm.trans hline')
      obtain ⟨rfl, rfl⟩ := Prod.mk.inj hread
      exact ⟨rfl, rfl, rfl⟩

theorem Rests.unique {t' : Session σ} (h : w.Rests deadline x s t) (h' : w.Rests deadline x s t') :
    t = t' := by
  cases h with
  | goesOn hecho hline =>
    cases h' with
    | goesOn hecho' _ => exact (EStateM.Result.ok.inj (hecho.symm.trans hecho')).2
    | pauses _ hline' _ => exact absurd (hline.symm.trans hline') Bool.false_ne_true
  | pauses hecho hline hsleep =>
    cases h' with
    | goesOn _ hline' => exact absurd (hline'.symm.trans hline) Bool.false_ne_true
    | pauses hecho' _ hsleep' =>
      obtain rfl := (EStateM.Result.ok.inj (hecho.symm.trans hecho')).2
      exact (EStateM.Result.ok.inj (hsleep.symm.trans hsleep')).2

/-- A wait is decided in one way. -/
theorem DecidedBy.unique {outcome outcome' : ReadinessOutcome} {ys : List Poll} {y : Poll}
    {r'' : LineReader} {s'' : Session σ} (h : w.DecidedBy pid deadline r s xs x outcome r' s')
    (h' : w.DecidedBy pid deadline r s ys y outcome' r'' s'') : outcome = outcome' := by
  obtain ⟨hx, r₁, s₁, s₂, hwaits, hpoll, -⟩ := h
  obtain ⟨hy, r₂, s₃, s₄, hwaits', hpoll', -⟩ := h'
  -- along the rounds that decide nothing, which are the same for both
  induction hwaits generalizing ys with
  | none r s =>
    cases hwaits' with
    | none _ _ =>
      obtain ⟨rfl, -, -⟩ := hpoll.unique hpoll'
      exact Option.some.inj (hx.symm.trans hy)
    | round hfirst hundecided _ _ =>
      obtain ⟨rfl, -, -⟩ := hpoll.unique hfirst
      exact absurd (hx.symm.trans hundecided) nofun
  | round hfirst hundecided hrest _ ih =>
    cases hwaits' with
    | none _ _ =>
      obtain ⟨rfl, -, -⟩ := hfirst.unique hpoll'
      exact absurd (hy.symm.trans hundecided) nofun
    | round hfirst' _ hrest' hwaits' =>
      obtain ⟨rfl, rfl, rfl⟩ := hfirst.unique hfirst'
      obtain rfl := hrest.unique hrest'
      exact ih hpoll hwaits'

/-! ### Waits that end -/

theorem asked_precedes (pid : Pid) (s : Session σ) : s.Precedes (asked pid s) := by
  unfold asked
  split
  · exact .refl s
  · exact .step s trivial

theorem Polls.precedes (h : Polls pid deadline r s x r' s') : s.Precedes s' := by
  cases h with
  | unread _ => exact .refl s
  | read _ _ hline =>
    have hread := (Reading.within_covers (A := fun _ => True) (fun _ _ => trivial) pid).line
      (min readWindow (deadline - s.clock)) r (asked pid s)
    exact (asked_precedes pid s).trans (hread.of_ok hline)

theorem Rests.precedes (h : w.Rests deadline x s s') : s.Precedes s' := by
  cases h with
  | goesOn hecho _ => exact ((smooth_echo w _ s).of_ok hecho).1.precedes
  | pauses hecho _ hsleep =>
    have hslept (d : Millis) : (Task.sleep d : Task σ Unit).Within fun _ => True :=
      Task.within_sleep (fun _ _ => trivial) d
    exact ((smooth_echo w _ s).of_ok hecho).1.precedes.trans ((hslept _ _).of_ok hsleep)

theorem observe_ends (hreads : s.ReadsEnd pid) (deadline : Instant) (r : LineReader) :
    Ends (observe pid deadline r : Task σ _) s (fun _ _ => True) (fun e _ => e ≠ .exhausted) := by
  have hread {t : Session σ} (ht : s.Precedes t) :
      Ends (readLine pid (min readWindow (deadline - s.clock)) r : Task σ _) t
        (fun _ _ => True) (fun e _ => e ≠ .exhausted) := by
    refine ((Ends.self (Reading.line pid _ r : Task σ _) t).mono (fun _ _ h => h)
      fun e s' h => ?_).bind fun _ _ _ => trivial
    rintro rfl
    exact hreads t ht _ (Nat.min_le_left _ _) r s' h
  refine Task.ends_ask_bind ?_
  split
  · trivial
  · refine Task.ends_ask_bind ?_
    split
    · trivial
    · exact hread (.refl s)
    · exact Task.ends_emit_bind (hread (.step s (a := .note .statusUnknown) trivial))

/-- A wait ends if its clock is at the deadline after so many rounds that decide nothing. -/
theorem rounds_ends (w : Watch) {n fuel : Nat} (hn : n < fuel) (hreads : s.ReadsEnd pid)
    (hlate : ∀ xs r' s', w.Waits pid deadline r s xs r' s' → xs.length = n → deadline ≤ s'.clock) :
    Ends (w.rounds pid deadline fuel r : Task σ _) s (fun _ _ => True)
      (fun e _ => e ≠ .exhausted) := by
  -- each round that decides nothing takes one from the number and from the fuel
  induction n generalizing r s fuel with
  | zero =>
    obtain ⟨fuel, rfl⟩ : ∃ k, fuel = k + 1 := ⟨fuel - 1, by omega⟩
    have hnow : deadline ≤ s.clock := hlate [] r s (.none r s) rfl
    exact (rounds_late w pid fuel hnow).mono (fun _ _ _ => trivial) fun _ _ h => h.elim
  | succ n ih =>
    obtain ⟨fuel, rfl⟩ : ∃ k, fuel = k + 1 := ⟨fuel - 1, by omega⟩
    have hsleep (d : Millis) (t : Session σ) : Ends (Task.sleep d : Task σ Unit) t
        (fun _ _ => True) (fun e _ => e ≠ .exhausted) :=
      ((Task.steady_sleep d).halts (.self _ t)).mono (fun _ _ _ => trivial) fun e _ he => by
        rw [he.1]
        exact nofun
    refine rounds_polls (observe_ends hreads deadline r) hsleep (fun _ _ _ _ _ _ _ _ => trivial) ?_
    intro x r₁ s₁ t hpoll hundecided hrest
    have hpassed : s.Precedes t := hpoll.precedes.trans hrest.precedes
    refine ih (by omega) (fun u hu => hreads u (hpassed.trans hu)) fun xs r' s' hwaits hlength => ?_
    refine hlate (x :: xs) r' s' (.round hpoll hundecided hrest hwaits) ?_
    rw [List.length_cons, hlength]

theorem Polls.observe_eq (h : Polls pid deadline r s x r' s') :
    (observe pid deadline r : Task σ _) s = .ok (r', x.observation deadline) s' := by
  have hclock : (Task.ask Host.now : Task σ _) s = .ok s.clock s := rfl
  have hask : (Task.ask (Host.exitStatus? pid) : Task σ _) s =
      .ok (Host.exitStatus? pid s.host) s := rfl
  cases h with
  | unread h =>
    by_cases hlate : deadline ≤ s.clock
    · rw [Poll.observation_late hlate]
      simp only [observe, Bind.bind, EStateM.bind, hclock, if_pos hlate]
      rfl
    · obtain ⟨status, hstatus⟩ := h.resolve_left hlate
      rw [Poll.observation_ended (Nat.lt_of_not_le hlate) hstatus]
      simp only [observe, Bind.bind, EStateM.bind, hclock, if_neg hlate, hask, hstatus]
      rfl
  | @read line _ _ hearly halive hline =>
    rw [Poll.observation_read hearly halive]
    simp only [observe, Bind.bind, EStateM.bind, hclock, if_neg (Nat.not_le_of_lt hearly), hask]
    unfold asked at hline
    match hstatus : Host.exitStatus? pid s.host with
    | .ok (some status) => exact absurd hstatus (halive status)
    | .ok none =>
      rw [hstatus] at hline
      simp only [readLine, Pure.pure, EStateM.pure, Bind.bind, EStateM.bind, hline]
    | .error e =>
      rw [hstatus] at hline
      have hnoted : (Task.emit .statusUnknown : Task σ Unit) s =
          .ok () ((Action.note .statusUnknown).apply s) := rfl
      simp only [readLine, Pure.pure, EStateM.pure, Bind.bind, EStateM.bind, hnoted, hline]

/-- A round that decides nothing leaves the wait to the next one. -/
theorem rounds_succ_eq (hpoll : Polls pid deadline r s x r₁ s₁)
    (hundecided : x.verdict w.marker deadline = none) (hrest : w.Rests deadline x s₁ t)
    (fuel : Nat) :
    (w.rounds pid deadline (fuel + 1) r : Task σ _) s = w.rounds pid deadline fuel r₁ t := by
  have hobserve := hpoll.observe_eq
  have hverdict := (Poll.verdict_observation w.marker deadline x).trans hundecided
  cases hrest with
  | goesOn hecho hpauses =>
    simp only [rounds, Bind.bind, EStateM.bind, hobserve, hecho, hverdict, hpauses]
    rfl
  | pauses hecho hpauses hsleep =>
    have hclock (t : Session σ) : (Task.ask Host.now : Task σ _) t = .ok t.clock t := rfl
    simp only [rounds, Bind.bind, EStateM.bind, hobserve, hecho, hverdict, hpauses, if_true, hclock,
      hsleep]

/-- Rounds that decide nothing are gone through one by one. -/
theorem Waits.rounds_eq (h : w.Waits pid deadline r s xs r' s') :
    (w.rounds pid deadline xs.length r : Task σ _) s = .error .exhausted s' := by
  -- the fuel is just enough for these rounds
  induction h with
  | none r s => rfl
  | round hpoll hundecided hrest _ ih => exact (rounds_succ_eq hpoll hundecided hrest _).trans ih

/-! ### The lines that are read -/

section Lines

variable {unread : Stream → σ → Bytes}

theorem Polls.yields (hd : Host.Delivers pid unread) (hr : r.Agrees unread s.host)
    (hs : s.Leaves pid) (h : Polls pid deadline r s x r' s') :
    Reading.Yields unread pid r s x.line.toList r' s' := by
  cases h with
  | unread _ => exact .of_reaches hd hr hs (.refl s)
  | read _ _ hline =>
    have hasked : s.Reaches (Action.leavesOutput pid) (asked pid s) := by
      unfold asked
      split
      · exact .refl s
      · exact .step s trivial
    have hhere : Reading.Yields unread pid r s [] r (asked pid s) := .of_reaches hd hr hs hasked
    exact hhere.trans ((Reading.line_yields hd _ hhere.agrees hhere.leaves).of_ok hline)

theorem Rests.yields (hd : Host.Delivers pid unread) (hr : r.Agrees unread s.host)
    (hs : s.Leaves pid) (h : w.Rests deadline x s s') :
    Reading.Yields unread pid r s [] r s' := by
  cases h with
  | goesOn hecho _ => exact .of_reaches hd hr hs ((w.echo_shows pid _ s).of_ok hecho).1
  | @pauses t _ hecho _ hsleep =>
    have hechoed : s.Reaches (Action.leavesOutput pid) t := ((w.echo_shows pid _ s).of_ok hecho).1
    have hslept : Ends (Task.sleep (min w.pollInterval (deadline - t.clock)) : Task σ Unit) t
        (fun _ s' => t.Reaches (Action.leavesOutput pid) s') (fun _ _ => True) :=
      Task.ends_ask_bind (Task.await_leaves (hs.reaches hechoed) _ _).forget
    exact .of_reaches hd hr hs (hechoed.trans (hslept.of_ok hsleep))

theorem Waits.yields (hd : Host.Delivers pid unread) (h : w.Waits pid deadline r s xs r' s')
    (hr : r.Agrees unread s.host) (hs : s.Leaves pid) :
    Reading.Yields unread pid r s (xs.flatMap (·.line.toList)) r' s' := by
  induction h with
  | none r s => exact .of_reaches hd hr hs (.refl s)
  | round hpoll _ hrest _ ih =>
    have hread := hpoll.yields hd hr hs
    have hrested := hrest.yields hd hread.agrees hread.leaves
    have hround := hread.trans hrested
    rw [List.append_nil] at hround
    exact hround.trans (ih hround.agrees hround.leaves)

/-- Each line that a wait reads is one of the lines of one of the streams. -/
theorem DecidedBy.line_ahead {outcome : ReadinessOutcome} (hd : Host.Delivers pid unread)
    (h : w.DecidedBy pid deadline r s xs x outcome r' s') (hr : r.Agrees unread s.host)
    (hs : s.Leaves pid) {y : Poll} (hy : y ∈ xs ++ [x]) {line : Bytes} (hline : y.line = some line) :
    ∃ stream, line ∈ r.ahead unread s.host stream := by
  obtain ⟨r₁, s₁, s₂, hwaits, hpoll, -⟩ := h.rounds
  have hwaited := hwaits.yields hd hr hs
  obtain ⟨l, hl, hgives, -⟩ := hwaited.trans (hpoll.yields hd hwaited.agrees hwaited.leaves)
  have hmem : line ∈ l.map (·.2) := by
    have hlines : xs.flatMap (·.line.toList) ++ x.line.toList =
        (xs ++ [x]).flatMap (·.line.toList) := by
      simp
    rw [hl, hlines]
    exact List.mem_flatMap.mpr ⟨y, hy, by simp [hline]⟩
  obtain ⟨⟨stream, bytes⟩, hin, rfl⟩ := List.mem_map.mp hmem
  refine ⟨stream, ?_⟩
  rw [hgives.ahead stream]
  refine List.mem_append_left _ (List.mem_map.mpr ⟨_, ?_, rfl⟩)
  exact List.mem_filter.mpr ⟨hin, decide_eq_true rfl⟩

end Lines

/-! ### The outcome -/

/-- Where the clock can represent the deadline, a wait is its rounds. -/
theorem run_ends {Q : LineReader × ReadinessOutcome → Session σ → Prop}
    {E : Halt → Session σ → Prop} (hclock : s.clock + w.timeout < clockLimit)
    (h : Ends (w.rounds pid (s.clock + w.timeout) (Host.patience s.host) r : Task σ _) s Q E) :
    Ends (w.run pid r) s Q E := by
  refine ((w.deadline_ends s).mono (fun _ _ h => h) fun _ _ h =>
    absurd h.2.2 (Nat.not_le_of_lt hclock)).bind fun d s₁ ⟨hs₁, hd, _⟩ => ?_
  subst hd hs₁
  exact Task.ends_ask_bind h

/-- The first round that decides gives the outcome of a wait.

A round decides that the time is up if its clock is at the deadline; else that the child has ended,
with its status, if it is known to have; else that the child is ready, if a line has been read that
can be decoded and holds the marker in one piece. The rounds before it decide nothing, and after it
nothing is read. What is read in a round is one line of one stream. Where the clock comes to the
deadline after some number of rounds that decide nothing, the rounds come to an end, however many
more of them are allowed, and the wait has an outcome unless it is interrupted. -/
theorem first_decisive_round_gives_outcome (w : Watch) (pid : Pid) (r : LineReader)
    (s : Session σ) :
    (∀ r' outcome s', w.run pid r s = .ok (r', outcome) s' →
        ∃ xs x, w.DecidedBy pid (s.clock + w.timeout) r s xs x outcome r' s' ∧
          ∀ unread : Stream → σ → Bytes, Host.Delivers pid unread → r.Agrees unread s.host →
            s.Leaves pid → ∀ y ∈ xs ++ [x], ∀ line, y.line = some line →
              ∃ stream, line ∈ r.ahead unread s.host stream) ∧
      (s.ReadsEnd pid → ∀ n,
        (∀ xs r' s', w.Waits pid (s.clock + w.timeout) r s xs r' s' → xs.length = n →
          s.clock + w.timeout ≤ s'.clock) →
        (∀ fuel, n < fuel → Ends (w.rounds pid (s.clock + w.timeout) fuel r : Task σ _) s
          (fun _ _ => True) (fun e _ => e = .interrupted ∧ s.interruptible = true)) ∧
        (s.clock + w.timeout < clockLimit → n < Host.patience s.host →
          Ends (w.run pid r) s (fun _ _ => True)
            (fun e _ => e = .interrupted ∧ s.interruptible = true))) := by
  constructor
  · intro r' outcome s' hrun
    have hdecided : Ends (w.run pid r) s
        (fun y s' => ∃ xs x, w.DecidedBy pid (s.clock + w.timeout) r s xs x y.2 y.1 s')
        (fun _ _ => True) := by
      refine (w.deadline_ends s).forget.bind fun d s₁ ⟨hs₁, hd, _⟩ => ?_
      subst hd hs₁
      exact Task.ends_ask_bind (rounds_decided w pid _ _ r s₁)
    obtain ⟨xs, x, h⟩ := hdecided.of_ok hrun
    exact ⟨xs, x, h, fun unread hd hr hs y hy line hline => h.line_ahead hd hr hs hy hline⟩
  · intro hreads n hlate
    have hends (fuel : Nat) (hn : n < fuel) :
        Ends (w.rounds pid (s.clock + w.timeout) fuel r : Task σ _) s (fun _ _ => True)
          (fun e _ => e = .interrupted ∧ s.interruptible = true) := by
      refine ((rounds_ends w hn hreads hlate).and
        ((lasting_covers pid).rounds w (s.clock + w.timeout) fuel r s)).mono (fun _ _ _ => trivial)
        fun _ _ h => h.2.resolve_right h.1
    exact ⟨hends, fun hclock hn => run_ends hclock (hends _ hn)⟩

end Watch

namespace Simulation.Script

theorem ticks : Host.Ticks Script child where
  clock a c := by
    cases a with
    | await w limit cut =>
      cases w with
      | output pid => exact Nat.le_max_left _ _
      | nothing | exit pid => exact Nat.le_max_left _ _
    | capture _ _ => exact Nat.le_refl _
    | look pid stream => exact Nat.le_of_eq (look_keeps pid stream c).1.symm
    | _ => exact Nat.le_refl _
  patience := punctual.patience
  waits _ _ _ hlimit := clock_lt_await hlimit child

/-- The announcement is found in some round. -/
theorem stuttering_ready : Ends ((watching 100).run child (.ofStreams true true)) stuttering
    (fun y _ => y.2 = .ready) (fun _ _ => False) := by
  decide +kernel

/-- Twenty rounds that decided nothing would go past the deadline. -/
theorem stuttering_late : Ends ((watching 100).rounds child 600 20 (.ofStreams true true)) stuttering
    (fun _ _ => True) (fun _ s' => 600 ≤ s'.clock) := by
  decide +kernel

end Simulation.Script

namespace Watch

open Simulation (Script)

/-- The marker comes in a line of its own, after a line that cannot be decoded and decides
nothing. -/
theorem first_decisive_round_gives_outcome_on_script : ∃ r' s' xs x,
    (Script.watching 100).run Script.child (.ofStreams true true) Script.stuttering =
      .ok (r', .ready) s' ∧
    (Script.watching 100).DecidedBy Script.child 600 (.ofStreams true true) Script.stuttering xs x
      .ready r' s' ∧
    ∃ line, x.line = some line ∧ HoldsMarker "Server2 listening on" line ∧
      ∃ stream, line ∈ splitLines .byte (Script.unread stream Script.stuttering.host) := by
  have h := first_decisive_round_gives_outcome (Script.watching 100) Script.child
    (.ofStreams true true) Script.stuttering
  have hreads : Script.stuttering.ReadsEnd Script.child := Script.ticks.readsEnd (by decide)
  have hlate : ∀ xs r' s', (Script.watching 100).Waits Script.child 600 (.ofStreams true true)
      Script.stuttering xs r' s' → xs.length = 20 → 600 ≤ s'.clock := by
    intro xs r' s' hwaits hlength
    have hrounds := hwaits.rounds_eq
    rw [hlength] at hrounds
    exact Script.stuttering_late.of_error hrounds
  have hends := (h.2 hreads 20 hlate).2 (by decide +kernel) (by decide)
  obtain ⟨⟨r', outcome⟩, s', hrun, -⟩ :=
    (hends.mono (fun _ _ h => h) fun _ _ h => show False from nomatch h.2).exists_ok
  obtain rfl : outcome = .ready := Script.stuttering_ready.of_ok hrun
  obtain ⟨xs, x, hdecided, hlines⟩ := h.1 r' .ready s' hrun
  obtain ⟨-, -, line, hline, hholds⟩ := Poll.verdict_ready hdecided.decided
  have hin : x ∈ xs ++ [x] := List.mem_append_right xs (List.mem_singleton_self x)
  obtain ⟨stream, hahead⟩ := hlines Script.unread Script.delivers
    (LineReader.agrees_ofStreams Script.stuttering.host) nofun x hin line hline
  rw [LineReader.ahead_ofStreams] at hahead
  exact ⟨r', s', xs, x, hrun, hdecided, line, hline, hholds, stream, hahead⟩

end Watch

end LatencyHarness
