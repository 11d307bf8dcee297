import LatencyHarness.Proofs.Expectation
import LatencyHarness.Proofs.Script

/-! The marker of a service that is alive.

Once the line with the marker is complete, the wait for it does nothing but read, apart from the
pauses after lines that cannot be decoded and after the end of the other stream. So the marker is
found unless these pauses fill the time that is left. -/
namespace LatencyHarness

open Text (LineBreak splitLines)
open Text.Utf8 (Bytes)

variable {σ : Type} [Host σ]

namespace Observation

/-- Whether a round has read a line that could not be decoded, as a number. -/
def garbled : Observation → Nat
  | read (some bytes) => if (Text.Utf8.decode bytes).isOk then 0 else 1
  | _ => 0

theorem verdict_read (marker : List Char) (bytes : Option Bytes) :
    (read bytes).verdict marker = none ∨ (read bytes).verdict marker = some .ready := by
  unfold verdict
  cases bytes with
  | none => exact .inl rfl
  | some bytes =>
    dsimp only
    split
    · split
      · exact .inr rfl
      · exact .inl rfl
    · exact .inl rfl

end Observation

namespace Expectation

variable {x : Expectation σ} {time time' : Nat} {r r' : LineReader} {s s' : Session σ}

omit [Host σ] in
theorem Awaits.weight_pos (h : x.Awaits time r s) : 0 < r.weight x.unread s.host := by
  have hahead : 0 < (r.ahead x.unread s.host x.stream).length :=
    List.length_pos_of_ne_nil h.ahead_ne_nil
  rw [LineReader.weight_eq x.stream]
  unfold Channel.weight
  change 0 < (r.ahead x.unread s.host x.stream).length + _ + _
  omega

variable (hp : Host.IsPunctual x.pid x.unread x.arrived)

include hp

theorem Awaits.later (h : x.Awaits time r s) (htime : time ≤ time') : x.Awaits time' r s := by
  obtain ⟨i, hi, hline⟩ := h.coming
  refine ⟨h.leaves, h.calm, h.agrees, i, Nat.lt_of_lt_of_le hi ?_, hline⟩
  exact (hp.grows x.stream time time' s.host htime).sublist.count_le _

theorem sleep_goes (h : x.Awaits time r s) (d : Millis) :
    Ends (Task.sleep d : Task σ Unit) s
      (fun _ s' => x.Goes time r s none r s' ∧ s'.clock = s.clock + d) (fun _ _ => False) := by
  refine Task.ends_ask_bind ?_
  refine (Task.await_idles hp h.leaves h.calm _ _).mono (fun _ s' ⟨hidle, hclock⟩ => ?_)
    fun _ _ h => h
  rw [hp.sleeps] at hclock
  exact ⟨h.goes_of_idle hp hidle, hclock.trans (Nat.max_eq_right (Nat.le_add_right _ d))⟩

end Expectation

namespace Watch

variable {x : Expectation σ} {time deadline : Nat} {r r' : LineReader} {s s' : Session σ}

/-- Pauses fill the time up to the deadline: some session on the way is at a time or no more than one
pause after it, and from there to the deadline there is no more than one pause for each line that
could not be decoded since, and one for the end of the other stream, unless that is still open. -/
def PausesFill (w : Watch) (deadline time : Nat) (other : Stream) (s : Session σ) (r' : LineReader)
    (s' : Session σ) : Prop :=
  ∃ t n k, s.Precedes t ∧ t.Precedes s' ∧ time ≤ t.clock ∧ t.clock ≤ time + w.pollInterval ∧
    s'.journal.garbled = t.journal.garbled + n ∧ r'.closable other + k ≤ 1 ∧
    deadline ≤ t.clock + w.pollInterval * (n + k)

/-- A round that has not found the line, from one reader and session to the other. It gives something
or takes time; once the line is complete, time is taken only by pauses after lines that cannot be
decoded and after the end of the other stream. -/
structure Turns (w : Watch) (x : Expectation σ) (time : Nat) (r : LineReader) (s : Session σ)
    (r' : LineReader) (s' : Session σ) : Prop where
  awaits : x.Awaits time r' s'
  precedes : s.Precedes s'
  patience : Host.patience s'.host = Host.patience s.host
  clock_le : s.clock ≤ s'.clock
  clock_le_add : s'.clock ≤ time + w.pollInterval
  weight_le : r'.weight x.unread s'.host ≤ r.weight x.unread s.host
  moves : r'.weight x.unread s'.host < r.weight x.unread s.host ∨
    s.clock < s'.clock ∧ s.clock < time
  pauses : ∃ n k, s'.journal.garbled = s.journal.garbled + n ∧
    r'.closable x.stream.other + k ≤ r.closable x.stream.other ∧
    (s.clock = time → s'.clock ≤ s.clock + w.pollInterval * (n + k))

theorem one_le_of_pauses {e : Option ReadEvent} (hpauses : pauses (.read (e.bind ReadEvent.line?)))
    (hsome : e ≠ none) (hnotAll : e ≠ some .allClosed) :
    1 ≤ (Observation.read (e.bind ReadEvent.line?)).garbled +
      if e = some .streamClosed then 1 else 0 := by
  match e with
  | none => exact absurd rfl hsome
  | some .allClosed => exact absurd rfl hnotAll
  | some .streamClosed => exact Nat.le_refl _
  | some (.line bytes) =>
    change (!(Text.Utf8.decode bytes).isOk) = true at hpauses
    change 1 ≤ (if (Text.Utf8.decode bytes).isOk then 0 else 1) + 0
    rw [Bool.not_eq_true'] at hpauses
    rw [hpauses]
    exact Nat.le_refl _

/-- What a round has found out: the line, or something else, which may be that there was nothing for
some time. -/
def Observes (x : Expectation σ) (time : Nat) (r : LineReader) (s : Session σ) (o : Observation)
    (r' : LineReader) (s' : Session σ) : Prop :=
  o = .read (some x.line) ∨ ∃ e, o = .read (e.bind ReadEvent.line?) ∧ x.Goes time r s e r' s' ∧
    s.clock ≤ s'.clock ∧ s'.clock ≤ time ∧ (e = none → s.clock < s'.clock)

/-- While a round tells of what it has found out, the line is still to be read; `n` counts what could
not be decoded. -/
structure Tells (x : Expectation σ) (time : Nat) (r : LineReader) (s : Session σ) (n : Nat)
    (s' : Session σ) : Prop where
  awaits : x.Awaits time r s'
  weight : r.weight x.unread s'.host = r.weight x.unread s.host
  precedes : s.Precedes s'
  clock : s'.clock = s.clock
  patience : Host.patience s'.host = Host.patience s.host
  garbled : s'.journal.garbled = s.journal.garbled + n

/-- A round up to its pause, with what the attempt to read has given. -/
structure Hears (x : Expectation σ) (time : Nat) (r : LineReader) (s : Session σ)
    (e : Option ReadEvent) (r' : LineReader) (s' : Session σ) : Prop where
  awaits : x.Awaits time r' s'
  precedes : s.Precedes s'
  patience : Host.patience s'.host = Host.patience s.host
  clock_le : s.clock ≤ s'.clock
  clock_le_time : s'.clock ≤ time
  waited : e = none → s.clock < s'.clock
  garbled : s'.journal.garbled =
    s.journal.garbled + (Observation.read (e.bind ReadEvent.line?)).garbled
  weight : r'.weight x.unread s'.host + (if e.isSome then 1 else 0) ≤ r.weight x.unread s.host
  closable : r'.closable x.stream.other + (if e = some .streamClosed then 1 else 0) ≤
    r.closable x.stream.other
  notAll : e ≠ some .allClosed

variable (hp : Host.IsPunctual x.pid x.unread x.arrived)

include hp

theorem Hears.turns {w : Watch} {e : Option ReadEvent} {d : Nat} {s₁ : Session σ}
    (h : Hears x time r s e r' s₁) (hgoes : x.Goes time r' s₁ none r' s')
    (hclock : s'.clock = s₁.clock + d) (hd : d ≤ w.pollInterval)
    (hpauses : pauses (.read (e.bind ReadEvent.line?)) = false → d = 0) :
    w.Turns x time r s r' s' := by
  have hsame := hgoes.reaches.same hp
  have hfirst := h.clock_le
  have hsecond := h.clock_le_time
  have hweight : r'.weight x.unread s'.host ≤ r'.weight x.unread s₁.host := hgoes.weight
  have hread := h.weight
  refine ⟨hgoes.awaits hp h.awaits, h.precedes.trans hgoes.reaches.precedes,
    hsame.patience.trans h.patience, by omega, ?_, by omega, ?_, _, _,
    hsame.garbled.trans h.garbled, h.closable, fun htime => ?_⟩
  · exact hclock ▸ Nat.add_le_add hsecond hd
  · cases e with
    | some e =>
      rw [Option.isSome_some, if_pos rfl] at hread
      exact .inl (by omega)
    | none =>
      have hwaited := h.waited rfl
      exact .inr ⟨by omega, by omega⟩
  · -- the line is complete, so the attempt has given something at once
    have hsome : e ≠ none := by
      intro he
      have hwaited := h.waited he
      omega
    have hnow : s₁.clock = s.clock := by omega
    rw [hclock, hnow]
    cases hpause : pauses (.read (e.bind ReadEvent.line?)) with
    | false =>
      rw [hpauses hpause]
      exact Nat.le_add_right _ _
    | true =>
      have hone := one_le_of_pauses hpause hsome h.notAll
      exact Nat.add_le_add_left (hd.trans (Nat.le_mul_of_pos_right _ hone)) _

theorem observe_goes (h : x.Awaits time r s) (htime : s.clock ≤ time) (hearly : s.clock < deadline)
    (hpatience : readWindow < Host.patience s.host) :
    Ends (observe x.pid deadline r : Task σ _) s
      (fun y s' => Observes x time r s y.2 y.1 s') (fun _ _ => False) := by
  have hread {u : Session σ} (hgoes : x.Goes time r s none r u) (hclock : u.clock = s.clock) :
      Ends (readLine x.pid (min readWindow (deadline - s.clock)) r : Task σ _) u
        (fun y s' => Observes x time r s y.2 y.1 s') (fun _ _ => False) := by
    have hwindow : 0 < min readWindow (deadline - s.clock) :=
      Nat.lt_min.mpr ⟨by decide, Nat.sub_pos_of_lt hearly⟩
    have hwait : min readWindow (deadline - s.clock) < Host.patience u.host := by
      rw [(hgoes.reaches.same hp).patience]
      exact Nat.lt_of_le_of_lt (Nat.min_le_left _ _) hpatience
    have hline := Expectation.line_goes hp (hgoes.awaits hp h) (hclock ▸ htime) hwait
    refine hline.bind fun (r', bytes) s' hend => ?_
    rcases hend with hline | ⟨e, hbytes, hgoes', hle, hle', hnone⟩
    · exact .inl (congrArg Observation.read hline)
    · refine .inr ⟨e, congrArg Observation.read hbytes, hgoes.trans hgoes', ?_, hle', fun he => ?_⟩
      · omega
      · calc s.clock = u.clock := hclock.symm
          _ < u.clock + min readWindow (deadline - s.clock) := Nat.lt_add_of_pos_right hwindow
          _ ≤ s'.clock := hnone he
  refine Task.ends_ask_bind ?_
  change Ends (if deadline ≤ s.clock then _ else _) s _ _
  rw [if_neg (Nat.not_le_of_lt hearly)]
  refine Task.ends_ask_bind ?_
  split
  · next status hstatus => exact absurd hstatus (hp.alive s.host status)
  · exact hread h.toGoes rfl
  · refine Task.ends_emit_bind (hread (h.goes_of_idle hp (.step s (a := .note .statusUnknown) ?_)) ?_)
    · exact ⟨⟨rfl, nofun⟩, trivial⟩
    · exact hp.instant (.note .statusUnknown) s.host rfl

theorem tells_note (h : x.Awaits time r s) (e : Event) :
    Tells x time r s (if e = .undecodableLine then 1 else 0) ((Action.note e).apply s) := by
  have hreach : s.Reaches (Action.leavesOutput x.pid) ((Action.note e).apply s) := .step s trivial
  have hunread := hp.toDelivers.unread_eq hreach
  have hagrees := (LineReader.Gives.of_eq h.agrees hunread).agrees
  refine ⟨⟨h.leaves, h.calm, hagrees, ?_⟩, ?_, hreach.precedes, hp.instant (.note e) s.host rfl,
    hp.patience (.note e) s.host, Journal.garbled_cons e s.journal⟩
  · rw [hp.arrived_eq hreach, hunread]
    exact h.coming
  · unfold LineReader.weight
    rw [hunread, hunread]

theorem echo_tells (w : Watch) (h : x.Awaits time r s) (o : Observation) :
    Ends (w.echo o : Task σ Unit) s (fun _ s' => Tells x time r s o.garbled s')
      (fun _ _ => False) := by
  match o with
  | .late | .dead _ | .read none => exact Tells.mk h rfl (.refl s) rfl rfl rfl
  | .read (some bytes) =>
    unfold echo Observation.garbled
    dsimp only
    split
    · next line hline =>
      rw [hline]
      exact tells_note hp h (.line (Task.echoText w.label (Text.trimEnd line)))
    · next hline =>
      rw [hline]
      exact tells_note hp h .undecodableLine

/-- A round before the deadline finds the line, or another one, or it is followed by the others. -/
theorem rounds_succ (w : Watch) {fuel : Nat} {Q : LineReader × ReadinessOutcome → Session σ → Prop}
    {E : Halt → Session σ → Prop}
    (hmarker : (Observation.read (some x.line)).verdict w.marker.toList = some .ready)
    (h : x.Awaits time r s) (htime : s.clock ≤ time) (hearly : s.clock < deadline)
    (hpatience : readWindow < Host.patience s.host) (hready : ∀ r' s', Q (r', .ready) s')
    (hnext : ∀ r' s', w.Turns x time r s r' s' →
      Ends (w.rounds x.pid deadline fuel r' : Task σ _) s' Q E) :
    Ends (w.rounds x.pid deadline (fuel + 1) r : Task σ _) s Q E := by
  refine (Ends.of_total (observe_goes hp h htime hearly hpatience)).bind fun (r', o) s₁ hread => ?_
  rcases hread with hline | ⟨e, ho, hgoes, hle, hle', hnone⟩
  · -- the line that is expected decides
    refine (Ends.of_total (smooth_echo w o s₁)).bind fun _ s₂ _ => ?_
    obtain rfl : o = .read (some x.line) := hline
    simp only [hmarker]
    exact hready r' s₂
  · obtain rfl : o = .read (e.bind ReadEvent.line?) := ho
    refine (Ends.of_total (echo_tells hp w (hgoes.awaits hp h) _)).bind fun _ s₂ htells => ?_
    rcases Observation.verdict_read w.marker.toList (e.bind ReadEvent.line?) with hv | hv
    · have hhears : Hears x time r s e r' s₂ := by
        have hsame := hgoes.reaches.same hp
        have hclock := htells.clock
        refine ⟨htells.awaits, hgoes.reaches.precedes.trans htells.precedes,
          htells.patience.trans hsame.patience, hclock ▸ hle, hclock ▸ hle',
          fun he => hclock ▸ hnone he, ?_, ?_, hgoes.closable, hgoes.notAll⟩
        · rw [htells.garbled, hsame.garbled]
        · rw [htells.weight]
          exact hgoes.weight
      simp only [hv]
      split
      · next hpauses =>
        refine Task.ends_ask_bind ?_
        have hsleep := Expectation.sleep_goes hp htells.awaits
        refine (Ends.of_total (hsleep _)).bind fun _ s₃ ⟨hgoes₃, hclock₃⟩ => ?_
        refine hnext r' s₃ (hhears.turns hp hgoes₃ hclock₃ (Nat.min_le_left _ _) fun hfalse => ?_)
        exact absurd (hfalse.symm.trans hpauses) Bool.false_ne_true
      · exact hnext r' s₂ (hhears.turns hp htells.awaits.toGoes rfl (Nat.zero_le _) fun _ => rfl)
    · -- another line holds the marker as well
      simp only [hv]
      exact hready r' s₂

omit hp in
theorem rounds_late (w : Watch) (pid : Pid) (fuel : Nat) (hlate : deadline ≤ s.clock) :
    Ends (w.rounds pid deadline (fuel + 1) r : Task σ _) s
      (fun y s' => y = (r, .timedOut) ∧ s' = s) (fun _ _ => False) := by
  have hobserve : Ends (observe pid deadline r : Task σ _) s
      (fun y s' => y = (r, .late) ∧ s' = s) (fun _ _ => False) := by
    refine Task.ends_ask_bind ?_
    change Ends (if deadline ≤ s.clock then _ else _) s _ _
    rw [if_pos hlate]
    exact And.intro rfl rfl
  refine hobserve.bind fun y s₁ ⟨hy, hs₁⟩ => ?_
  subst hy hs₁
  exact And.intro rfl rfl

/-- Once the line is complete, a wait that does not find it has been filled by pauses. -/
theorem rounds_of_complete (w : Watch) (deadline fuel : Nat)
    (hmarker : (Observation.read (some x.line)).verdict w.marker.toList = some .ready)
    (h : x.Awaits time r s) (htime : time ≤ s.clock) (hfuel : r.weight x.unread s.host ≤ fuel)
    (hpatience : readWindow < Host.patience s.host) :
    Ends (w.rounds x.pid deadline fuel r : Task σ _) s
      (fun y s' => y.2 = .ready ∨ y.2 = .timedOut ∧ ∃ n k,
        s'.journal.garbled = s.journal.garbled + n ∧
          y.1.closable x.stream.other + k ≤ r.closable x.stream.other ∧
          deadline ≤ s.clock + w.pollInterval * (n + k))
      (fun _ _ => False) := by
  -- each round takes one from what may still be given before the line
  induction fuel generalizing r s time with
  | zero => exact absurd h.weight_pos (Nat.not_lt_of_le hfuel)
  | succ fuel ih =>
    by_cases hlate : deadline ≤ s.clock
    · refine (rounds_late w x.pid fuel hlate).mono (fun y s' ⟨hy, hs'⟩ => ?_) fun _ _ h => h
      subst hy hs'
      exact .inr ⟨rfl, 0, 0, rfl, Nat.le_refl _, hlate⟩
    · have hnow := h.later hp htime
      have hearly : s.clock < deadline := Nat.lt_of_not_le hlate
      refine rounds_succ hp w hmarker hnow (Nat.le_refl _) hearly hpatience (fun _ _ => .inl rfl) ?_
      intro r₁ s₁ hturns
      obtain ⟨n, k, hgarbled, hclosable, hclock⟩ := hturns.pauses
      have hless : r₁.weight x.unread s₁.host < r.weight x.unread s.host :=
        hturns.moves.resolve_right fun hmoves => absurd hmoves.2 (Nat.lt_irrefl _)
      have hrest := ih hturns.awaits hturns.clock_le (by omega) (hturns.patience ▸ hpatience)
      refine hrest.mono (fun y s' hend => ?_) fun _ _ h => h
      refine hend.imp id fun ⟨hy, n', k', hgarbled', hclosable', hdeadline⟩ =>
        ⟨hy, n + n', k + k', ?_, by omega, ?_⟩
      · rw [hgarbled', hgarbled, Nat.add_assoc]
      · calc deadline ≤ s₁.clock + w.pollInterval * (n' + k') := hdeadline
          _ ≤ s.clock + w.pollInterval * (n + k) + w.pollInterval * (n' + k') :=
              Nat.add_le_add_right (hclock rfl) _
          _ = s.clock + w.pollInterval * (n + k + (n' + k')) := by
              rw [Nat.add_assoc, ← Nat.mul_add]
          _ = s.clock + w.pollInterval * (n + n' + (k + k')) := by
              rw [Nat.add_add_add_comm]

/-- No round goes far past the time at which the line is complete, so it is found or pauses fill the
time. -/
theorem rounds_complete (w : Watch) (fuel : Nat)
    (hmarker : (Observation.read (some x.line)).verdict w.marker.toList = some .ready)
    (h : x.Awaits time r s) (htime : s.clock ≤ time + w.pollInterval) (hdeadline : time < deadline)
    (hfuel : r.weight x.unread s.host + (deadline - s.clock) ≤ fuel)
    (hpatience : readWindow < Host.patience s.host) :
    Ends (w.rounds x.pid deadline fuel r : Task σ _) s
      (fun y s' => y.2 = .ready ∨
        y.2 = .timedOut ∧ w.PausesFill deadline time x.stream.other s y.1 s')
      (fun _ _ => False) := by
  have hprecedes (fuel : Nat) (r : LineReader) (s : Session σ) :
      Ends (w.rounds x.pid deadline fuel r : Task σ _) s (fun _ s' => s.Precedes s')
        (fun _ s' => s.Precedes s') :=
    (within_covers (A := fun _ => True) (fun _ _ => trivial) x.pid).rounds w deadline fuel r s
  -- until the line is complete each round takes some time or reads something
  induction fuel generalizing r s with
  | zero =>
    have hpos := h.weight_pos
    omega
  | succ fuel ih =>
    by_cases hcomplete : time ≤ s.clock
    · have hweight : r.weight x.unread s.host ≤ fuel + 1 := by omega
      have hrest := rounds_of_complete hp w deadline (fuel + 1) hmarker h hcomplete hweight
        hpatience
      refine (hrest.and (hprecedes (fuel + 1) r s)).mono (fun y s' ⟨hend, hs'⟩ => ?_)
        fun _ _ h => h.1
      have honce : r.closable x.stream.other ≤ 1 := by
        unfold LineReader.closable
        split
        · exact Nat.le_refl 1
        · exact Nat.zero_le 1
      refine hend.imp id fun ⟨hy, n, k, hgarbled, hclosable, hfilled⟩ => ?_
      exact ⟨hy, s, n, k, .refl s, hs', hcomplete, htime, hgarbled, hclosable.trans honce, hfilled⟩
    · have hearly : s.clock < time := Nat.lt_of_not_le hcomplete
      refine rounds_succ hp w hmarker h hearly.le (hearly.trans hdeadline) hpatience
        (fun _ _ => .inl rfl) fun r₁ s₁ hturns => ?_
      have hless : r₁.weight x.unread s₁.host + (deadline - s₁.clock) ≤ fuel := by
        have hclock := hturns.clock_le
        have hweight := hturns.weight_le
        rcases hturns.moves with hmoves | ⟨hlater, -⟩
        · omega
        · omega
      refine (ih hturns.awaits hturns.clock_le_add hless (hturns.patience ▸ hpatience)).mono
        (fun y s' hend => ?_) fun _ _ h => h
      refine hend.imp id fun ⟨hy, t, n, k, ht, hrest⟩ => ?_
      exact ⟨hy, t, n, k, hturns.precedes.trans ht, hrest⟩

omit hp

/-- The wait for the marker of a child that stays alive comes to its outcome. It finds the marker if
a line with it is complete at some time before the deadline, unless pauses fill the time from
there. -/
theorem marker_is_found_unless_pauses_fill_the_time {w : Watch} {pid : Pid}
    {unread : Stream → σ → Bytes} {arrived : Stream → Nat → σ → Bytes} {stream : Stream} {i : Nat}
    {line : Bytes} {text : List Char} (hp : Host.IsPunctual pid unread arrived)
    (hleaves : s.Leaves pid) (hcalm : s.interruptible = false)
    (hclock : s.clock + w.timeout < clockLimit)
    (hpatience : (splitLines .byte (unread .out s.host)).length +
      (splitLines .byte (unread .err s.host)).length + 2 + w.timeout + readWindow <
        Host.patience s.host)
    (hnow : s.clock ≤ time) (htime : time < s.clock + w.timeout)
    (harrived : i < (arrived stream time s.host).count LineBreak.byte.feed)
    (hline : (splitLines .byte (unread stream s.host))[i]? = some line)
    (htext : Text.Utf8.decode line = .ok text) (hmarker : Text.occursIn w.marker.toList text = true) :
    ∃ r' outcome s', w.run pid (.ofStreams true true) s = .ok (r', outcome) s' ∧
      (outcome = .ready ∨
        outcome = .timedOut ∧ w.PausesFill (s.clock + w.timeout) time stream.other s r' s') := by
  let x : Expectation σ := ⟨pid, unread, arrived, stream, line⟩
  have hawaits : x.Awaits time (.ofStreams true true) s := by
    refine ⟨hleaves, hcalm, LineReader.agrees_ofStreams s.host, i, harrived, ?_⟩
    change ((LineReader.ofStreams true true).ahead unread s.host stream)[i]? = some line
    rw [LineReader.ahead_ofStreams]
    exact hline
  have hverdict : (Observation.read (some x.line)).verdict w.marker.toList = some .ready := by
    simp only [Observation.verdict, x, htext, hmarker, if_true]
  have hfuel : (LineReader.ofStreams true true).weight unread s.host +
      (s.clock + w.timeout - s.clock) ≤ Host.patience s.host := by
    rw [LineReader.weight_ofStreams, Nat.add_sub_cancel_left]
    omega
  have hwindow : readWindow < Host.patience s.host :=
    Nat.lt_of_le_of_lt (Nat.le_add_left _ _) hpatience
  have hrun : Ends (w.run pid (.ofStreams true true) : Task σ _) s
      (fun y s' => y.2 = .ready ∨
        y.2 = .timedOut ∧ w.PausesFill (s.clock + w.timeout) time stream.other s y.1 s')
      (fun _ _ => False) := by
    -- the clock can represent the deadline
    refine ((w.deadline_ends s).mono (fun _ _ h => h) fun _ _ h =>
      absurd h.2.2 (Nat.not_le_of_lt hclock)).bind fun d s₁ ⟨hs₁, hd, _⟩ => ?_
    subst hd hs₁
    exact Task.ends_ask_bind (rounds_complete hp w _ hverdict hawaits
      (Nat.le_add_right_of_le hnow) htime hfuel hwindow)
  obtain ⟨⟨r', outcome⟩, s', hok, hend⟩ := hrun.exists_ok
  exact ⟨r', outcome, s', hok, hend⟩

end Watch

namespace Simulation.Script

/-- The line by which a service announces that it is ready. -/
def announcement : Bytes := Text.Utf8.encode "Server2 listening on 3004".toList

/-- A service that writes these pieces and goes on. -/
def serving (pieces : List (Instant × Bytes)) : Session Script :=
  Session.start ⟨0, 700, pieces, [], false, []⟩ .absent

def watching (pollInterval : Millis) : Watch :=
  ⟨"Server2", "Server2 listening on", 600, pollInterval⟩

/-- The announcement comes after a line that cannot be decoded. -/
def stuttering : Session Script :=
  serving [(0, [255, LineBreak.byte.feed]), (150, announcement ++ [LineBreak.byte.feed])]

/-- The announcement is the first line. -/
def quiet : Session Script := serving [(150, announcement ++ [LineBreak.byte.feed])]

theorem feed_notMem_announcement : LineBreak.byte.feed ∉ announcement := by decide +kernel

theorem decode_announcement :
    Text.Utf8.decode announcement = .ok "Server2 listening on 3004".toList := by
  decide +kernel

theorem splitLines_stuttering :
    splitLines .byte (unread .out stuttering.host) = [[255], announcement] := by
  change splitLines .byte ([255] ++ LineBreak.byte.feed ::
    (announcement ++ [LineBreak.byte.feed] ++ [])) = _
  rw [Text.splitLines_append_feed (by decide), List.append_nil,
    Text.splitLines_append_feed feed_notMem_announcement,
    Text.splitLines_of_notMem List.not_mem_nil]
  decide +kernel

theorem splitLines_quiet : splitLines .byte (unread .out quiet.host) = [announcement] := by
  change splitLines .byte (announcement ++ [LineBreak.byte.feed] ++ []) = _
  rw [List.append_nil, Text.splitLines_append_feed feed_notMem_announcement,
    Text.splitLines_of_notMem List.not_mem_nil]
  decide +kernel

theorem stuttering_ends : Ends ((watching 100).run child (.ofStreams true true)) stuttering
    (fun _ s' => s'.journal.garbled = 1) (fun _ _ => False) := by
  decide +kernel

theorem quiet_ends : Ends ((watching 5000).run child (.ofStreams true true)) quiet
    (fun x _ => x.2 = .timedOut) (fun _ _ => False) := by
  decide +kernel

end Simulation.Script

namespace Watch

open Simulation (Script)

/-- A line that cannot be decoded delays the marker by less than there is time. -/
theorem marker_is_found_unless_pauses_fill_the_time_on_script :
    ∃ r' s', (Script.watching 100).run Script.child (.ofStreams true true) Script.stuttering =
      .ok (r', .ready) s' := by
  have hlines := Script.splitLines_stuttering
  have hpatience : (splitLines .byte (Script.unread .out Script.stuttering.host)).length +
      (splitLines .byte (Script.unread .err Script.stuttering.host)).length + 2 +
      (Script.watching 100).timeout + readWindow < Host.patience Script.stuttering.host := by
    have hnothing : splitLines .byte (Script.unread .err Script.stuttering.host) = [] :=
      Text.splitLines_of_notMem List.not_mem_nil
    rw [hlines, hnothing]
    decide +kernel
  have hnow : Script.stuttering.clock ≤ 150 := by decide
  have harrived : 1 < (Script.arrived .out 150 Script.stuttering.host).count LineBreak.byte.feed := by
    decide +kernel
  have hline : (splitLines .byte (Script.unread .out Script.stuttering.host))[1]? =
      some Script.announcement := by
    rw [hlines]
    rfl
  have hleaves : Script.stuttering.Leaves Script.child := nofun
  have hclock : Script.stuttering.clock + (Script.watching 100).timeout < clockLimit := by
    decide +kernel
  have htime : 150 < Script.stuttering.clock + (Script.watching 100).timeout := by decide
  have hmarker : Text.occursIn (Script.watching 100).marker.toList
      "Server2 listening on 3004".toList = true := by
    decide +kernel
  obtain ⟨r', outcome, s', hok, hend⟩ := marker_is_found_unless_pauses_fill_the_time Script.punctual
    hleaves rfl hclock hpatience hnow htime harrived hline Script.decode_announcement hmarker
  rcases hend with rfl | ⟨-, t, n, k, -, -, -, hbegun, hgarbled, honce, hfilled⟩
  · exact ⟨r', s', hok⟩
  · -- only one line cannot be decoded
    have hone := Script.stuttering_ends.of_ok hok
    change t.clock ≤ 150 + 100 at hbegun
    change 0 + 600 ≤ t.clock + 100 * (n + k) at hfilled
    omega

/-- A pause may go on past the time at which the marker is there, up to the deadline: that the marker
is always found is not so. -/
theorem marker_is_missed_in_a_pause : ¬ ∀ (w : Watch) (s : Session Script) (stream : Stream)
    (time i : Nat) (line : Bytes) (text : List Char),
    '\n' ∉ w.marker.toList → 0 < w.timeout → s.Leaves Script.child → s.interruptible = false →
    s.clock + w.timeout < clockLimit →
    (splitLines .byte (Script.unread .out s.host)).length +
      (splitLines .byte (Script.unread .err s.host)).length + 2 + w.timeout + readWindow <
        Host.patience s.host →
    s.clock ≤ time → time < s.clock + w.timeout →
    i < (Script.arrived stream time s.host).count LineBreak.byte.feed →
    (splitLines .byte (Script.unread stream s.host))[i]? = some line →
    Text.Utf8.decode line = .ok text → Text.occursIn w.marker.toList text = true →
    ∃ r' s', w.run Script.child (.ofStreams true true) s = .ok (r', .ready) s' := by
  intro hclaim
  have hlines := Script.splitLines_quiet
  have hnothing : splitLines .byte (Script.unread .err Script.quiet.host) = [] :=
    Text.splitLines_of_notMem List.not_mem_nil
  have hpatience : (splitLines .byte (Script.unread .out Script.quiet.host)).length +
      (splitLines .byte (Script.unread .err Script.quiet.host)).length + 2 +
      (Script.watching 5000).timeout + readWindow < Host.patience Script.quiet.host := by
    rw [hlines, hnothing]
    decide +kernel
  have hline : (splitLines .byte (Script.unread .out Script.quiet.host))[0]? =
      some Script.announcement := by
    rw [hlines]
    rfl
  obtain ⟨r', s', hok⟩ := hclaim (Script.watching 5000) Script.quiet .out 150 0 Script.announcement
    "Server2 listening on 3004".toList (by decide +kernel) (by decide) nofun rfl (by decide +kernel)
    hpatience (by decide) (by decide) (by decide +kernel) hline Script.decode_announcement
    (by decide +kernel)
  exact absurd (Script.quiet_ends.of_ok hok) nofun

end Watch

end LatencyHarness
